import SoftwareContainers.Gateway.Trace

namespace SoftwareContainers

open Effect Effect.Act

/-! Sequences of `startGateways` calls in which every hook succeeds. -/

namespace PlainGateway

def configuredBy (gwConfig : GatewayConfiguration) (gateway : PlainGateway) :
    PlainGateway :=
  match gwConfig[gateway.base.id]? with
  | none => gateway
  | some config =>
      { base := { gateway.base with state := .configured }
        accepted := gateway.accepted ++ config.elements }

def afterActivation (gateway : PlainGateway) : PlainGateway :=
  if gateway.base.state = .created then gateway
  else { gateway with base := { gateway.base with state := .activated } }

/-- Every id matches a gateway and has a non-empty array of objects. -/
structure WellFormed (gateways : List PlainGateway)
    (gwConfig : GatewayConfiguration) : Prop where
  matched : ∀ id ∈ gwConfig, ∃ gateway ∈ gateways, gateway.base.id = id
  filled : ∀ (id : String) (config : Json), gwConfig[id]? = some config →
    ∃ head tail, config = .array (head :: tail) ∧
      ∀ element ∈ head :: tail, element.isObject = true

theorem readConfigElements_of_objects {elements : List Json}
    (objects : ∀ element ∈ elements, element.isObject = true)
    (gateway : PlainGateway) (history : History HookInterface) :
    ∃ history', (hooks.readConfigElements elements).run allSucceed
        ⟨(gateway, ()), history⟩ =
      (.ok true, ⟨(gateway.accept elements, ()), history'⟩) := by
  induction elements generalizing gateway history with
  | nil => exact ⟨history, by rw [accept_nil]; rfl⟩
  | cons head tail ih =>
      have headObject : head.isObject = true := objects head List.mem_cons_self
      obtain ⟨history', ended⟩ := ih
        (fun element member => objects element (List.mem_cons_of_mem _ member))
        (gateway.accept [head])
        (history ++ [⟨gateway.readCall head, .returned true⟩])
      refine ⟨history', ?_⟩
      rw [accept_accept] at ended
      rw [GatewayHooks.readConfigElements, headObject]
      exact ended

theorem run_setConfig_of_objects {gateway : PlainGateway}
    (unlocked : ¬ GatewayHooks.Locked gateway.base) {head : Json} {tail : List Json}
    (objects : ∀ element ∈ head :: tail, element.isObject = true)
    (history : History HookInterface) :
    ∃ history', (hooks.setConfig (.array (head :: tail))).run allSucceed
        ⟨(gateway, ()), history⟩ =
      (.ok true, ⟨({ base := { gateway.base with state := .configured }
                     accepted := gateway.accepted ++ head :: tail }, ()),
        history'⟩) := by
  obtain ⟨history', ended⟩ := readConfigElements_of_objects objects gateway history
  refine ⟨history', ?_⟩
  rw [hooks.run_setConfig_array _ ⟨(gateway, ()), history⟩ head tail unlocked,
    run_bind, ended]
  rfl

theorem passes_configureGateway {gateways : List PlainGateway}
    {gwConfig : GatewayConfiguration} (wellFormed : WellFormed gateways gwConfig)
    {gateway : PlainGateway}
    (unlocked : gateway.base.id ∈ gwConfig → ¬ GatewayHooks.Locked gateway.base) :
    Passes (SoftwareContainer.configureGateway gatewayClass gwConfig) allSucceed ()
      (configuredBy gwConfig) gateway := by
  intro history
  cases named : gwConfig[gateway.base.id]? with
  | none =>
      refine ⟨history, ?_⟩
      rw [SoftwareContainer.run_configureGateway_of_unnamed
        (show gwConfig[gatewayClass.id gateway]? = none from named)]
      simp only [configuredBy, named]
  | some config =>
      obtain ⟨head, tail, rfl, objects⟩ := wellFormed.filled _ _ named
      have member : gateway.base.id ∈ gwConfig :=
        Std.ExtTreeMap.isSome_getElem?_iff_mem.mp (by rw [named]; rfl)
      obtain ⟨history', ended⟩ :=
        run_setConfig_of_objects (unlocked member) objects history
      refine ⟨history', ?_⟩
      rw [SoftwareContainer.run_configureGateway_of_named
        (show gwConfig[gatewayClass.id gateway]? = _ from named)]
      simp only [configuredBy, named]
      exact congrArg (fun ended => (Except.map _ ended.1, ended.2)) ended

theorem passes_activateGateway {gateway : PlainGateway}
    (inactive : gateway.base.state ≠ .activated) :
    Passes (SoftwareContainer.activateGateway gatewayClass) allSucceed ()
      afterActivation gateway := by
  intro history
  cases state : gateway.base.state with
  | created =>
      refine ⟨history, ?_⟩
      rw [SoftwareContainer.run_activateGateway_of_unconfigured
        (show gatewayClass.isConfigured gateway = false by
          simp [GatewayHooks.toGatewayClass, hooks, GatewayBase.isConfigured, state,
            GatewayState.value])]
      simp only [afterActivation, state, if_true]
  | configured =>
      have ended := hooks.run_activate_of_configured allSucceed
        ⟨(gateway, ()), history⟩ state
      refine ⟨history ++ [⟨.activateGateway gateway.base.id gateway.accepted,
        .returned true⟩], ?_⟩
      rw [SoftwareContainer.run_activateGateway_of_configured
        (GatewayBase.isConfigured_iff.mpr (by simp [hooks, state]))]
      refine (congrArg (fun ended => (Except.map _ ended.1, ended.2)) ended).trans ?_
      simp only [afterActivation, state]
      rfl
  | activated => exact absurd state inactive

theorem throws_activateGateway {gateway : PlainGateway}
    (active : gateway.base.state = .activated) :
    Throws (SoftwareContainer.activateGateway gatewayClass) allSucceed ()
      gateway := by
  intro history
  obtain ⟨message, ended⟩ := hooks.run_activate_of_not_configured allSucceed
    ⟨(gateway, ()), history⟩ (by simp [hooks, active])
  refine ⟨.gatewayError message, ⟨(gateway, ()), history⟩, ?_⟩
  rw [SoftwareContainer.run_activateGateway_of_configured
    (GatewayBase.isConfigured_iff.mpr (by simp [hooks, active]))]
  exact congrArg (fun ended => (Except.map _ ended.1, ended.2)) ended

theorem configuredBy_of_named {gwConfig : GatewayConfiguration}
    {gateway : PlainGateway} (named : gateway.base.id ∈ gwConfig) :
    (gateway.configuredBy gwConfig).base =
      { gateway.base with state := .configured } := by
  obtain ⟨config, found⟩ :=
    Option.isSome_iff_exists.mp (Std.ExtTreeMap.isSome_getElem?_iff_mem.mpr named)
  rw [configuredBy, found]

theorem configuredBy_of_unnamed {gwConfig : GatewayConfiguration}
    {gateway : PlainGateway} (unnamed : gateway.base.id ∉ gwConfig) :
    gateway.configuredBy gwConfig = gateway := by
  rw [configuredBy, Std.ExtTreeMap.getElem?_eq_none unnamed]

/-- One call, seen from one gateway. -/
def startedBy (gwConfig : GatewayConfiguration) (gateway : PlainGateway) :
    PlainGateway :=
  (gateway.configuredBy gwConfig).afterActivation

theorem startedBy_id (gwConfig : GatewayConfiguration) (gateway : PlainGateway) :
    (gateway.startedBy gwConfig).base.id = gateway.base.id := by
  rw [startedBy, afterActivation]
  by_cases named : gateway.base.id ∈ gwConfig
  · simp [configuredBy_of_named named]
  · rw [configuredBy_of_unnamed named]
    split <;> rfl

theorem startedBy_state (gwConfig : GatewayConfiguration) (gateway : PlainGateway) :
    (gateway.startedBy gwConfig).base.state =
      if gateway.base.id ∈ gwConfig ∨ gateway.base.state ≠ .created then .activated
      else .created := by
  rw [startedBy, afterActivation]
  by_cases named : gateway.base.id ∈ gwConfig
  · simp [configuredBy_of_named named, named]
  · rw [configuredBy_of_unnamed named]
    by_cases created : gateway.base.state = .created <;> simp [named, created]

theorem startedBy_activated_iff {gwConfig : GatewayConfiguration}
    {gateway : PlainGateway} :
    (gateway.startedBy gwConfig).base.state = .activated ↔
      gateway.base.id ∈ gwConfig ∨ gateway.base.state ≠ .created := by
  rw [startedBy_state]
  split <;> simp [*]

theorem startedBy_state_ne_configured (gwConfig : GatewayConfiguration)
    (gateway : PlainGateway) :
    (gateway.startedBy gwConfig).base.state ≠ .configured := by
  rw [startedBy_state]
  split <;> simp

theorem WellFormed.startedBy {gateways : List PlainGateway}
    {gwConfig earlier : GatewayConfiguration}
    (wellFormed : WellFormed gateways gwConfig) :
    WellFormed (gateways.map (startedBy earlier)) gwConfig where
  matched id member := by
    obtain ⟨gateway, inGateways, same⟩ := wellFormed.matched id member
    exact ⟨_, List.mem_map_of_mem inGateways, (startedBy_id _ _).trans same⟩
  filled := wellFormed.filled

end PlainGateway

namespace SoftwareContainer

open PlainGateway

/-- Every gateway that is active already is named by the configuration. -/
def Covers (self : PlainContainer) (gwConfig : GatewayConfiguration) : Prop :=
  ∀ gateway ∈ self.gateways, gateway.base.state = .activated →
    gateway.base.id ∈ gwConfig

def startedBy (gwConfig : GatewayConfiguration) (self : PlainContainer) :
    PlainContainer :=
  { self with
    gateways := self.gateways.map (PlainGateway.startedBy gwConfig)
    previouslyConfigured := true }

theorem unmatchedId_eq_none {gateways : List PlainGateway}
    {gwConfig : GatewayConfiguration} (wellFormed : WellFormed gateways gwConfig) :
    unmatchedId gatewayClass gateways gwConfig = none := by
  rw [unmatchedId, List.find?_eq_none]
  intro id member
  obtain ⟨gateway, inGateways, same⟩ :=
    wellFormed.matched id (Std.ExtTreeMap.mem_keys.mp member)
  simpa using ⟨gateway, inGateways, same⟩

section

variable {self : PlainContainer} {gwConfig : GatewayConfiguration}
  (ready : self.containerState = .ready)
  (wellFormed : WellFormed self.gateways gwConfig)
  (unlocked : ∀ gateway ∈ self.gateways, gateway.base.id ∈ gwConfig →
    ¬ GatewayHooks.Locked gateway.base)

include ready wellFormed unlocked

theorem run_configureGateways_of_wellFormed (history : History HookInterface) :
    ∃ history', (configureGateways gatewayClass gwConfig).run allSucceed
        ⟨self, history⟩ =
      (.ok true, ⟨{ self with
        gateways := self.gateways.map (configuredBy gwConfig) }, history'⟩) := by
  obtain ⟨history', ended⟩ := sweepList_map
    (fun gateway member =>
      passes_configureGateway wellFormed (unlocked gateway member)) history
  refine ⟨history', ?_⟩
  rw [run_configureGateways_of_matched (by simp [ready])
    (unmatchedId_eq_none wellFormed), ended]
  rfl

theorem run_startGateways_of_covers (covers : self.Covers gwConfig)
    (history : History HookInterface) :
    ∃ history', (startGateways gatewayClass gwConfig).run allSucceed
        ⟨self, history⟩ =
      (.ok true, ⟨self.startedBy gwConfig, history'⟩) := by
  obtain ⟨middle, configureEnded⟩ :=
    run_configureGateways_of_wellFormed ready wellFormed unlocked history
  have inactive : ∀ gateway ∈ self.gateways.map (configuredBy gwConfig),
      gateway.base.state ≠ .activated := by
    intro gateway member
    obtain ⟨original, inGateways, rfl⟩ := List.mem_map.mp member
    by_cases named : original.base.id ∈ gwConfig
    · simp [configuredBy_of_named named]
    · rw [configuredBy_of_unnamed named]
      exact fun active => named (covers original inGateways active)
  obtain ⟨history', activateEnded⟩ := sweepList_map
    (fun gateway member => passes_activateGateway (inactive gateway member)) middle
  refine ⟨history', ?_⟩
  rw [run_startGateways_of_ready ready, run_bind_ok configureEnded]
  simp only [run_bind, run_activateGateways, activateEnded, Bool.not_true,
    Bool.false_eq_true, if_false]
  simp [startedBy, Except.map, Function.comp_def, PlainGateway.startedBy]

theorem run_startGateways_of_not_covers (left : ¬ self.Covers gwConfig)
    (history : History HookInterface) :
    ∃ error, ((startGateways gatewayClass gwConfig).run allSucceed
      ⟨self, history⟩).1 = .error error := by
  obtain ⟨middle, configureEnded⟩ :=
    run_configureGateways_of_wellFormed ready wellFormed unlocked history
  have throwing : ∃ gateway ∈ self.gateways.map (configuredBy gwConfig),
      Throws (activateGateway gatewayClass) allSucceed () gateway := by
    simp only [Covers, not_forall] at left
    obtain ⟨gateway, member, active, unnamed⟩ := left
    refine ⟨gateway, List.mem_map.mpr
      ⟨gateway, member, configuredBy_of_unnamed unnamed⟩, ?_⟩
    exact throws_activateGateway active
  obtain ⟨error, world, activateEnded⟩ := sweepList_error
    (fun gateway _ => (ne_or_eq gateway.base.state .activated).imp
      passes_activateGateway throws_activateGateway) throwing middle
  refine ⟨error, ?_⟩
  rw [run_startGateways_of_ready ready, run_bind_ok configureEnded]
  simp only [run_bind, run_activateGateways, activateEnded, Bool.not_true,
    Bool.false_eq_true, if_false]
  rfl

end

/-- No call configures a gateway that is activated and not dynamic when the call
starts. -/
def NeverReconfigures (self : PlainContainer) (history : History HookInterface)
    (calls : List GatewayConfiguration) : Prop :=
  ∀ earlier call later, calls = earlier ++ call :: later →
    ∀ gateway ∈ (runAll (startGateways gatewayClass) allSucceed earlier
        ⟨self, history⟩).2.state.gateways,
      gateway.base.id ∈ call → ¬ GatewayHooks.Locked gateway.base

/-- Every call names each gateway that an earlier call, or what came before the
first one, has activated. -/
structure NamesActivated (container : PlainContainer)
    (calls : List GatewayConfiguration) : Prop where
  activated : ∀ gateway ∈ container.gateways, gateway.base.state = .activated →
    ∀ call ∈ calls, gateway.base.id ∈ call
  configured : ∀ gateway ∈ container.gateways, gateway.base.state = .configured →
    ∀ call ∈ calls.tail, gateway.base.id ∈ call
  named : calls.Pairwise fun earlier later => ∀ gateway ∈ container.gateways,
    gateway.base.id ∈ earlier → gateway.base.id ∈ later

theorem namesActivated_cons {self : PlainContainer} {call : GatewayConfiguration}
    {rest : List GatewayConfiguration} :
    self.NamesActivated (call :: rest) ↔
      self.Covers call ∧ (self.startedBy call).NamesActivated rest := by
  constructor
  · intro names
    obtain ⟨namedFirst, namedRest⟩ := List.pairwise_cons.mp names.named
    refine ⟨fun gateway member active =>
      names.activated gateway member active call List.mem_cons_self, ?_, ?_, ?_⟩
    · intro started member active later inRest
      obtain ⟨gateway, inGateways, rfl⟩ := List.mem_map.mp member
      rw [startedBy_id]
      rcases startedBy_activated_iff.mp active with named | notCreated
      · exact namedFirst later inRest gateway inGateways named
      · cases state : gateway.base.state with
        | created => exact absurd state notCreated
        | configured => exact names.configured gateway inGateways state later inRest
        | activated =>
            exact names.activated gateway inGateways state later
              (List.mem_cons_of_mem _ inRest)
    · intro started member configured
      obtain ⟨gateway, _, rfl⟩ := List.mem_map.mp member
      exact absurd configured (startedBy_state_ne_configured call gateway)
    · refine namedRest.imp fun related started member => ?_
      obtain ⟨gateway, inGateways, rfl⟩ := List.mem_map.mp member
      rw [startedBy_id]
      exact related gateway inGateways
  · rintro ⟨covers, names⟩
    have namesActive : ∀ gateway ∈ self.gateways,
        gateway.base.id ∈ call ∨ gateway.base.state ≠ .created →
        ∀ later ∈ rest, gateway.base.id ∈ later := by
      intro gateway member active later inRest
      rw [← startedBy_id call]
      exact names.activated _ (List.mem_map_of_mem member)
        (startedBy_activated_iff.mpr active) later inRest
    refine ⟨?_, ?_, List.pairwise_cons.mpr ⟨?_, ?_⟩⟩
    · intro gateway member active later inCalls
      rcases List.mem_cons.mp inCalls with rfl | inRest
      · exact covers gateway member active
      · exact namesActive gateway member (.inr (by simp [active])) later inRest
    · intro gateway member configured
      exact namesActive gateway member (.inr (by simp [configured]))
    · intro later inRest gateway member named
      exact namesActive gateway member (.inl named) later inRest
    · refine names.named.imp fun related gateway member named => ?_
      rw [← startedBy_id call] at named ⊢
      exact related _ (List.mem_map_of_mem member) named

/-- When every hook succeeds, the calls all succeed exactly when each names the
gateways that are active by then. -/
theorem startGateways_calls_succeed_iff (self : PlainContainer)
    (calls : List GatewayConfiguration) (history : History HookInterface)
    (ready : self.containerState = .ready)
    (wellFormed : ∀ call ∈ calls, WellFormed self.gateways call)
    (unlocked : self.NeverReconfigures history calls) :
    (∀ result ∈ (runAll (startGateways gatewayClass) allSucceed calls
      ⟨self, history⟩).1, result = .ok true) ↔ self.NamesActivated calls := by
  induction calls generalizing self history with
  | nil => exact ⟨fun _ => ⟨by simp, by simp, .nil⟩, fun _ => nofun⟩
  | cons call rest ih =>
      have callWellFormed := wellFormed call List.mem_cons_self
      have callUnlocked : ∀ gateway ∈ self.gateways, gateway.base.id ∈ call →
          ¬ GatewayHooks.Locked gateway.base := unlocked [] call rest rfl
      rw [namesActivated_cons]
      by_cases covers : self.Covers call
      · obtain ⟨history', ended⟩ := run_startGateways_of_covers ready callWellFormed
          callUnlocked covers history
        have restUnlocked : (self.startedBy call).NeverReconfigures history' rest := by
          intro earlier next later split
          have reached := unlocked (call :: earlier) next later (by rw [split]; rfl)
          rwa [runAll, ended] at reached
        have restSucceeds := ih (self.startedBy call) history' ready
          (fun later inRest =>
            (wellFormed later (List.mem_cons_of_mem _ inRest)).startedBy)
          restUnlocked
        simp only [runAll, ended, List.forall_mem_cons, true_and, covers]
        exact restSucceeds
      · obtain ⟨error, ended⟩ := run_startGateways_of_not_covers ready callWellFormed
          callUnlocked covers history
        simp [runAll, ended, covers]

/-! Two calls that each name a gateway of their own. -/

theorem wellFormed_probe {gateways : List PlainGateway} (gateway : PlainGateway)
    (member : gateway ∈ gateways) : WellFormed gateways (probe gateway.base.id) where
  matched id named := ⟨gateway, member, by simpa [probe] using named⟩
  filled id config found := by
    rw [probe, Std.ExtTreeMap.getElem?_insert] at found
    split at found
    · obtain rfl := Option.some.inj found
      exact ⟨.object [], [], rfl, by simp [Json.isObject]⟩
    · simp at found

def deviceEnvContainer : PlainContainer :=
  { networkEnvContainer with
    gateways := [freshGateway "devicenode" true, freshGateway "env" false] }

def deviceThenEnv : List GatewayConfiguration := [probe "devicenode", probe "env"]

theorem wellFormed_deviceThenEnv (call : GatewayConfiguration)
    (member : call ∈ deviceThenEnv) :
    WellFormed deviceEnvContainer.gateways call := by
  rcases List.mem_cons.mp member with rfl | member
  · exact wellFormed_probe (freshGateway "devicenode" true)
      List.mem_cons_self
  · obtain rfl := List.mem_singleton.mp member
    exact wellFormed_probe (freshGateway "env" false)
      (List.mem_cons_of_mem _ List.mem_cons_self)

theorem neverReconfigures_deviceThenEnv :
    deviceEnvContainer.NeverReconfigures [] deviceThenEnv := by
  intro earlier call later split gateway member _
  match earlier, split with
  | [], _ =>
      have created : ∀ gateway ∈ deviceEnvContainer.gateways,
          ¬ GatewayHooks.Locked gateway.base := by decide
      exact created gateway member
  | [first], split =>
      obtain ⟨rfl, -⟩ := List.cons.inj split
      have dynamic : ∀ gateway ∈ (runAll (startGateways gatewayClass) allSucceed
          [probe "devicenode"] ⟨deviceEnvContainer, []⟩).2.state.gateways,
          ¬ GatewayHooks.Locked gateway.base := by decide
      exact dynamic gateway member
  | _ :: _ :: _, split => simp [deviceThenEnv] at split

/-- The dynamic device node gateway, activated by the first call and not named by
the second, makes the second call throw. -/
theorem second_call_throws :
    (runAll (startGateways gatewayClass) allSucceed deviceThenEnv
      ⟨deviceEnvContainer, []⟩).1 =
      [.ok true, .error (.gatewayError
        ("Activate was called on a gateway which is not in configured state. " ++
          "Gateway ID: devicenode"))] ∧
    (∀ call ∈ deviceThenEnv, WellFormed deviceEnvContainer.gateways call) ∧
    deviceEnvContainer.NeverReconfigures [] deviceThenEnv :=
  ⟨rfl, wellFormed_deviceThenEnv, neverReconfigures_deviceThenEnv⟩

theorem startGateways_calls_succeed_iff_deviceThenEnv :
    (∀ result ∈ (runAll (startGateways gatewayClass) allSucceed deviceThenEnv
      ⟨deviceEnvContainer, []⟩).1, result = .ok true) ↔
      deviceEnvContainer.NamesActivated deviceThenEnv :=
  startGateways_calls_succeed_iff deviceEnvContainer deviceThenEnv [] rfl
    wellFormed_deviceThenEnv neverReconfigures_deviceThenEnv

end SoftwareContainer

end SoftwareContainers
