import SoftwareContainers.Gateway.Plain

namespace SoftwareContainers

open Effect Effect.Act

/-! What a `startGateways` that fails while configuring leaves behind. -/

namespace PlainGateway

/-- The loop of `setConfig` accepts a prefix of the elements, and that prefix is
empty exactly when the first element is not accepted. -/
theorem readConfigElements_accepts (elements : List Json) (gateway : PlainGateway)
    (oracle : Oracle HookInterface) (history : History HookInterface) :
    ∃ result taken history',
      (hooks.readConfigElements elements).run oracle ⟨(gateway, ⟨⟩), history⟩ =
        (result, ⟨(gateway.accept taken, ⟨⟩), history'⟩) ∧
      (taken = [] ↔
        ∀ element ∈ elements.head?, ¬ gateway.Accepts oracle history element) ∧
      (result = .ok true → taken = elements) := by
  induction elements generalizing gateway history with
  | nil =>
      refine ⟨.ok true, [], history, ?_, by simp, fun _ => rfl⟩
      simp [GatewayHooks.readConfigElements]
  | cons element rest ih =>
      by_cases isObject : element.isObject = true
      · have unfolded :
            (hooks.readConfigElements (element :: rest)).run oracle
                ⟨(gateway, ⟨⟩), history⟩ =
              (do
                if !(← readConfigElement element) then
                  return false
                else
                  hooks.readConfigElements rest : Method Bool).run oracle
                ⟨(gateway, ⟨⟩), history⟩ := by
          rw [GatewayHooks.readConfigElements, isObject]
          rfl
        rw [unfolded, run_bind, run_readConfigElement]
        cases answered : oracle history (gateway.readCall element) with
        | returned accepted =>
            cases accepted with
            | true =>
                obtain ⟨result, taken, history', ended, _, whole⟩ :=
                  ih (gateway.accept [element])
                    (history ++ [⟨gateway.readCall element, .returned true⟩])
                refine ⟨result, element :: taken, history', ?_, ?_, ?_⟩
                · simpa using ended
                · simp [Accepts, isObject, answered]
                · intro succeeded
                  rw [whole succeeded]
            | false =>
                exact ⟨.ok false, [], _, by simp; rfl,
                  by simp [Accepts, answered], nofun⟩
        | threw fault =>
            exact ⟨.error fault, [], _, by simp; rfl,
              by simp [Accepts, answered], nofun⟩
      · refine ⟨.ok false, [], history, ?_, by simp [Accepts, isObject], nofun⟩
        simp [GatewayHooks.readConfigElements, isObject]

theorem run_setConfig_of_refusesFirst {gateway : PlainGateway}
    {oracle : Oracle HookInterface} {history : History HookInterface}
    {config : Json} (refuses : gateway.RefusesFirst oracle history config) :
    ∃ result history', result ≠ .ok true ∧
      (hooks.setConfig config).run oracle ⟨(gateway, ⟨⟩), history⟩ =
        (result, ⟨(gateway, ⟨⟩), history'⟩) := by
  by_cases locked : GatewayHooks.Locked gateway.base
  · obtain ⟨message, ended⟩ := hooks.run_setConfig_of_locked oracle
      ⟨(gateway, ⟨⟩), history⟩ config locked
    exact ⟨_, history, by simp, ended⟩
  · cases shape : config.elements with
    | nil =>
        exact ⟨.ok false, history, by simp,
          hooks.run_setConfig_of_elements_nil oracle _ locked shape⟩
    | cons head tail =>
        obtain rfl : config = .array (head :: tail) := by
          cases config <;> simp_all [Json.elements]
        obtain ⟨result, taken, history', ended, empty, whole⟩ :=
          readConfigElements_accepts (head :: tail) gateway oracle history
        have takenEmpty : taken = [] :=
          empty.mpr (refuses.resolve_left locked)
        subst takenEmpty
        rw [hooks.run_setConfig_array oracle ⟨(gateway, ⟨⟩), history⟩ head tail locked,
          run_bind, ended, accept_nil]
        match result with
        | .ok true => exact absurd (whole rfl) (by simp)
        | .ok false => exact ⟨.ok false, history', by simp, rfl⟩
        | .error fault => exact ⟨.error fault, history', by simp, rfl⟩

/-- Once an element has been accepted, the gateway differs from what it was,
and it can still be configured again. -/
theorem run_setConfig_of_not_refusesFirst {gateway : PlainGateway}
    {oracle : Oracle HookInterface} {history : History HookInterface}
    {config : Json} (takes : ¬ gateway.RefusesFirst oracle history config) :
    ∃ result gateway' history',
      (hooks.setConfig config).run oracle ⟨(gateway, ⟨⟩), history⟩ =
        (result, ⟨(gateway', ⟨⟩), history'⟩) ∧
      gateway'.base.id = gateway.base.id ∧
      ¬ GatewayHooks.Locked gateway'.base ∧
      gateway'.accepted ≠ gateway.accepted := by
  obtain ⟨unlocked, accepts⟩ := not_or.mp takes
  cases shape : config.elements with
  | nil => exact absurd (by simp [shape]) accepts
  | cons head tail =>
      obtain rfl : config = .array (head :: tail) := by
        cases config <;> simp_all [Json.elements]
      obtain ⟨result, taken, history', ended, empty, _⟩ :=
        readConfigElements_accepts (head :: tail) gateway oracle history
      have takenSome : taken ≠ [] := fun none => accepts (empty.mp none)
      have grown : gateway.accepted ++ taken ≠ gateway.accepted := by
        simpa using takenSome
      rw [hooks.run_setConfig_array oracle ⟨(gateway, ⟨⟩), history⟩ head tail unlocked,
        run_bind, ended]
      match result with
      | .ok true =>
          exact ⟨.ok true, _, history', rfl, rfl,
            by simp [GatewayHooks.Locked, hooks], grown⟩
      | .ok false =>
          exact ⟨.ok false, _, history', rfl, rfl, unlocked, grown⟩
      | .error fault =>
          exact ⟨.error fault, _, history', rfl, rfl, unlocked, grown⟩

end PlainGateway

namespace SoftwareContainer

open PlainGateway

abbrev PlainContainer := SoftwareContainer PlainGateway Unit

/-- The first gateway, in the container's order, that the configuration names. -/
def firstNamed (gateways : List PlainGateway) (gwConfig : GatewayConfiguration) :
    Option PlainGateway :=
  gateways.find? fun gateway => gwConfig.contains gateway.base.id

/-- The call is refused before any gateway has accepted an element: an id maps
to no gateway, or the first gateway named accepts not even its first element. -/
def RefusedAtOnce (self : PlainContainer) (gwConfig : GatewayConfiguration)
    (oracle : Oracle HookInterface) (history : History HookInterface) : Prop :=
  (unmatchedId gatewayClass self.gateways gwConfig).isSome ∨
    ∃ gateway config, firstNamed self.gateways gwConfig = some gateway ∧
      gwConfig[gateway.base.id]? = some config ∧
      gateway.RefusesFirst oracle history config

/-- Every later sequence of calls runs the same from both containers: the same
hooks with the same accepted elements, in the same order, and the same results. -/
def LeavesNoTrace (before after : PlainContainer) : Prop :=
  ∀ (oracle : Oracle HookInterface) (later : List GatewayConfiguration),
    let ran := runAll (startGateways gatewayClass) oracle later
    (ran ⟨after, []⟩).1 = (ran ⟨before, []⟩).1 ∧
      (ran ⟨after, []⟩).2.history = (ran ⟨before, []⟩).2.history

theorem unnamed_of_contains_eq_false {gwConfig : GatewayConfiguration}
    {gateway : PlainGateway} (absent : gwConfig.contains gateway.base.id = false) :
    gwConfig[gatewayClass.id gateway]? = none :=
  Std.ExtTreeMap.getElem?_eq_none_of_contains_eq_false absent

theorem sweep_to_firstNamed {gwConfig : GatewayConfiguration}
    {passed : List PlainGateway} (rest : List PlainGateway)
    (unnamed : ∀ gateway ∈ passed, gwConfig.contains gateway.base.id = false)
    (oracle : Oracle HookInterface) (history : History HookInterface) :
    sweepList (configureGateway gatewayClass gwConfig) oracle (passed ++ rest) ()
        history =
      let swept := sweepList (configureGateway gatewayClass gwConfig) oracle rest
        () history
      (swept.1, ⟨(passed ++ swept.2.state.1, swept.2.state.2),
        swept.2.history⟩) :=
  sweepList_append passed rest () history fun gateway member =>
    run_configureGateway_of_unnamed
      (unnamed_of_contains_eq_false (unnamed gateway member)) oracle () history

theorem firstNamed_eq_some {gateways : List PlainGateway}
    {gwConfig : GatewayConfiguration} {gateway : PlainGateway}
    (first : firstNamed gateways gwConfig = some gateway) :
    ∃ passed rest, gateways = passed ++ gateway :: rest ∧
      (∀ other ∈ passed, gwConfig.contains other.base.id = false) ∧
      ∃ config, gwConfig[gateway.base.id]? = some config := by
  obtain ⟨named, passed, rest, split, before⟩ :=
    List.find?_eq_some_iff_append.mp first
  refine ⟨passed, rest, split, fun other member => by
    simpa using before other member, ?_⟩
  exact Option.isSome_iff_exists.mp (by simpa using named)

/-- A call refused at once leaves the container as it was. -/
theorem configureGateways_of_refusedAtOnce {self : PlainContainer}
    {gwConfig : GatewayConfiguration} {oracle : Oracle HookInterface}
    {history : History HookInterface} (ready : self.containerState = .ready)
    (refused : self.RefusedAtOnce gwConfig oracle history) :
    ((configureGateways gatewayClass gwConfig).run oracle
      ⟨self, history⟩).2.state = self := by
  have valid : self.containerState ≠ .invalid := by simp [ready]
  cases unmatched : unmatchedId gatewayClass self.gateways gwConfig with
  | some id => rw [run_configureGateways_of_unmatched valid unmatched]
  | none =>
      obtain ⟨gateway, config, first, configured, refuses⟩ :=
        refused.resolve_left (by simp [unmatched])
      obtain ⟨passed, rest, split, before, _⟩ := firstNamed_eq_some first
      obtain ⟨result, history', notTrue, ended⟩ :=
        run_setConfig_of_refusesFirst refuses
      have bodyEnded : (configureGateway gatewayClass gwConfig).run oracle
          ⟨(gateway, ⟨⟩), history⟩ =
            (result.map fun succeeded => if succeeded then none else some false,
              ⟨(gateway, ⟨⟩), history'⟩) := by
        rw [run_configureGateway_of_named
          (show gwConfig[gatewayClass.id gateway]? = _ from configured)]
        exact congrArg (fun ended => (Except.map _ ended.1, ended.2)) ended
      have stop : (result.map fun succeeded =>
          if succeeded then none else some false) ≠ .ok none := by
        match result, notTrue with
        | .ok true, notTrue => exact absurd rfl notTrue
        | .ok false, _ => simp [Except.map]
        | .error _, _ => simp [Except.map]
      rw [run_configureGateways_of_matched valid unmatched, split,
        sweep_to_firstNamed _ before, sweepList_cons_of_stop bodyEnded stop]
      cases self
      simp_all

/-- Once a gateway has accepted an element, the call leaves that gateway
changed, wherever the call fails afterwards. -/
theorem configureGateways_of_not_refusedAtOnce {self : PlainContainer}
    {gwConfig : GatewayConfiguration} {oracle : Oracle HookInterface}
    {history : History HookInterface} (ready : self.containerState = .ready)
    (failed : ((configureGateways gatewayClass gwConfig).run oracle
      ⟨self, history⟩).1 ≠ .ok true)
    (taken : ¬ self.RefusedAtOnce gwConfig oracle history) :
    ∃ passed gateway rest gateway' rest',
      self.gateways = passed ++ gateway :: rest ∧
      ((configureGateways gatewayClass gwConfig).run oracle
        ⟨self, history⟩).2.state =
          { self with gateways := passed ++ gateway' :: rest' } ∧
      (∀ other ∈ passed, other.base.id ≠ gateway.base.id) ∧
      gateway'.base.id = gateway.base.id ∧
      ¬ GatewayHooks.Locked gateway.base ∧ ¬ GatewayHooks.Locked gateway'.base ∧
      gateway'.accepted ≠ gateway.accepted := by
  have valid : self.containerState ≠ .invalid := by simp [ready]
  obtain ⟨matched, takes⟩ := not_or.mp taken
  rw [Option.not_isSome_iff_eq_none] at matched
  rw [run_configureGateways_of_matched valid matched] at failed ⊢
  cases first : firstNamed self.gateways gwConfig with
  | none =>
      have unnamed : ∀ gateway ∈ self.gateways,
          gwConfig.contains gateway.base.id = false := fun gateway member =>
        eq_false_of_ne_true (List.find?_eq_none.mp first gateway member)
      have passes := sweep_to_firstNamed [] unnamed oracle history
      rw [List.append_nil] at passes
      rw [passes] at failed
      exact absurd rfl failed
  | some gateway =>
      obtain ⟨passed, rest, split, before, config, configured⟩ :=
        firstNamed_eq_some first
      have unlocked : ¬ GatewayHooks.Locked gateway.base := fun locked =>
        takes ⟨gateway, config, first, configured, .inl locked⟩
      obtain ⟨result, gateway', history', ended, sameId, unlocked', grown⟩ :=
        run_setConfig_of_not_refusesFirst fun refuses =>
          takes ⟨gateway, config, first, configured, refuses⟩
      have others : ∀ other ∈ passed, other.base.id ≠ gateway.base.id := by
        intro other member same
        have absent := unnamed_of_contains_eq_false (before other member)
        rw [gatewayClass_id, same, configured] at absent
        cases absent
      obtain ⟨rest', head⟩ := sweepList_cons_head
        (configureGateway gatewayClass gwConfig) oracle gateway rest () history
      have bodyEnded : ((configureGateway gatewayClass gwConfig).run oracle
          ⟨(gateway, ()), history⟩).2.state.1 = gateway' := by
        rw [run_configureGateway_of_named
          (show gwConfig[gatewayClass.id gateway]? = _ from configured)]
        exact congrArg (fun ended => ended.2.state.1) ended
      rw [bodyEnded] at head
      refine ⟨passed, gateway, rest, gateway', rest', split, ?_, others, sameId,
        unlocked, unlocked', grown⟩
      rw [split, sweep_to_firstNamed _ before]
      dsimp only
      rw [head]

def probe (id : String) : GatewayConfiguration :=
  (∅ : GatewayConfiguration).insert id (.array [.object []])

/-- Whether a gateway has accepted anything shows in the first hook that a
later call runs on it. -/
theorem run_startGateways_probe {self : PlainContainer} {gateway : PlainGateway}
    {passed rest : List PlainGateway} (ready : self.containerState = .ready)
    (split : self.gateways = passed ++ gateway :: rest)
    (others : ∀ other ∈ passed, other.base.id ≠ gateway.base.id)
    (unlocked : ¬ GatewayHooks.Locked gateway.base) :
    ((startGateways gatewayClass (probe gateway.base.id)).run
      (fun _ _ => .returned false) ⟨self, []⟩).2.history =
        [⟨gateway.readCall (.object []), .returned false⟩] := by
  have valid : self.containerState ≠ .invalid := by simp [ready]
  have named : (probe gateway.base.id)[gatewayClass.id gateway]? =
      some (.array [.object []]) := by
    simp [probe]
  have unnamed : ∀ other ∈ passed,
      (probe gateway.base.id).contains other.base.id = false := by
    intro other member
    simpa [probe] using fun same => others other member same.symm
  have matched :
      unmatchedId gatewayClass self.gateways (probe gateway.base.id) = none := by
    rw [unmatchedId, List.find?_eq_none]
    intro id member
    have isId : gateway.base.id = id := by
      simpa [probe] using Std.ExtTreeMap.mem_keys.mp member
    simp [split, isId]
  have refused : (hooks.setConfig (.array [.object []])).run
      (fun _ _ => .returned false) ⟨(gateway, ()), []⟩ =
        (.ok false, ⟨(gateway, ()),
          [⟨gateway.readCall (.object []), .returned false⟩]⟩) := by
    rw [hooks.run_setConfig_array _ ⟨(gateway, ()), []⟩ _ _ unlocked]
    rfl
  have bodyEnded : (configureGateway gatewayClass (probe gateway.base.id)).run
      (fun _ _ => .returned false) ⟨(gateway, ()), []⟩ =
        (.ok (some false), ⟨(gateway, ()),
          [⟨gateway.readCall (.object []), .returned false⟩]⟩) := by
    rw [run_configureGateway_of_named named]
    exact congrArg (fun ended => (Except.map _ ended.1, ended.2)) refused
  have configureEnded :
      (configureGateways gatewayClass (probe gateway.base.id)).run
        (fun _ _ => .returned false) ⟨self, []⟩ =
          (.ok false, ⟨self,
            [⟨gateway.readCall (.object []), .returned false⟩]⟩) := by
    rw [run_configureGateways_of_matched valid matched, split,
      sweep_to_firstNamed _ unnamed,
      sweepList_cons_of_stop bodyEnded (by simp)]
    cases self
    simp_all [Except.map]
  rw [run_startGateways_of_configure_failed ready (by simp [configureEnded]),
    configureEnded]

/-- A call that fails while configuring leaves no trace exactly when it is
refused at once. -/
theorem leavesNoTrace_iff_refusedAtOnce (self : PlainContainer)
    (gwConfig : GatewayConfiguration) (oracle : Oracle HookInterface)
    (history : History HookInterface) (ready : self.containerState = .ready)
    (failed : ((configureGateways gatewayClass gwConfig).run oracle
      ⟨self, history⟩).1 ≠ .ok true) :
    self.LeavesNoTrace ((startGateways gatewayClass gwConfig).run oracle
      ⟨self, history⟩).2.state ↔
        self.RefusedAtOnce gwConfig oracle history := by
  rw [run_startGateways_of_configure_failed ready failed]
  constructor
  · intro noTrace
    by_contra taken
    obtain ⟨passed, gateway, rest, gateway', rest', split, after, others, sameId,
      unlocked, unlocked', grown⟩ :=
        configureGateways_of_not_refusedAtOnce ready failed taken
    rw [after] at noTrace
    have sameHistory := (noTrace (fun _ _ => .returned false)
      [probe gateway.base.id]).2
    have probedBefore := run_startGateways_probe ready split others unlocked
    have probedAfter := run_startGateways_probe
      (show ({ self with gateways := passed ++ gateway' :: rest' } :
        PlainContainer).containerState = .ready from ready) rfl (by simpa [sameId] using others) unlocked'
    rw [sameId] at probedAfter
    have sameCall : [(⟨gateway'.readCall (.object []), .returned false⟩ :
        Event HookInterface)] =
          [⟨gateway.readCall (.object []), .returned false⟩] :=
      probedAfter.symm.trans (sameHistory.trans probedBefore)
    simp only [readCall, List.cons.injEq, Event.mk.injEq,
      HookCall.readConfigElement.injEq] at sameCall
    exact grown sameCall.1.1.2.1
  · intro refused
    rw [configureGateways_of_refusedAtOnce ready refused]
    exact fun _ _ => ⟨rfl, rfl⟩

/-! A container with a network and an environment gateway, and a configuration
whose second element for the environment is not an object. -/

def freshGateway (id : String) (isDynamic : Bool) : PlainGateway :=
  ⟨.new id isDynamic, []⟩

def networkEnvContainer : PlainContainer where
  containerID := 0
  containerState := .ready
  container := ()
  gateways := [freshGateway "network" false, freshGateway "env" false]
  config := default
  previouslyConfigured := false

def brokenEnvConfig : GatewayConfiguration :=
  ((∅ : GatewayConfiguration).insert "network" (.array [.object []])).insert "env"
    (.array [.null])

/-- After the rejected call, a call that configures nothing activates the network
gateway, which only the rejected call configured. -/
theorem rejected_call_activates_later :
    ((configureGateways gatewayClass brokenEnvConfig).run allSucceed
      ⟨networkEnvContainer, []⟩).1 = .ok false ∧
    ((startGateways gatewayClass ∅).run allSucceed
      ⟨((startGateways gatewayClass brokenEnvConfig).run allSucceed
        ⟨networkEnvContainer, []⟩).2.state, []⟩).2.history =
      [⟨.activateGateway "network" [.object []], .returned true⟩] ∧
    ¬ networkEnvContainer.LeavesNoTrace
      ((startGateways gatewayClass brokenEnvConfig).run allSucceed
        ⟨networkEnvContainer, []⟩).2.state := by
  refine ⟨rfl, rfl, fun noTrace => ?_⟩
  have sameHistory := (noTrace allSucceed [∅]).2
  exact absurd (congrArg List.length sameHistory) (by decide)

theorem leavesNoTrace_iff_refusedAtOnce_brokenEnv :
    networkEnvContainer.LeavesNoTrace
      ((startGateways gatewayClass brokenEnvConfig).run allSucceed
        ⟨networkEnvContainer, []⟩).2.state ↔
      networkEnvContainer.RefusedAtOnce brokenEnvConfig allSucceed [] :=
  leavesNoTrace_iff_refusedAtOnce networkEnvContainer brokenEnvConfig allSucceed []
    rfl (fun ended : Except.ok false = Except.ok true => by cases ended)

end SoftwareContainer

end SoftwareContainers
