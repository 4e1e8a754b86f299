import SoftwareContainers.Gateways.Contracts

namespace SoftwareContainers

open Effect Effect.Act Hook

/-! Runs of a D-Bus gateway: configurations and activations in any order. -/

namespace DBusGatewayInstance

theorem isConfigured_iff {self : DBusGatewayInstance} :
    self.isConfigured = true ↔ self.base.state ≠ .created :=
  GatewayBase.isConfigured_iff

theorem run_activate_of_configured {self : DBusGatewayInstance} (valid : self.Valid)
    (configured : self.base.state = .configured) (oracle : Oracle Sys)
    (container : Container) (history : History Sys) :
    ∃ activated : Bool,
      (hooks.activate.run oracle ⟨(self, container), history⟩).1 = .ok activated ∧
        (hooks.activate.run oracle ⟨(self, container), history⟩).2.state.1.base.state =
          if activated then .activated else .configured := by
  have stable : Stable fun bus => bus.hasConfig = true ∧ bus.base.state = .configured :=
    ⟨fun _ holds => holds.1, fun _ _ holds => holds, fun _ _ _ holds => holds⟩
  have sound : Sound True (fun bus : DBusGatewayInstance =>
      bus.hasConfig = true ∧ bus.base.state = .configured) (fun _ => False)
      hooks.activateGateway := sound_activateGateway stable
  obtain ⟨⟨kept, _⟩, _, never⟩ := sound container.state oracle ⟨(self, container), history⟩
    ⟨fun _ => ⟨valid, configured⟩, rfl⟩
  rw [GatewayHooks.run_activate_of_configured hooks oracle ⟨(self, container), history⟩
    configured]
  cases ended : hooks.activateGateway.run oracle ⟨(self, container), history⟩ with
  | mk result after =>
      rw [ended] at kept never
      cases result with
      | error error => exact (never error rfl trivial).elim
      | ok activated =>
          rw [run_bind_ok ended]
          cases activated with
          | false => exact ⟨false, rfl, (kept trivial).2⟩
          | true => exact ⟨true, rfl, rfl⟩

theorem run_activate_of_activated {self : DBusGatewayInstance}
    (activated : self.base.state = .activated) (oracle : Oracle Sys)
    (container : Container) (history : History Sys) :
    ∃ error, hooks.activate.run oracle ⟨(self, container), history⟩ =
      (.error error, ⟨(self, container), history⟩) := by
  have notConfigured : (hooks.base.get self).state ≠ .configured := fun configured =>
    absurd (activated.symm.trans configured) (by decide)
  obtain ⟨message, ended⟩ :=
    GatewayHooks.run_activate_of_not_configured hooks oracle ⟨(self, container), history⟩
      notConfigured
  exact ⟨_, ended⟩

end DBusGatewayInstance

namespace DBusGateway

inductive BusOperation where
  | setConfig (config : Json)
  | activate

def perform : BusOperation → Hook DBusGateway Bool
  | .setConfig config => setConfig config
  | .activate => activate

/-- A bus that was configured since its last successful activation is activated by this
call. -/
def ActivatesBus (bus : DBusGateway → DBusGatewayInstance) (oracle : Oracle Sys)
    (world : World Sys (DBusGateway × Container)) : Prop :=
  (bus world.state.1).base.state = .configured ∧
    (bus (activate.run oracle world).2.state.1).base.state = .activated

/-- The call throws nothing, and returns whether it activates a bus. -/
def ActivatesHonestly (oracle : Oracle Sys) (world : World Sys (DBusGateway × Container)) :
    Prop :=
  ∃ result, (activate.run oracle world).1 = .ok result ∧
    (result = true ↔ ActivatesBus sessionBus oracle world ∨
      ActivatesBus systemBus oracle world)

/-- The session bus comes up, and then the system bus does not. -/
def SystemMasksSession (oracle : Oracle Sys) (world : World Sys (DBusGateway × Container)) :
    Prop :=
  let session := (zoom sessionLens DBusGatewayInstance.hooks.activate).run oracle world
  world.state.1.sessionBus.base.state = .configured ∧
    world.state.1.systemBus.base.state = .configured ∧ session.1 = .ok true ∧
    ((zoom systemLens DBusGatewayInstance.hooks.activate).run oracle session.2).1 = .ok false

section

variable (gateway : DBusGateway) (oracle : Oracle Sys) (container : Container)
  (history : History Sys)

abbrev sessionRun (oracle : Oracle Sys) (world : World Sys (DBusGateway × Container)) :=
  (zoom sessionLens DBusGatewayInstance.hooks.activate).run oracle world

abbrev systemRun (oracle : Oracle Sys) (world : World Sys (DBusGateway × Container)) :=
  (zoom systemLens DBusGatewayInstance.hooks.activate).run oracle world

theorem run_activate_of_session_created
    (created : gateway.sessionBus.base.state = .created) :
    activate.run oracle ⟨(gateway, container), history⟩ =
      if gateway.systemBus.base.state = .created then
        (.ok false, ⟨(gateway, container), history⟩)
      else systemRun oracle ⟨(gateway, container), history⟩ := by
  have notConfigured : ¬ gateway.sessionBus.isConfigured = true := fun configured =>
    DBusGatewayInstance.isConfigured_iff.mp configured created
  rw [activate, whenSession]
  simp only [getGateway, run_bind, run_get, run_pure]
  rw [if_neg notConfigured]
  dsimp only [run_pure]
  by_cases systemCreated : gateway.systemBus.base.state = .created
  · rw [if_pos systemCreated, if_neg fun configured =>
      DBusGatewayInstance.isConfigured_iff.mp configured systemCreated, run_pure]
  · rw [if_neg systemCreated, if_pos (DBusGatewayInstance.isConfigured_iff.mpr systemCreated)]

variable {gateway oracle container history}

theorem run_activate_of_session_configured {activated : Bool}
    {after : DBusGateway × Container} {history' : History Sys}
    (notCreated : gateway.sessionBus.base.state ≠ .created)
    (ended : sessionRun oracle ⟨(gateway, container), history⟩ =
      (.ok activated, ⟨after, history'⟩)) :
    activate.run oracle ⟨(gateway, container), history⟩ =
      if after.1.systemBus.base.state = .created then (.ok activated, ⟨after, history'⟩)
      else systemRun oracle ⟨after, history'⟩ := by
  rw [sessionRun] at ended
  rw [activate, whenSession]
  simp only [getGateway, run_bind, run_get, run_pure]
  rw [if_pos (DBusGatewayInstance.isConfigured_iff.mpr notCreated), ended]
  dsimp only
  by_cases systemCreated : after.1.systemBus.base.state = .created
  · rw [if_pos systemCreated, if_neg fun configured =>
      DBusGatewayInstance.isConfigured_iff.mp configured systemCreated, run_pure]
  · rw [if_neg systemCreated, if_pos (DBusGatewayInstance.isConfigured_iff.mpr systemCreated)]

theorem run_activate_of_session_error {error : Fault}
    {after : World Sys (DBusGateway × Container)}
    (notCreated : gateway.sessionBus.base.state ≠ .created)
    (ended : sessionRun oracle ⟨(gateway, container), history⟩ = (.error error, after)) :
    activate.run oracle ⟨(gateway, container), history⟩ = (.error error, after) := by
  rw [sessionRun] at ended
  rw [activate, whenSession]
  simp only [getGateway, run_bind, run_get, run_pure]
  rw [if_pos (DBusGatewayInstance.isConfigured_iff.mpr notCreated), ended]

variable (gateway oracle container history)

theorem exists_sessionRun (valid : gateway.sessionBus.Valid)
    (configured : gateway.sessionBus.base.state = .configured) :
    ∃ (activated : Bool) (sessionBus : DBusGatewayInstance) (container' : Container)
      (history' : History Sys),
      sessionRun oracle ⟨(gateway, container), history⟩ =
        (.ok activated, ⟨({ gateway with sessionBus }, container'), history'⟩) ∧
      sessionBus.base.state = if activated then .activated else .configured := by
  obtain ⟨activated, returned, state⟩ := DBusGatewayInstance.run_activate_of_configured valid
    configured oracle container history
  exact ⟨activated, _, _, _, Prod.ext returned rfl, state⟩

theorem exists_systemRun (valid : gateway.systemBus.Valid)
    (configured : gateway.systemBus.base.state = .configured) :
    ∃ (activated : Bool) (systemBus : DBusGatewayInstance) (container' : Container)
      (history' : History Sys),
      systemRun oracle ⟨(gateway, container), history⟩ =
        (.ok activated, ⟨({ gateway with systemBus }, container'), history'⟩) ∧
      systemBus.base.state = if activated then .activated else .configured := by
  obtain ⟨activated, returned, state⟩ := DBusGatewayInstance.run_activate_of_configured valid
    configured oracle container history
  exact ⟨activated, _, _, _, Prod.ext returned rfl, state⟩

theorem exists_systemRun_error (activated : gateway.systemBus.base.state = .activated) :
    ∃ error after, systemRun oracle ⟨(gateway, container), history⟩ =
      (.error error, after) := by
  obtain ⟨error, ended⟩ := DBusGatewayInstance.run_activate_of_activated activated oracle
    container history
  have thrown : (DBusGatewayInstance.hooks.activate.run oracle _).1 = .error error :=
    congrArg Prod.fst ended
  exact ⟨error, _, Prod.ext thrown rfl⟩

theorem exists_sessionRun_error (activated : gateway.sessionBus.base.state = .activated) :
    ∃ error after, sessionRun oracle ⟨(gateway, container), history⟩ =
      (.error error, after) := by
  obtain ⟨error, ended⟩ := DBusGatewayInstance.run_activate_of_activated activated oracle
    container history
  have thrown : (DBusGatewayInstance.hooks.activate.run oracle _).1 = .error error :=
    congrArg Prod.fst ended
  exact ⟨error, _, Prod.ext thrown rfl⟩

variable {gateway oracle container history}

theorem not_honest_of_error {world after : World Sys (DBusGateway × Container)}
    {error : Fault} (ended : activate.run oracle world = (.error error, after)) :
    ¬ ActivatesHonestly oracle world := by
  rintro ⟨result, returned, _⟩
  rw [ended] at returned
  cases returned

theorem honest_iff_of_valid (valid : gateway.Valid) :
    ActivatesHonestly oracle ⟨(gateway, container), history⟩ ↔
      gateway.sessionBus.base.state ≠ .activated ∧
        gateway.systemBus.base.state ≠ .activated ∧
        ¬ SystemMasksSession oracle ⟨(gateway, container), history⟩ := by
  cases session : gateway.sessionBus.base.state with
  | created =>
      have ended := run_activate_of_session_created gateway oracle container history session
      have unmasked : ¬ SystemMasksSession oracle ⟨(gateway, container), history⟩ :=
        fun masks => by cases session.symm.trans masks.1
      cases system : gateway.systemBus.base.state with
      | created =>
          rw [if_pos system] at ended
          refine ⟨fun _ => ⟨nofun, nofun, unmasked⟩, fun _ => ⟨false, by rw [ended], ?_⟩⟩
          simp [ActivatesBus, session, system]
      | configured =>
          obtain ⟨activated, systemBus, container', history', systemEnded, state⟩ :=
            exists_systemRun gateway oracle container history valid.systemBus system
          rw [if_neg (by rw [system]; decide), systemEnded] at ended
          refine ⟨fun _ => ⟨nofun, nofun, unmasked⟩, fun _ => ⟨activated, by rw [ended], ?_⟩⟩
          simp [ActivatesBus, session, system, ended, state]
      | activated =>
          obtain ⟨error, after, systemEnded⟩ := exists_systemRun_error gateway oracle
            container history system
          rw [if_neg (by rw [system]; decide), systemEnded] at ended
          exact ⟨fun honest => absurd honest (not_honest_of_error ended),
            fun holds => absurd rfl holds.2.1⟩
  | configured =>
      obtain ⟨first, sessionBus, container', history', sessionEnded, sessionState⟩ :=
        exists_sessionRun gateway oracle container history valid.sessionBus session
      have ended := run_activate_of_session_configured (by rw [session]; decide) sessionEnded
      dsimp only at ended
      cases system : gateway.systemBus.base.state with
      | created =>
          rw [if_pos system] at ended
          refine ⟨fun _ => ⟨nofun, nofun, fun masks => ?_⟩,
            fun _ => ⟨first, by rw [ended], ?_⟩⟩
          · cases system.symm.trans masks.2.1
          · simp [ActivatesBus, session, system, ended, sessionState]
      | configured =>
          obtain ⟨second, systemBus, container'', history'', systemEnded, systemState⟩ :=
            exists_systemRun { gateway with sessionBus } oracle container' history'
              valid.systemBus system
          rw [if_neg (by rw [system]; decide), systemEnded] at ended
          have masks : SystemMasksSession oracle ⟨(gateway, container), history⟩ ↔
              first = true ∧ second = false := by
            rw [sessionRun] at sessionEnded
            rw [systemRun] at systemEnded
            simp [SystemMasksSession, session, system, sessionEnded, systemEnded]
          have honest : ActivatesHonestly oracle ⟨(gateway, container), history⟩ ↔
              (second = true ↔ first = true ∨ second = true) := by
            simp [ActivatesHonestly, ActivatesBus, session, system, ended, sessionState,
              systemState]
          rw [honest, masks]
          cases first <;> cases second <;> simp
      | activated =>
          obtain ⟨error, after, systemEnded⟩ := exists_systemRun_error
            { gateway with sessionBus } oracle container' history' system
          rw [if_neg (by rw [system]; decide), systemEnded] at ended
          exact ⟨fun honest => absurd honest (not_honest_of_error ended),
            fun holds => absurd rfl holds.2.1⟩
  | activated =>
      obtain ⟨error, after, sessionEnded⟩ := exists_sessionRun_error gateway oracle container
        history session
      have ended := run_activate_of_session_error (by rw [session]; decide) sessionEnded
      exact ⟨fun honest => absurd honest (not_honest_of_error ended),
        fun holds => absurd rfl holds.1⟩

theorem valid_new (gatewayDir containerId : String) : (new gatewayDir containerId).Valid :=
  ⟨rfl, rfl, rfl⟩

/-- No configuration has been released. -/
def Unreleased (world : World Sys (DBusGateway × Container)) : Prop := world.state.1.Valid

theorem unreleased_perform (operation : BusOperation)
    (world : World Sys (DBusGateway × Container)) (valid : Unreleased world) :
    Unreleased ((perform operation).run oracle world).2 := by
  cases operation with
  | setConfig config =>
      exact (sound_setConfig config world.state.2.state oracle world
        ⟨fun _ => valid, rfl⟩).1.1 trivial
  | activate =>
      exact (sound_activate world.state.2.state oracle world ⟨fun _ => valid, rfl⟩).1.1 trivial

/-- After any run, the next activation is as it should be exactly when no bus is still
activated, and the system bus does not fail after the session bus has come up. -/
theorem activatesHonestly_iff (gatewayDir containerId : String)
    (operations : List BusOperation) (oracle : Oracle Sys) (container : Container)
    (history : History Sys) :
    let world :=
      (runAll perform oracle operations ⟨(new gatewayDir containerId, container), history⟩).2
    ActivatesHonestly oracle world ↔
      world.state.1.sessionBus.base.state ≠ .activated ∧
        world.state.1.systemBus.base.state ≠ .activated ∧
        ¬ SystemMasksSession oracle world := by
  intro world
  have unreleased : Unreleased world :=
    runAll_invariant unreleased_perform operations _ (valid_new gatewayDir containerId)
  exact honest_iff_of_valid unreleased

def oneBusAgain : List BusOperation :=
  [.setConfig (.array [.object [(SESSION_CONFIG, .array []), (SYSTEM_CONFIG, .array [])]]),
    .activate, .setConfig (.array [.object [(SESSION_CONFIG, .array [])]])]

theorem activate_throws_for_other_bus :
    ¬ ActivatesHonestly fortunate (runAll perform fortunate oneBusAgain
      ⟨(new "/gateways" "SC-0", .new "SC-0" "" "" false 1), []⟩).2 := by
  rintro ⟨result, returned, _⟩
  have thrown : (activate.run fortunate (runAll perform fortunate oneBusAgain
      ⟨(new "/gateways" "SC-0", .new "SC-0" "" "" false 1), []⟩).2).1 =
      .error (.gatewayError ("Activate was called on a gateway which is not in " ++
        "configured state. Gateway ID: dbus-bus-instance")) := rfl
  cases thrown.symm.trans returned

end

end DBusGateway

end SoftwareContainers
