import SoftwareContainers.Agent.Sound
import SoftwareContainers.Container.Handle
import SoftwareContainers.Library.Serving

namespace SoftwareContainers

open Effect Effect.Act

/-! The handles of the containers of the library. -/

namespace SoftwareContainer

open Container (Any Held Owned Fresh Accounted)

/-- The name by which LXC knows the container with an id. -/
def sessionName (containerID : Int) : String := "SC-" ++ toString containerID

abbrev OwnsHandle (name : String) (others : String → Option Handle)
    (world : World Sys LibraryContainer) : Prop :=
  Owned name others ⟨world.state.container, world.history⟩

structure InUse (name : String) (others : String → Option Handle)
    (world : World Sys LibraryContainer) : Prop where
  owned : OwnsHandle name others world
  coupled : Coupled world.state []

variable {α : Type} {name : String} {others : String → Option Handle}

theorem ownsHandle_onContainer {method : Container.Method α}
    (owned : Maintains Any (Owned name others) method) :
    Maintains Any (OwnsHandle name others) (onContainer method) := by
  intro oracle answers world holds
  have after := owned oracle answers _ holds
  rw [onContainer, run_zoom]
  exact after

theorem ownsHandle_of_serving {method : Method α}
    (serving : ∀ state, Serving (fun _ => True)
      (fun self => self.id = name ∧ self.hasContainer = true ∧ self.state = state)
      (lxcProtocol.Idle name state.handle) method) :
    Maintains Any (OwnsHandle name others) method := by
  rintro oracle answers world ⟨state, held⟩
  obtain ⟨⟨_, id, has, same⟩, isAt⟩ := (serving state).maintains_at oracle answers world
    ⟨holds_of_container ⟨held.id, held.has, held.state⟩, held.isAt⟩
  exact ⟨state, id, has, same, isAt⟩

theorem serve_network {inv : Container → Prop} {handle : Handle}
    (serves : Container.Serves inv (lxcProtocol.Idle name handle)) :
    NetworkGateway.hooks.Serve (fun _ => True) inv (lxcProtocol.Idle name handle) :=
  @NetworkGateway.serve _ _ serves (fun _ => True) fun _ _ _ _ _ => .inl rfl

theorem ownsHandle_setState (containerState : ContainerState) :
    Maintains Any (OwnsHandle name others) (setState containerState) :=
  meets_modify fun _ holds => holds

theorem ownsHandle_invalidate (message : String) :
    Maintains Any (OwnsHandle name others) (invalidate message) :=
  maintains_bind (ownsHandle_setState _) fun _ =>
    maintains_get_bind fun _ => maintains_throw _

theorem ownsHandle_assertValidState :
    Maintains Any (OwnsHandle name others) (assertValidState : Method PUnit) :=
  ownsHandle_of_serving fun _ => serving_assertValidState

theorem ownsHandle_assertReady (message : String) :
    Maintains Any (OwnsHandle name others) (assertReady message) :=
  ownsHandle_of_serving fun _ => serving_assertReady message

theorem ownsHandle_suspend : Maintains Any (OwnsHandle name others) suspend :=
  maintains_bind (ownsHandle_assertReady _) fun _ =>
    maintains_bind (ownsHandle_onContainer Container.owned_suspend) fun _ =>
      meets_ite (fun _ => ownsHandle_invalidate _) fun _ => ownsHandle_setState _

theorem ownsHandle_resume : Maintains Any (OwnsHandle name others) resume := by
  refine maintains_bind ownsHandle_assertValidState fun _ => maintains_get_bind fun _ =>
    meets_ite (fun _ => maintains_throw _) fun _ => ?_
  exact maintains_bind (ownsHandle_onContainer Container.owned_resume) fun _ =>
    meets_ite (fun _ => ownsHandle_invalidate _) fun _ => ownsHandle_setState _

theorem ownsHandle_shutdown (timeout : Int) :
    Maintains Any (OwnsHandle name others) (shutdown timeout) := by
  have destroyed : Maintains Any (Owned name others) (Container.destroy timeout) :=
    (Container.owned_destroy timeout).weaken (fun _ owned => owned) fun _ _ after => after.1
  have shut : Maintains Any (OwnsHandle name others) shutdownGateways :=
    ownsHandle_of_serving fun state => serving_shutdownGateways
      (Container.serves_held name state) (serve_network (Container.serves_held name state))
  refine maintains_bind ownsHandle_assertValidState fun _ => maintains_get_bind fun _ =>
    meets_ite (fun _ => maintains_throw _) fun _ => ?_
  refine maintains_bind shut fun _ => maintains_bind (ownsHandle_onContainer destroyed) fun _ =>
    meets_ite (fun _ => ownsHandle_invalidate _) fun _ => ownsHandle_setState _

theorem ownsHandle_startGateways (gwConfig : GatewayConfiguration) :
    Meets Any (InUse name others) (fun _ => OwnsHandle name others)
      (startGateways AnyGateway.gatewayClass gwConfig) := by
  rintro oracle answers ⟨self, history⟩ ⟨⟨state, held⟩, coupled⟩
  by_cases ready : self.containerState = .ready
  · have started : state = .started := held.state.symm.trans (coupled.ready ready)
    subst started
    have serves := Container.serves_held name .started
    have serving := serving_startGateways serves (serve_network serves)
      (serves.usable fun _ holds => holds.2.2) gwConfig
    obtain ⟨⟨_, id, has, same⟩, isAt⟩ := serving.maintains_at oracle answers ⟨self, history⟩
      ⟨holds_of_container ⟨held.id, held.has, held.state⟩, held.isAt⟩
    exact ⟨.started, id, has, same, isAt⟩
  · have refused : ∃ error, (startGateways AnyGateway.gatewayClass gwConfig).run oracle
        ⟨self, history⟩ = (.error error, ⟨self, history⟩) := by
      by_cases invalid : self.containerState = .invalid
      · exact ⟨_, run_bind_error (run_assertValidState_of_invalid invalid)⟩
      · refine ⟨.invalidOperationError
          ("Invalid to start gateways on non ready container " ++ self.id), ?_⟩
        rw [startGateways, run_bind_ok (run_assertValidState invalid oracle history),
          run_get_bind]
        dsimp only
        rw [if_pos ready, run_throw]
    obtain ⟨_, ended⟩ := refused
    rw [ended]
    exact ⟨state, held⟩

/-! Every method keeps a container in use. -/

theorem coupled_of_coupledSince {world : World Sys LibraryContainer} {before : History Sys}
    (coupled : CoupledSince before world) : Coupled world.state [] := by
  obtain ⟨_, _, holds⟩ := coupled
  exact ⟨holds.ready, holds.suspended, holds.terminated, by simp, .nil, by simp⟩

theorem InUse.coupledSince {world : World Sys LibraryContainer}
    (inUse : InUse name others world) : CoupledSince world.history world :=
  ⟨[], (List.append_nil _).symm, inUse.coupled⟩

theorem inUse_perform (operation : Operation)
    (owns : Maintains Any (OwnsHandle name others) (perform operation)) :
    Maintains Any (InUse name others) (perform operation) := fun oracle answers world inUse =>
  ⟨owns oracle answers world inUse.owned,
    coupled_of_coupledSince (inUse.coupledSince.perform operation)⟩

theorem inUse_discarded {method : Method α} {operation : Operation}
    (performs : perform operation = do
      let _ ← method
      return ⟨⟩)
    (owns : Meets Any (InUse name others) (fun _ => OwnsHandle name others) method) :
    Maintains Any (InUse name others) method := by
  intro oracle answers world inUse
  have same : ((perform operation).run oracle world).2 = (method.run oracle world).2 := by
    rw [performs, run_bind]
    cases method.run oracle world with
    | mk result after => cases result <;> rfl
  refine ⟨owns oracle answers world inUse, ?_⟩
  rw [← same]
  exact coupled_of_coupledSince (inUse.coupledSince.perform operation)

theorem inUse_startGateways (gwConfig : GatewayConfiguration) :
    Maintains Any (InUse name others) (startGateways AnyGateway.gatewayClass gwConfig) :=
  @inUse_discarded _ _ _ _ (.startGateways gwConfig) rfl (ownsHandle_startGateways gwConfig)

theorem inUse_bindMount (pathOnHost pathInContainer : String) (readonly : Bool) :
    Maintains Any (InUse name others) (bindMount pathOnHost pathInContainer readonly) := by
  have owns : Maintains Any (OwnsHandle name others)
      (bindMount pathOnHost pathInContainer readonly) :=
    ownsHandle_of_serving fun state =>
      serving_bindMount (Container.serves_held name state) pathOnHost pathInContainer readonly
  exact @inUse_discarded _ _ _ _ (.bindMount pathOnHost pathInContainer readonly) rfl
    (owns.strengthen fun _ inUse => inUse.owned)

theorem inUse_createCommandJob (command : String) :
    Maintains Any (InUse name others) (createCommandJob command) :=
  @inUse_discarded _ _ _ _ (.createCommandJob command) rfl
    ((maintains_bind (ownsHandle_assertReady _) fun _ => maintains_pure _).strengthen
      fun _ inUse => inUse.owned)

theorem inUse_startJob (shellParseArgv : String → Option (List String)) (job : CommandJob) :
    Maintains Any (InUse name others) (startJob shellParseArgv job) := by
  have idle : Idle False (startJob shellParseArgv job) := idle_startJob False.elim
  have owns : Maintains Any (OwnsHandle name others) (startJob shellParseArgv job) :=
    ownsHandle_of_serving fun state =>
      serving_startJob (Container.serves_held name state) shellParseArgv job
  exact fun oracle answers world inUse => ⟨owns oracle answers world inUse.owned,
    coupled_of_coupledSince (inUse.coupledSince.idle idle)⟩

theorem inUse_suspend : Maintains Any (InUse name others) suspend :=
  inUse_perform .suspend ownsHandle_suspend

theorem inUse_resume : Maintains Any (InUse name others) resume :=
  inUse_perform .resume ownsHandle_resume

theorem inUse_shutdown (timeout : Int) : Maintains Any (InUse name others) (shutdown timeout) :=
  inUse_perform (.shutdown timeout) (ownsHandle_shutdown timeout)

/-! The first and the last method. -/

theorem start_fresh : Meets Any (Fresh name others)
    (fun result world => (∀ error, result ≠ .error error) ∧ Accounted name others world ∧
      (result = .ok true → Owned name others world)) start := by
  refine Container.meets_bind_returns Container.returns_initializeContainer fun prepared =>
    meets_ite (fun _ => meets_pure fun _ fresh => ⟨nofun, fresh.accounted, nofun⟩) fun _ => ?_
  have created : Meets Any (Fresh name others)
      (Decides (Held name others .created .created) (Accounted name others)) Container.create :=
    Container.created_create
  refine meets_decides_bind created ?_
    (meets_pure fun _ accounted => ⟨nofun, accounted, nofun⟩)
  exact Container.owned_start.weaken (fun _ held => held)
    fun _ _ owned => ⟨owned.2, owned.1.accounted, fun _ => owned.1⟩

theorem init_fresh (containerID : Int) : Meets Any (Fresh name others)
    (fun result world => match result with
      | .ok _ => Owned name others world
      | .error _ => lxcProtocol.At name others .released world.history) (init containerID) := by
  refine meets_bind _ start_fresh (fun started => ?_) fun _ _ ended => absurd rfl (ended.1 _)
  cases started with
  | true => exact meets_pure fun _ ended => ended.2.2 rfl
  | false =>
      refine meets_bind _ (Container.releases_destructor.strengthen fun _ ended => ended.2.1)
        (fun _ => ?_) fun _ _ released => released
      exact meets_throw fun _ released => released

section

variable {σ : Type}

theorem construct_session (containerID : Int) (config : SoftwareContainerConfig) :
    Meets Any (fun world : World Sys σ =>
        lxcProtocol.At (sessionName containerID) others .released world.history)
      (fun result world => match result with
        | .ok self => InUse (sessionName containerID) others ⟨self, world.history⟩
        | .error _ => lxcProtocol.At (sessionName containerID) others .released world.history)
      (construct containerID config) := by
  have system := Container.allowsSystem_idle (sessionName containerID) .released
  have prepared : ∀ {method : Act Sys Fault σ PUnit},
      Preparing (lxcProtocol.Idle (sessionName containerID) .released) method →
      Maintains Any (fun world =>
        lxcProtocol.At (sessionName containerID) others .released world.history) method :=
    fun preparing => preparing.maintains_at.weaken (fun _ isAt => ⟨trivial, isAt⟩)
      fun _ _ holds => holds.2
  refine meets_bind_maintains (prepared (preparing_checkContainerRoot system _)) (fun _ => ?_)
    fun _ _ isAt => isAt
  refine meets_bind_maintains (prepared (preparing_mountContainerRoot system _ _))
    (fun _ => ?_) fun _ _ isAt => isAt
  refine meets_bind_maintains (prepared (preparing_checkNetworkSettings system _))
    (fun _ => ?_) fun _ _ isAt => isAt
  intro oracle answers world isAt
  have made := init_fresh containerID oracle answers
    ⟨Container.new (sessionName containerID) config.containerConfigPath
      (buildPath config.sharedMountsDir (sessionName containerID)) config.writeBufferEnabled
      config.containerShutdownTimeout, world.history⟩ ⟨rfl, rfl, .inl rfl, isAt⟩
  rw [run_bind, run_runOn]
  cases ended : (init containerID).run oracle ⟨Container.new (sessionName containerID)
      config.containerConfigPath (buildPath config.sharedMountsDir (sessionName containerID))
      config.writeBufferEnabled config.containerShutdownTimeout, world.history⟩ with
  | mk result after =>
      rw [ended] at made
      rw [show ("SC-" ++ toString containerID) = sessionName containerID from rfl, ended]
      cases result with
      | error error => exact made
      | ok _ =>
          have started := (init_started ended).1
          exact ⟨made, coupled_of_ready rfl started (by simp)⟩

end

theorem releases_destructor : Meets Any (OwnsHandle name others)
    (fun _ world => lxcProtocol.At name others .released world.history) destructor := by
  have destroyed : Maintains Any (OwnsHandle name others)
      (zoom gatewaysLens (sweep destroyGateway)) :=
    ownsHandle_of_serving fun state => serving_destroyGateways (Container.serves_held name state)
  have released : Meets Any (OwnsHandle name others)
      (fun _ world => lxcProtocol.At name others .released world.history)
      (onContainer Container.destructor) := by
    intro oracle answers world owns
    have after := Container.releases_destructor oracle answers _ owns.accounted
    rw [onContainer, run_zoom]
    exact after
  intro oracle answers world owns
  obtain ⟨_, _, never⟩ := silent_destructor oracle world trivial
  rw [destructor, run_bind] at never ⊢
  have between := destroyed oracle answers world owns
  cases ended : (zoom gatewaysLens (sweep destroyGateway) : Method (Option PUnit)).run oracle
      world with
  | mk result after =>
      rw [ended] at never between
      cases result with
      | error error => exact absurd rfl (never error)
      | ok _ => exact released oracle answers after between

end SoftwareContainer

end SoftwareContainers
