import SoftwareContainers.Agent.Each
import SoftwareContainers.Agent.Pool
import SoftwareContainers.Agent.Sound

namespace SoftwareContainers

open Effect Effect.Act

/-! Containers that are invalid, and what destroying them would take. -/

namespace Container

def Asks {α : Type} (method : Method α) (self : Container) : Prop :=
  ∀ (oracle : Oracle Sys) history, ∃ event,
    history ++ [event] <+: (method.run oracle ⟨self, history⟩).2.history

theorem silent_recorded {α : Type} {method : Method α} (silent : Silent method)
    (oracle : Oracle Sys) (world : World Sys Container) :
    world.history <+: (method.run oracle world).2.history := by
  obtain ⟨_, ⟨recorded, grown, _⟩, _⟩ := silent oracle world trivial
  exact ⟨recorded, grown.symm⟩

theorem Asks.bind {α β : Type} {method : Method α} {next : α → Method β} {self : Container}
    (asks : Asks method self) (rest : ∀ value, Silent (next value)) :
    Asks (method >>= next) self := by
  intro oracle history
  obtain ⟨event, asked⟩ := asks oracle history
  refine ⟨event, ?_⟩
  rw [run_bind]
  cases ended : method.run oracle ⟨self, history⟩ with
  | mk result after =>
      rw [ended] at asked
      cases result with
      | error error => exact asked
      | ok value => exact asked.trans (silent_recorded (rest value) oracle after)

theorem asks_lxc (call : LxcCall) (self : Container) : Asks (lxc call) self :=
  fun _ _ => ⟨_, List.prefix_rfl⟩

theorem asks_shutdown {self : Container} (timeout : Int)
    (running : ContainerState.started.value ≤ self.state.value) :
    Asks (shutdown timeout) self := by
  have killed : Asks killInit self := (asks_lxc .initPid self).bind fun _ =>
    keeps_ite (fun _ => keeps_bind (silent_lxc _) fun _ => keeps_ask fun _ => trivial)
      fun _ => keeps_pure _
  intro oracle history
  rw [shutdown, run_get_bind]
  dsimp only
  rw [if_neg (Nat.not_lt.mpr running)]
  exact killed.bind (fun _ => keeps_bind (silent_lxc _) fun _ => keeps_bind
    (keeps_ite (fun _ => keeps_pure _) fun _ => silent_stop) fun _ =>
    keeps_ite (fun _ => keeps_pure _) fun _ =>
      keeps_bind (silent_setState _) fun _ => keeps_pure _) oracle history

theorem asks_destroy {self : Container} (alive : self.Alive) (timeout : Int) :
    Asks (destroy timeout) self := by
  have low : ¬ self.state.value < ContainerState.created.value := by
    rcases alive with same | same | same <;> rw [same] <;> decide
  have finished : Silent (do
      if !(← lxc .destroy) then
        return false
      else
        setState .destroyed
        return true) :=
    keeps_bind (silent_lxc _) fun _ => keeps_ite (fun _ => keeps_pure _) fun _ =>
      keeps_bind (silent_setState _) fun _ => keeps_pure _
  intro oracle history
  rw [destroy, run_get_bind]
  dsimp only
  rw [if_neg low]
  by_cases running : ContainerState.started.value ≤ self.state.value
  · rw [if_pos running]
    exact (asks_shutdown timeout running).bind (fun _ => keeps_ite (fun _ => keeps_pure _)
      fun _ => keeps_bind (silent_of_quiet quiet_unmountRootFS) fun _ =>
        keeps_ite (fun _ => keeps_pure _) fun _ => finished) oracle history
  · rw [if_neg running, run_pure_bind, if_neg (by decide)]
    cases writeBuffer : self.writeBufferEnabled with
    | true =>
        have asked : Asks unmountRootFS self := by
          intro oracle history
          rw [unmountRootFS, run_get_bind]
          dsimp only
          rw [writeBuffer]
          exact ⟨_, List.prefix_rfl⟩
        exact asked.bind (fun _ => keeps_ite (fun _ => keeps_pure _) fun _ => finished)
          oracle history
    | false =>
        have nothing : unmountRootFS.run oracle ⟨self, history⟩ =
            (.ok true, ⟨self, history⟩) := by
          rw [unmountRootFS, run_get_bind]
          dsimp only
          rw [writeBuffer]
          rfl
        rw [run_bind_ok nothing, if_neg (by decide)]
        exact (asks_lxc .destroy self).bind (fun _ => keeps_ite (fun _ => keeps_pure _)
          fun _ => keeps_bind (silent_setState _) fun _ => keeps_pure _) oracle history

end Container

namespace SoftwareContainer

variable {ok : Prop} {shellParseArgv : String → Option (List String)}

theorem Fair.preserves {α : Type} {method : Method α} (fair : Fair ok method) :
    Preserves (Sound ok) method :=
  fun oracle world sound => (fair oracle world sound).1

theorem keepsPart_sound :
    SoftwareContainerAgent.KeepsPart (containerClass shellParseArgv) (Sound False) where
  startGateways _ := (idle_startGateways False.elim).fair.preserves
  createCommandJob _ := preserves_map (fair_createCommandJob _).preserves
  startJob _ := (fair_startJob False.elim).preserves
  bindMount _ _ _ := (idle_bindMount False.elim).fair.preserves
  suspend := fair_suspend.preserves
  resume := fair_resume.preserves
  shutdown timeout := (fair_shutdown timeout).preserves

theorem preserves_invalid {relevant : Prop} {α : Type} {method : Method α}
    (refused : ∀ oracle (world : World Sys LibraryContainer),
      world.state.containerState = .invalid →
        ∃ error, method.run oracle world = (.error error, world)) :
    Preserves (fun self => relevant → self.containerState = .invalid) method := by
  intro oracle world whenRelevant isRelevant
  obtain ⟨error, ended⟩ := refused oracle world (whenRelevant isRelevant)
  rw [ended]
  exact whenRelevant isRelevant

theorem refused_assertValidState (oracle : Oracle Sys) {world : World Sys LibraryContainer}
    (invalid : world.state.containerState = .invalid) :
    (assertValidState : Method PUnit).run oracle world =
      (.error (.invalidContainerError ("Container is invalid " ++ world.state.id)), world) :=
  run_assertValidState_of_invalid invalid

theorem keepsPart_invalid {relevant : Prop} :
    SoftwareContainerAgent.KeepsPart (containerClass shellParseArgv)
      (fun self => relevant → self.containerState = .invalid) where
  startGateways _ := preserves_invalid fun oracle _ invalid =>
    ⟨_, run_bind_error (refused_assertValidState oracle invalid)⟩
  createCommandJob _ := preserves_map (preserves_invalid fun oracle _ invalid =>
    ⟨_, run_bind_error (run_bind_error (refused_assertValidState oracle invalid))⟩)
  startJob _ _ _ whenRelevant := whenRelevant
  bindMount _ _ _ := preserves_invalid fun oracle _ invalid =>
    ⟨_, run_bind_error (run_bind_error (refused_assertValidState oracle invalid))⟩
  suspend := preserves_invalid fun oracle _ invalid =>
    ⟨_, run_bind_error (run_bind_error (refused_assertValidState oracle invalid))⟩
  resume := preserves_invalid fun oracle _ invalid =>
    ⟨_, run_bind_error (refused_assertValidState oracle invalid)⟩
  shutdown _ := preserves_invalid fun oracle _ invalid =>
    ⟨_, run_bind_error (refused_assertValidState oracle invalid)⟩

end SoftwareContainer

namespace SoftwareContainerAgent

variable (shellParseArgv : String → Option (List String))
  (jsonLoads : String → Except String Json)

abbrev performOnLibrary : Operation → Method LibraryContainer Answer :=
  perform (SoftwareContainer.containerClass shellParseArgv) jsonLoads

theorem preserves_sound (operation : Operation) :
    KeepsEach (fun _ => SoftwareContainer.Sound False)
      (performOnLibrary shellParseArgv jsonLoads operation) := by
  by_cases creates : ∃ config, operation = .createContainer config
  · obtain ⟨config, rfl⟩ := creates
    exact preserves_map (keepsEach_createContainer _ jsonLoads config
      fun _ _ _ _ _ _ created => SoftwareContainer.construct_sound False.elim created)
  · exact keepsEach_perform jsonLoads (fun _ => SoftwareContainer.keepsPart_sound)
      fun config same => creates ⟨config, same⟩

/-- In every container of an agent the two state machines are coherent. -/
theorem reachable_sound {containerConfig : SoftwareContainerConfig}
    {manifests defaultManifests : List Json} {agent : SoftwareContainerAgent LibraryContainer}
    (constructed : construct containerConfig manifests defaultManifests = .ok agent)
    (oracle : Oracle Sys) (history : History Sys) (operations : List Operation) :
    EachContainer (fun _ => SoftwareContainer.Sound False)
      (runAll (performOnLibrary shellParseArgv jsonLoads) oracle operations
        ⟨agent, history⟩).2.state := by
  refine preserves_runAll (preserves_sound shellParseArgv jsonLoads) oracle operations
    ⟨agent, history⟩ fun id container found => ?_
  obtain ⟨_, _, _, _, noContainers⟩ := construct_intact constructed
  rw [noContainers, Std.ExtTreeMap.getElem?_empty] at found
  cases found

theorem insert_self {containers : Std.ExtTreeMap Int LibraryContainer} {containerID : Int}
    {container : LibraryContainer} (found : containers[containerID]? = some container) :
    containers.insert containerID container = containers := by
  apply Std.ExtTreeMap.ext_getElem?
  intro id
  rw [getElem?_insert]
  by_cases same : containerID = id
  · rw [if_pos same, ← same, found]
  · rw [if_neg same]

variable {oracle : Oracle Sys} {world : World Sys (SoftwareContainerAgent LibraryContainer)}
  {containerID : Int} {container : LibraryContainer}

/-- An invalid container is not shut down: nothing happens. -/
theorem run_shutdownContainer_of_invalid
    (found : world.state.containers[containerID]? = some container)
    (invalid : container.containerState = .invalid) :
    ∃ error, (shutdownContainer (SoftwareContainer.containerClass shellParseArgv)
      containerID).run oracle world = (.error error, world) := by
  rw [shutdownContainer, run_get_bind]
  rcases run_onContainer containerID
      ((SoftwareContainer.containerClass shellParseArgv).shutdown
        world.state.containerConfig.containerShutdownTimeout) oracle world with
    ⟨error, ended⟩ | ⟨same, isSame, ended⟩
  · exact ⟨error, run_bind_error ended⟩
  · cases found.symm.trans isSame
    have refused : ((SoftwareContainer.containerClass shellParseArgv).shutdown
        world.state.containerConfig.containerShutdownTimeout).run oracle
          ⟨container, world.history⟩ = _ :=
      run_bind_error (SoftwareContainer.refused_assertValidState oracle invalid)
    rw [refused] at ended
    dsimp only at ended
    rw [insert_self found] at ended
    exact ⟨_, run_bind_error ended⟩

/-- What the documentation promises for a container that is invalid: `shutdownContainer`
tries to destroy it again, and if that succeeds its id can be used again. -/
def DestroyedAgain (oracle : Oracle Sys)
    (world : World Sys (SoftwareContainerAgent LibraryContainer)) (containerID : Int)
    (container : LibraryContainer) : Prop :=
  ∃ before, world.history <+: before ∧
    let destroyed := (Container.destroy
      world.state.containerConfig.containerShutdownTimeout).run oracle
        ⟨container.container, before⟩
    let ended := (shutdownContainer (SoftwareContainer.containerClass shellParseArgv)
      containerID).run oracle world
    destroyed.2.history <+: ended.2.history ∧
      (destroyed.1 = .ok true → containerID ∉ ended.2.state.containers ∧
        containerID ∈ ended.2.state.containerIdPool)

theorem not_destroyedAgain (alive : container.container.Alive)
    (found : world.state.containers[containerID]? = some container)
    (invalid : container.containerState = .invalid) :
    ¬ DestroyedAgain shellParseArgv oracle world containerID container := by
  rintro ⟨before, later, within, _⟩
  obtain ⟨error, ended⟩ := @run_shutdownContainer_of_invalid shellParseArgv oracle world
    containerID container found invalid
  obtain ⟨event, asked⟩ := Container.asks_destroy alive
    world.state.containerConfig.containerShutdownTimeout oracle before
  rw [ended] at within
  have length := (asked.trans within).length_le
  have lengthBefore := later.length_le
  rw [List.length_append, List.length_singleton] at length
  dsimp only at length
  omega

/-! An invalid container is there for ever. -/

section

variable {κ α : Type}

def Present (containerID : Int) (self : SoftwareContainerAgent κ) : Prop :=
  containerID ∈ self.containers

theorem preserves_present_forgetContainer {containerID other : Int}
    (different : other ≠ containerID) :
    Preserves (Present containerID) (forgetContainer other : Method κ PUnit) := by
  intro oracle world isPresent
  rcases run_forgetContainer other world oracle with ⟨error, failed⟩ | ⟨_, forgotten⟩
  · rw [failed]
    exact isPresent
  · rw [forgotten]
    exact Std.ExtTreeMap.mem_erase.mpr ⟨fun same =>
      different (Std.LawfulEqOrd.compare_eq_iff_eq.mp same), isPresent⟩

/-- Only two operations take a container away, and only the one that is named. -/
theorem preserves_present (cls : ContainerClass κ)
    (jsonLoads : String → Except String Json) {containerID : Int} {operation : Operation}
    (notCreated : ∀ config, operation ≠ .createContainer config)
    (notDeleted : operation ≠ .deleteContainer containerID)
    (notShutDown : operation ≠ .shutdownContainer containerID) :
    Preserves (Present containerID) (perform cls jsonLoads operation) := by
  refine aside_ids.preserves_perform cls jsonLoads (fun _ _ isPresent same => ?_) notCreated
    fun other removed => preserves_present_forgetContainer ?_
  · have contains := congrFun (congrArg Prod.snd same) containerID
    rw [Present, Std.ExtTreeMap.mem_iff_contains] at isPresent ⊢
    exact contains.trans isPresent
  · intro same
    rw [same] at removed
    exact removed.elim notDeleted notShutDown

end

def Stuck (containerID : Int) (self : SoftwareContainerAgent LibraryContainer) : Prop :=
  ∃ container, self.containers[containerID]? = some container ∧
    container.containerState = .invalid

theorem stuck_iff {self : SoftwareContainerAgent LibraryContainer} :
    Stuck containerID self ↔ Present containerID self ∧
      EachContainer (fun id container => id = containerID →
        container.containerState = .invalid) self := by
  constructor
  · rintro ⟨container, found, invalid⟩
    refine ⟨Std.ExtTreeMap.mem_iff_isSome_getElem?.mpr (by rw [found]; rfl), ?_⟩
    rintro id other foundOther rfl
    cases found.symm.trans foundOther
    exact invalid
  · rintro ⟨isPresent, invalid⟩
    exact ⟨_, Std.ExtTreeMap.getElem?_eq_some_getElem isPresent,
      invalid containerID _ (Std.ExtTreeMap.getElem?_eq_some_getElem isPresent) rfl⟩

theorem stuck_perform {counter : Int} (has : HasCounter counter world.state)
    (stuck : Stuck containerID world.state) {operation : Operation}
    (notDeleted : operation ≠ .deleteContainer containerID) :
    Stuck containerID
      ((performOnLibrary shellParseArgv jsonLoads operation).run oracle world).2.state := by
  by_cases creates : ∃ config, operation = .createContainer config
  · obtain ⟨config, rfl⟩ := creates
    obtain ⟨free, has⟩ := has
    obtain ⟨container, found, invalid⟩ := stuck
    have new := (issue_fresh has.fresh).1
    have same : ((performOnLibrary shellParseArgv jsonLoads
        (.createContainer config)).run oracle world).2 =
        ((createContainer (SoftwareContainer.containerClass shellParseArgv) jsonLoads
          config).run oracle world).2 :=
      congrArg Prod.snd (run_map _ _ oracle world)
    rw [same]
    cases ended : (createContainer (SoftwareContainer.containerClass shellParseArgv) jsonLoads
        config).run oracle world with
    | mk result after =>
        cases creation _ jsonLoads has ended with
        | rejected => exact ⟨container, found, invalid⟩
        | exhausted => exact ⟨container, found, invalid⟩
        | failed => exact ⟨container, found, invalid⟩
        | created =>
            refine ⟨container, ?_, invalid⟩
            dsimp only
            rw [getElem?_insert, if_neg, found]
            intro isNew
            exact new (Std.ExtTreeMap.mem_iff_isSome_getElem?.mpr (by rw [isNew, found]; rfl))
  · by_cases shutDown : operation = .shutdownContainer containerID
    · subst shutDown
      obtain ⟨container, found, invalid⟩ := stuck
      obtain ⟨error, ended⟩ := @run_shutdownContainer_of_invalid shellParseArgv oracle world
        containerID container found invalid
      have same := run_map (fun _ => Answer.none) (shutdownContainer
        (SoftwareContainer.containerClass shellParseArgv) containerID) oracle world
      rw [ended] at same
      exact ⟨container, (congrArg (fun ended => ended.2.state.containers[containerID]?)
        same).trans found, invalid⟩
    · obtain ⟨isPresent, invalid⟩ := stuck_iff.mp stuck
      have notCreated : ∀ config, operation ≠ .createContainer config :=
        fun config same => creates ⟨config, same⟩
      exact stuck_iff.mpr
        ⟨preserves_present _ jsonLoads notCreated notDeleted shutDown oracle world isPresent,
          keepsEach_perform jsonLoads (fun _ => SoftwareContainer.keepsPart_invalid) notCreated
            oracle world invalid⟩

theorem stuck_runAll {counter : Int} (has : HasCounter counter world.state)
    (stuck : Stuck containerID world.state) {operations : List Operation}
    (notDeleted : .deleteContainer containerID ∉ operations) :
    Stuck containerID
      (runAll (performOnLibrary shellParseArgv jsonLoads) oracle operations world).2.state := by
  induction operations generalizing counter world with
  | nil => exact stuck
  | cons operation rest ih =>
      obtain ⟨counter', _, hasAfter⟩ := hasCounter_perform
        (SoftwareContainer.containerClass shellParseArgv) jsonLoads has operation oracle
      refine ih hasAfter (stuck_perform shellParseArgv jsonLoads has stuck fun same => ?_)
        fun member => notDeleted (List.mem_cons_of_mem _ member)
      exact notDeleted (same ▸ List.mem_cons_self)

/-- In no run is an invalid container destroyed again.  `shutdownContainer` does nothing at
all then, and no operation but `deleteContainer` ever takes the id away. -/
theorem invalid_container_is_never_destroyed {containerConfig : SoftwareContainerConfig}
    {manifests defaultManifests : List Json} {agent : SoftwareContainerAgent LibraryContainer}
    (constructed : construct containerConfig manifests defaultManifests = .ok agent)
    (oracle : Oracle Sys) (history : History Sys) (operations : List Operation)
    {world : World Sys (SoftwareContainerAgent LibraryContainer)}
    (reached : (runAll (performOnLibrary shellParseArgv jsonLoads) oracle operations
      ⟨agent, history⟩).2 = world) {containerID : Int} {container : LibraryContainer}
    (found : world.state.containers[containerID]? = some container)
    (invalid : container.containerState = .invalid) :
    ¬ DestroyedAgain shellParseArgv oracle world containerID container ∧
    (∃ error, (shutdownContainer (SoftwareContainer.containerClass shellParseArgv)
      containerID).run oracle world = (.error error, world)) ∧
    ∀ later, .deleteContainer containerID ∉ later → Stuck containerID
      (runAll (performOnLibrary shellParseArgv jsonLoads) oracle later world).2.state := by
  have sound := reachable_sound shellParseArgv jsonLoads constructed oracle history operations
  obtain ⟨counter, _, has⟩ := hasCounter_runAll
    (SoftwareContainer.containerClass shellParseArgv) jsonLoads ⟨agent, history⟩
    (hasCounter_constructed constructed) operations oracle
  rw [reached] at sound has
  have alive := (sound containerID container found).coherent.invalid invalid
  exact ⟨not_destroyedAgain shellParseArgv alive found invalid,
    run_shutdownContainer_of_invalid shellParseArgv found invalid,
    fun _ notDeleted =>
      stuck_runAll shellParseArgv jsonLoads has ⟨container, found, invalid⟩ notDeleted⟩

def firstDestroyFails : Oracle Sys
  | history, .lxc _ _ .destroy => history.any fun event =>
      match event.call with
      | .lxc _ _ .destroy => true
      | _ => false
  | history, call => fortunate history call

def failedShutdown : World Sys (SoftwareContainerAgent LibraryContainer) :=
  (runAll (performOnLibrary (fun _ => none) emptyOptions) firstDestroyFails
    [.createContainer "[]", .shutdownContainer 0] ⟨withoutManifests, []⟩).2

theorem failedShutdown_invalid : ∃ container,
    failedShutdown.state.containers[(0 : Int)]? = some container ∧
      container.containerState = .invalid := by
  have evaluated : (failedShutdown.state.containers[(0 : Int)]?.map
      fun container => container.containerState) = some .invalid := by decide +kernel
  exact Option.map_eq_some_iff.mp evaluated

theorem invalid_container_is_never_destroyed_failedShutdown :
    ∃ container, ¬ DestroyedAgain (fun _ => none) firstDestroyFails failedShutdown 0 container := by
  obtain ⟨container, found, invalid⟩ := failedShutdown_invalid
  exact ⟨container, (invalid_container_is_never_destroyed (fun _ => none) emptyOptions
    constructed_withoutManifests firstDestroyFails []
    [.createContainer "[]", .shutdownContainer 0] rfl found invalid).1⟩

/-- LXC would destroy the container the second time, but is not asked to. -/
theorem invalid_container_keeps_its_id :
    ¬ ∀ (oracle : Oracle Sys) operations world (containerID : Int) container,
      (runAll (performOnLibrary (fun _ => none) emptyOptions) oracle operations
        ⟨withoutManifests, []⟩).2 = world →
      world.state.containers[containerID]? = some container →
      container.containerState = .invalid →
      DestroyedAgain (fun _ => none) oracle world containerID container := by
  intro documented
  obtain ⟨container, found, invalid⟩ := failedShutdown_invalid
  obtain ⟨before, later, within, _⟩ := documented firstDestroyFails
    [.createContainer "[]", .shutdownContainer 0] failedShutdown 0 container rfl found invalid
  have alive : container.container.state = .created := by
    have evaluated : (failedShutdown.state.containers[(0 : Int)]?.map
        fun container => container.container.state) = some .created := by decide +kernel
    rw [found] at evaluated
    exact Option.some.inj evaluated
  exact not_destroyedAgain (fun _ => none) (.inl alive) found invalid
    ⟨before, later, within, by assumption⟩

end SoftwareContainerAgent

end SoftwareContainers
