import SoftwareContainers.Container.Lifecycle
import SoftwareContainers.Library.Contract

namespace SoftwareContainers

open Effect Effect.Act

/-! The state machine of a `SoftwareContainer` and that of its `Container`, over whole
runs. -/

namespace SoftwareContainer

/-- What holds of a container and of the calls made for it. -/
structure Coupled (whole : LibraryContainer) (recorded : History Sys) : Prop where
  ready : whole.containerState = .ready → whole.container.state = .started
  suspended : whole.containerState = .suspended → whole.container.state = .frozen
  terminated : whole.containerState = .terminated → whole.container.state = .destroyed
  safe : ∀ event ∈ recorded, Safe event
  destroysOnce :
    recorded.Pairwise fun earlier later => Destroyed earlier → ¬ IsDestroy later
  destroyed : (∃ event ∈ recorded, Destroyed event) → whole.containerState = .terminated

/-- The container was constructed when `before` had been recorded, and its public
operations were called since. -/
inductive Reachable (oracle : Oracle Sys) (before : History Sys) :
    World Sys LibraryContainer → Prop
  | constructed {containerID : Int} {config : SoftwareContainerConfig}
      {self : LibraryContainer} {history : History Sys} :
      (construct containerID config).run oracle ⟨(), before⟩ = (.ok self, ⟨(), history⟩) →
      Reachable oracle before ⟨self, history⟩
  | performed {world : World Sys LibraryContainer} (operation : Operation) :
      Reachable oracle before world →
      Reachable oracle before ((perform operation).run oracle world).2

/-- The world is as the couplings say, by the calls made since `before`. -/
def CoupledSince (before : History Sys) (world : World Sys LibraryContainer) : Prop :=
  ∃ recorded, world.history = before ++ recorded ∧ Coupled world.state recorded

/-! Operations that are refused. -/

section

variable {self : LibraryContainer} {oracle : Oracle Sys} {history : History Sys}

theorem run_assertValidState_of_invalid (invalid : self.containerState = .invalid) :
    (assertValidState : Method PUnit).run oracle ⟨self, history⟩ =
      (.error (.invalidContainerError ("Container is invalid " ++ self.id)),
        ⟨self, history⟩) := by
  rw [assertValidState, run_get_bind]
  dsimp only
  rw [if_pos invalid, run_throw]

theorem run_assertReady_of_ready (ready : self.containerState = .ready)
    (message : String) :
    (assertReady message).run oracle ⟨self, history⟩ = (.ok ⟨⟩, ⟨self, history⟩) := by
  have valid : self.containerState ≠ .invalid := by rw [ready]; decide
  rw [assertReady, run_bind_ok (run_assertValidState valid oracle history), run_get_bind]
  dsimp only
  rw [if_neg (not_not.mpr ready), run_pure]

theorem run_assertReady_of_not_ready (notReady : self.containerState ≠ .ready)
    (valid : self.containerState ≠ .invalid) (message : String) :
    (assertReady message).run oracle ⟨self, history⟩ =
      (.error (.invalidOperationError (message ++ self.id)), ⟨self, history⟩) := by
  rw [assertReady, run_bind_ok (run_assertValidState valid oracle history), run_get_bind]
  dsimp only
  rw [if_pos notReady, run_throw]

theorem run_perform_of_invalid (invalid : self.containerState = .invalid)
    (operation : Operation) :
    (perform operation).run oracle ⟨self, history⟩ =
      (.error (.invalidContainerError ("Container is invalid " ++ self.id)),
        ⟨self, history⟩) := by
  have checked : (assertValidState : Method PUnit).run oracle ⟨self, history⟩ = _ :=
    run_assertValidState_of_invalid invalid
  cases operation with
  | startGateways gwConfig => exact run_bind_error (run_bind_error checked)
  | createFunctionJob => exact run_bind_error checked
  | createCommandJob command => exact run_bind_error (run_bind_error (run_bind_error checked))
  | bindMount pathOnHost pathInContainer readonly =>
      exact run_bind_error (run_bind_error (run_bind_error checked))
  | suspend => exact run_bind_error (run_bind_error checked)
  | resume => exact run_bind_error checked
  | shutdown timeout => exact run_bind_error checked

theorem run_resume_of_not_suspended (notSuspended : self.containerState ≠ .suspended)
    (valid : self.containerState ≠ .invalid) :
    resume.run oracle ⟨self, history⟩ =
      (.error (.invalidOperationError
        ("Invalid to resume non suspended container " ++ self.id)), ⟨self, history⟩) := by
  rw [resume, run_bind_ok (run_assertValidState valid oracle history), run_get_bind]
  dsimp only
  rw [if_pos notSuspended, run_throw]

theorem run_perform_of_terminated (terminated : self.containerState = .terminated)
    (operation : Operation) :
    ∃ error, (perform operation).run oracle ⟨self, history⟩ =
      (.error error, ⟨self, history⟩) := by
  have valid : self.containerState ≠ .invalid := by rw [terminated]; decide
  have notReady : self.containerState ≠ .ready := by rw [terminated]; decide
  have checked := run_assertValidState valid oracle history
  have refused (message : String) : (assertReady message).run oracle ⟨self, history⟩ = _ :=
    run_assertReady_of_not_ready notReady valid message
  cases operation with
  | startGateways gwConfig =>
      refine ⟨.invalidOperationError
        ("Invalid to start gateways on non ready container " ++ self.id),
        run_bind_error ?_⟩
      rw [startGateways, run_bind_ok checked, run_get_bind]
      dsimp only
      rw [if_pos notReady, run_throw]
  | createFunctionJob => exact ⟨_, refused _⟩
  | createCommandJob command => exact ⟨_, run_bind_error (run_bind_error (refused _))⟩
  | bindMount pathOnHost pathInContainer readonly =>
      exact ⟨_, run_bind_error (run_bind_error (refused _))⟩
  | suspend => exact ⟨_, run_bind_error (refused _)⟩
  | resume => exact ⟨_, run_resume_of_not_suspended (by rw [terminated]; decide) valid⟩
  | shutdown timeout =>
      refine ⟨.invalidOperationError
        ("Invalid to shut down container which is not ready or suspended " ++ self.id), ?_⟩
      rw [perform, shutdown, run_bind_ok checked, run_get_bind]
      dsimp only
      rw [if_pos (by rw [terminated]; decide), run_throw]

end

/-! One step. -/

theorem Coupled.grow {self after : LibraryContainer} {recorded late : History Sys}
    (coupled : Coupled self recorded)
    (allowed : ∀ event ∈ late, Container.BeforeDestroy event)
    (ready : after.containerState = .ready → after.container.state = .started)
    (suspended : after.containerState = .suspended → after.container.state = .frozen)
    (terminated : after.containerState = .terminated → after.container.state = .destroyed)
    (stays : self.containerState = .terminated → after.containerState = .terminated) :
    Coupled after (recorded ++ late) where
  ready := ready
  suspended := suspended
  terminated := terminated
  safe event member := (List.mem_append.mp member).elim (coupled.safe event)
    fun inLate => (allowed event inLate).1
  destroysOnce := List.pairwise_append.mpr ⟨coupled.destroysOnce,
    List.pairwise_of_forall_mem_list fun _ _ later member _ => (allowed later member).2,
    fun _ _ later member _ => (allowed later member).2⟩
  destroyed := by
    rintro ⟨event, member, destroyed⟩
    rcases List.mem_append.mp member with early | inLate
    · exact stays (coupled.destroyed ⟨event, early, destroyed⟩)
    · exact absurd destroyed.isDestroy (allowed event inLate).2

theorem Coupled.destroy {self after : LibraryContainer} {recorded : History Sys}
    (coupled : Coupled self recorded) (alive : self.containerState ≠ .terminated)
    (id : String) (answer : Bool)
    (machine : after.containerState = if answer then .terminated else .invalid)
    (terminated : answer = true → after.container.state = .destroyed) :
    Coupled after (recorded ++ [⟨.lxc id .created .destroy, answer⟩]) where
  ready same := by cases answer <;> cases machine.symm.trans same
  suspended same := by cases answer <;> cases machine.symm.trans same
  terminated same := by
    cases answer with
    | true => exact terminated rfl
    | false => cases machine.symm.trans same
  safe event member := (List.mem_append.mp member).elim (coupled.safe event)
    fun last => by
      cases List.mem_singleton.mp last
      rfl
  destroysOnce := List.pairwise_append.mpr ⟨coupled.destroysOnce,
    List.pairwise_singleton _ _, fun earlier member _ _ destroyed =>
      (alive (coupled.destroyed ⟨earlier, member, destroyed⟩)).elim⟩
  destroyed := by
    rintro ⟨event, member, destroyed⟩
    rcases List.mem_append.mp member with early | last
    · exact (alive (coupled.destroyed ⟨event, early, destroyed⟩)).elim
    · cases List.mem_singleton.mp last
      obtain ⟨_, _, same⟩ := destroyed
      cases same
      exact machine

/-! The operations. -/

section

variable {before : History Sys} {oracle : Oracle Sys}

theorem CoupledSince.idle {α : Type} {method : Method α} (idle : Idle False method)
    {world : World Sys LibraryContainer} (coupled : CoupledSince before world) :
    CoupledSince before (method.run oracle world).2 := by
  obtain ⟨recorded, grown, holds⟩ := coupled
  obtain ⟨stays, ⟨late, grownLate, steady⟩, _⟩ :=
    idle _ _ oracle world ⟨nofun, rfl, rfl⟩
  refine ⟨recorded ++ late, ?_, ?_⟩
  · rw [grownLate, grown, List.append_assoc]
  · refine holds.grow (fun event member => Container.beforeDestroy_of_steady
      (steady event member)) ?_ ?_ ?_ ?_
    · rw [stays.machine, stays.container]
      exact holds.ready
    · rw [stays.machine, stays.container]
      exact holds.suspended
    · rw [stays.machine, stays.container]
      exact holds.terminated
    · rw [stays.machine]
      exact fun same => same

theorem idle_bind_pure {ok : Prop} {α β : Type} {method : Method α} {value : α → β}
    (idle : Idle ok method) : Idle ok (do let result ← method; return value result) :=
  fun _ _ => keeps_bind (idle _ _) fun _ => keeps_pure _

variable {self : LibraryContainer} {history : History Sys}

theorem run_onContainer {α : Type} (method : Container.Method α)
    {result : Except Fault α} {container : Container} {after : History Sys}
    (ended : method.run oracle ⟨self.container, history⟩ = (result, ⟨container, after⟩)) :
    (onContainer method).run oracle ⟨self, history⟩ =
      (result, ⟨{ self with container }, after⟩) := by
  rw [onContainer, run_zoom]
  have same : containerLens.get self = self.container := rfl
  dsimp only
  rw [same, ended]
  rfl

theorem run_suspend (coupled : Coupled self recorded) (ready : self.containerState = .ready) :
    let call := SysCall.lxc self.container.id self.container.state .freeze
    let frozen : Bool := oracle history call
    suspend.run oracle ⟨self, history⟩ =
      (if frozen then .ok ⟨⟩
        else .error (.softwareContainerError "Could not suspend the container."),
        ⟨if frozen then { self with
            containerState := .suspended
            container := { self.container with state := .frozen } }
          else self, history ++ [⟨call, frozen⟩]⟩) := by
  intro call frozen
  have inner := Container.run_suspend_of_started oracle history (coupled.ready ready)
  dsimp only at inner
  rw [suspend, run_bind_ok (run_assertReady_of_ready ready _)]
  cases answered : frozen with
  | true =>
      have frozenTrue : (oracle history
        (.lxc self.container.id self.container.state .freeze) : Bool) = true := answered
      rw [frozenTrue] at inner
      rw [run_bind_ok (run_onContainer _ inner)]
      rfl
  | false =>
      have frozenFalse : (oracle history
        (.lxc self.container.id self.container.state .freeze) : Bool) = false := answered
      rw [frozenFalse] at inner
      rw [run_bind_error (run_onContainer _ inner)]
      rfl

theorem run_resume (coupled : Coupled self recorded)
    (suspended : self.containerState = .suspended) :
    let call := SysCall.lxc self.container.id self.container.state .unfreeze
    let thawed : Bool := oracle history call
    resume.run oracle ⟨self, history⟩ =
      (if thawed then .ok ⟨⟩
        else .error (.softwareContainerError "Could not resume the container."),
        ⟨if thawed then { self with
            containerState := .ready
            container := { self.container with state := .started } }
          else self, history ++ [⟨call, thawed⟩]⟩) := by
  intro call thawed
  have inner := Container.run_resume_of_frozen oracle history (coupled.suspended suspended)
  have valid : self.containerState ≠ .invalid := by rw [suspended]; decide
  dsimp only at inner
  rw [resume, run_bind_ok (run_assertValidState valid oracle history), run_get_bind]
  dsimp only
  rw [if_neg (not_not.mpr suspended)]
  cases answered : thawed with
  | true =>
      have thawedTrue : (oracle history
        (.lxc self.container.id self.container.state .unfreeze) : Bool) = true := answered
      rw [thawedTrue] at inner
      rw [run_bind_ok (run_onContainer _ inner)]
      rfl
  | false =>
      have thawedFalse : (oracle history
        (.lxc self.container.id self.container.state .unfreeze) : Bool) = false := answered
      rw [thawedFalse] at inner
      rw [run_bind_error (run_onContainer _ inner)]
      rfl

theorem CoupledSince.suspend (ready : self.containerState = .ready)
    (coupled : CoupledSince before ⟨self, history⟩) :
    CoupledSince before (suspend.run oracle ⟨self, history⟩).2 := by
  obtain ⟨recorded, grown, holds⟩ := coupled
  dsimp only at grown holds
  have started := holds.ready ready
  rw [run_suspend holds ready]
  dsimp only
  generalize (oracle history (.lxc self.container.id self.container.state .freeze) : Bool)
    = frozen
  refine ⟨recorded ++ [⟨.lxc self.container.id self.container.state .freeze, frozen⟩],
    by rw [grown, List.append_assoc], ?_⟩
  have allowed : ∀ event ∈ [(⟨.lxc self.container.id self.container.state .freeze,
      frozen⟩ : Event Sys)], Container.BeforeDestroy event := by
    intro event member
    cases List.mem_singleton.mp member
    refine ⟨started, ?_⟩
    rintro ⟨_, _, same⟩
    cases same
  cases frozen with
  | true =>
      refine holds.grow allowed nofun (fun _ => rfl) nofun fun same => ?_
      cases ready.symm.trans same
  | false => exact holds.grow allowed holds.ready holds.suspended holds.terminated fun same => same

theorem CoupledSince.resume (suspended : self.containerState = .suspended)
    (coupled : CoupledSince before ⟨self, history⟩) :
    CoupledSince before (resume.run oracle ⟨self, history⟩).2 := by
  obtain ⟨recorded, grown, holds⟩ := coupled
  dsimp only at grown holds
  have isFrozen := holds.suspended suspended
  rw [run_resume holds suspended]
  dsimp only
  generalize (oracle history (.lxc self.container.id self.container.state .unfreeze) : Bool)
    = thawed
  refine ⟨recorded ++ [⟨.lxc self.container.id self.container.state .unfreeze, thawed⟩],
    by rw [grown, List.append_assoc], ?_⟩
  have allowed : ∀ event ∈ [(⟨.lxc self.container.id self.container.state .unfreeze,
      thawed⟩ : Event Sys)], Container.BeforeDestroy event := by
    intro event member
    cases List.mem_singleton.mp member
    refine ⟨isFrozen, ?_⟩
    rintro ⟨_, _, same⟩
    cases same
  cases thawed with
  | true =>
      refine holds.grow allowed (fun _ => rfl) nofun nofun fun same => ?_
      cases suspended.symm.trans same
  | false => exact holds.grow allowed holds.ready holds.suspended holds.terminated fun same => same

theorem run_destroyed (timeout : Int) {destroyed : Bool} {container : Container}
    {after : History Sys}
    (ended : (Container.destroy timeout).run oracle ⟨self.container, history⟩ =
      (.ok destroyed, ⟨container, after⟩)) :
    (do
      if !(← onContainer (Container.destroy timeout)) then
        invalidate "Could not destroy the container during shutdown "
      else
        setState .terminated : Method PUnit).run oracle ⟨self, history⟩ =
      (if destroyed then .ok ⟨⟩
        else .error (.containerError ("Could not destroy the container during shutdown " ++
          self.id)),
        ⟨{ self with
          containerState := if destroyed then .terminated else .invalid
          container := container }, after⟩) := by
  rw [run_bind_ok (run_onContainer _ ended)]
  cases destroyed <;> rfl

theorem run_shutdown_of_alive
    (alive : self.containerState = .ready ∨ self.containerState = .suspended)
    (timeout : Int) :
    (shutdown timeout).run oracle ⟨self, history⟩ =
      (do
        shutdownGateways
        if !(← onContainer (Container.destroy timeout)) then
          invalidate "Could not destroy the container during shutdown "
        else
          setState .terminated : Method PUnit).run oracle ⟨self, history⟩ := by
  have valid : self.containerState ≠ .invalid := by rcases alive with h | h <;> rw [h] <;> decide
  have allowed : ¬ (self.containerState ≠ .ready ∧ self.containerState ≠ .suspended) :=
    fun refused => alive.elim refused.1 refused.2
  rw [shutdown, run_bind_ok (run_assertValidState valid oracle history), run_get_bind]
  dsimp only
  rw [if_neg allowed]

/-- A shutdown of a live container: the gateways are gone, and `Container::destroy` is
reached and decides the result. -/
theorem shutdown_reaches_destroy
    (alive : self.containerState = .ready ∨ self.containerState = .suspended)
    (timeout : Int) (oracle : Oracle Sys) (history : History Sys) :
    ∃ middle steady, (∀ event ∈ steady, Steady event) ∧
      Stays True self.container.state self.containerState middle ∧
      let destroying := (Container.destroy timeout).run oracle
        ⟨middle.container, history ++ steady⟩
      (∀ destroyed, destroying.1 = .ok destroyed →
        (shutdown timeout).run oracle ⟨self, history⟩ =
          (if destroyed then .ok ⟨⟩
            else .error (.containerError
              ("Could not destroy the container during shutdown " ++ middle.id)),
            ⟨{ middle with
              containerState := if destroyed then .terminated else .invalid
              container := destroying.2.state }, destroying.2.history⟩)) := by
  obtain ⟨⟨stays, done⟩, steady, grown, allowed⟩ :=
    triple_shutdownGateways self.container.state self.containerState oracle
      ⟨self, history⟩ ⟨nofun, rfl, rfl⟩
  cases ended : shutdownGateways.run oracle ⟨self, history⟩ with
  | mk result world =>
      obtain ⟨middle, history'⟩ := world
      rw [ended] at stays done grown
      dsimp only at stays done grown
      subst done grown
      refine ⟨middle, steady, allowed, stays, fun destroyed destroying => ?_⟩
      rw [run_shutdown_of_alive alive, run_bind_ok ended]
      exact run_destroyed timeout (Prod.ext destroying rfl)

theorem CoupledSince.shutdown
    (alive : self.containerState = .ready ∨ self.containerState = .suspended)
    (timeout : Int) (coupled : CoupledSince before ⟨self, history⟩) :
    CoupledSince before ((shutdown timeout).run oracle ⟨self, history⟩).2 := by
  obtain ⟨recorded, grown, holds⟩ := coupled
  dsimp only at grown holds
  obtain ⟨middle, steady, allowed, stays, ending⟩ :=
    shutdown_reaches_destroy alive timeout oracle history
  have notTerminated : middle.containerState ≠ .terminated := by
    rw [stays.machine]
    rcases alive with same | same <;> rw [same] <;> decide
  have running : middle.container.state = .created ∨ middle.container.state = .started ∨
      middle.container.state = .frozen := by
    rw [stays.container]
    exact .inr (alive.imp holds.ready holds.suspended)
  have destruction := Container.destruction_destroy running timeout oracle
    (history ++ steady)
  have sofar : Coupled middle (recorded ++ steady) := by
    refine holds.grow (fun event member => Container.beforeDestroy_of_steady
      (allowed event member)) ?_ ?_ ?_ ?_ <;> rw [stays.machine]
    · rw [stays.container]
      exact holds.ready
    · rw [stays.container]
      exact holds.suspended
    · rw [stays.container]
      exact holds.terminated
    · exact fun same => same
  dsimp only at ending
  generalize (Container.destroy timeout).run oracle ⟨middle.container, history ++ steady⟩ =
    destroying at destruction ending
  obtain ⟨result, container, final⟩ := destroying
  cases destruction with
  | notReached early same =>
      dsimp only at same
      rw [ending false rfl]
      refine ⟨recorded ++ steady ++ _, ?_, sofar.grow early nofun nofun nofun
        fun same => absurd same notTerminated⟩
      dsimp only
      rw [same, grown]
      simp only [List.append_assoc]
  | @reached earlyEvents _ id answer early same ended =>
      dsimp only at same ended
      rw [ending answer rfl]
      refine ⟨recorded ++ steady ++ earlyEvents ++ [⟨.lxc id .created .destroy, answer⟩],
        ?_, ?_⟩
      · dsimp only
        rw [same, grown]
        simp only [List.append_assoc]
      · have broken : Coupled { middle with containerState := .invalid }
            (recorded ++ steady ++ earlyEvents) :=
          sofar.grow early nofun nofun nofun fun same => absurd same notTerminated
        exact broken.destroy nofun id answer rfl fun isTrue => by
          rw [ended, isTrue, if_pos rfl]

theorem CoupledSince.perform (operation : Operation) {world : World Sys LibraryContainer}
    (coupled : CoupledSince before world) :
    CoupledSince before ((perform operation).run oracle world).2 := by
  obtain ⟨self, history⟩ := world
  by_cases dead : self.containerState = .invalid ∨ self.containerState = .terminated
  · have refused : ∃ error, (SoftwareContainer.perform operation).run oracle ⟨self, history⟩ =
        (.error error, ⟨self, history⟩) :=
      dead.elim (fun invalid => ⟨_, run_perform_of_invalid invalid operation⟩)
        fun terminated => run_perform_of_terminated terminated operation
    obtain ⟨error, ended⟩ := refused
    rw [ended]
    exact coupled
  · have alive : self.containerState = .ready ∨ self.containerState = .suspended := by
      cases same : self.containerState with
      | ready => exact .inl rfl
      | suspended => exact .inr rfl
      | terminated => exact absurd (.inr same) dead
      | invalid => exact absurd (.inl same) dead
    cases operation with
    | startGateways gwConfig =>
        exact coupled.idle
          (idle_bind_pure (idle_startGateways (fun impossible : False => impossible.elim)))
    | createFunctionJob => exact coupled.idle (idle_assertReady _)
    | createCommandJob command =>
        exact coupled.idle (idle_bind_pure (idle_bind_pure (idle_assertReady _)))
    | bindMount pathOnHost pathInContainer readonly =>
        exact coupled.idle
          (idle_bind_pure (idle_bindMount (fun impossible : False => impossible.elim)))
    | suspend =>
        rcases alive with ready | suspended
        · exact coupled.suspend ready
        · have refused : (SoftwareContainer.suspend).run oracle ⟨self, history⟩ = _ :=
            run_bind_error (run_assertReady_of_not_ready (by rw [suspended]; decide)
              (by rw [suspended]; decide) _)
          rw [SoftwareContainer.perform, refused]
          exact coupled
    | resume =>
        rcases alive with ready | suspended
        · rw [SoftwareContainer.perform, run_resume_of_not_suspended
            (by rw [ready]; decide) (by rw [ready]; decide)]
          exact coupled
        · exact coupled.resume suspended
    | shutdown timeout => exact coupled.shutdown alive timeout

end

/-! The constructor. -/

section

variable {σ : Type} {inv : σ → Prop}

theorem steady_checkContainerRoot (rootDir : String) :
    Keeps inv Steady Caught (checkContainerRoot rootDir) := by
  refine keeps_bind (steady_sys rfl) fun _ => keeps_ite (fun _ => ?_) fun _ =>
    keeps_bind (steady_sys rfl) fun _ => keeps_pure _
  exact keeps_bind (steady_sys rfl) fun _ => keeps_ite (fun _ => keeps_throw rfl)
    fun _ => keeps_bind (steady_sys rfl) fun _ => keeps_pure _

theorem steady_checkNetworkSettings (config : SoftwareContainerConfig) :
    Keeps inv Steady Caught (checkNetworkSettings config) :=
  keeps_bind (steady_sys rfl) fun outcome =>
    match outcome with
    | .spawned _ => keeps_ite (fun _ => keeps_throw rfl) fun _ => keeps_pure _
    | .spawnError => keeps_throw rfl
    | .shellError => keeps_throw rfl

theorem steady_mountContainerRoot (config : SoftwareContainerConfig)
    (containerRoot : String) :
    Keeps inv Steady Caught (mountContainerRoot config containerRoot) :=
  keeps_ite (fun _ => keeps_bind (keeps_runOn trivial (Toolkit.quiet_tmpfsMount _ _))
    fun _ => keeps_pure _) fun _ => keeps_pure _

theorem triple_start :
    Triple (fun _ => True) Steady
      (fun result self => result = .ok true → self.state = .started) start := by
  refine triple_bind_keeps Container.steady_initializeContainer fun _ =>
    triple_ite (fun _ => triple_pure nofun) fun _ => ?_
  exact triple_bind_keeps Container.steady_create fun _ =>
    triple_ite (fun _ => triple_pure nofun) fun _ => Container.triple_start

theorem init_started {containerID : Int} {world after : World Sys Container} {value : PUnit}
    (ended : (init containerID).run oracle world = (.ok value, after)) :
    after.state.state = .started ∧
      Grows Steady world.history after.history := by
  obtain ⟨started, between, startEnded, rest⟩ := run_bind_eq_ok ended
  obtain ⟨isStarted, grown⟩ := triple_start oracle world trivial
  rw [startEnded] at isStarted grown
  cases started with
  | false =>
      obtain ⟨_, _, _, thrown⟩ := run_bind_eq_ok rest
      cases thrown
  | true =>
      cases rest
      exact ⟨isStarted rfl, grown⟩

theorem construct_ready {containerID : Int} {config : SoftwareContainerConfig}
    {world after : World Sys σ} {self : LibraryContainer}
    (ended : (construct containerID config).run oracle world = (.ok self, after)) :
    self.containerState = .ready ∧ self.container.state = .started ∧
      self.previouslyConfigured = false ∧
      self.gateways = createGateways containerID config ("SC-" ++ toString containerID) ∧
      after.state = world.state ∧
      Grows Steady world.history after.history := by
  obtain ⟨_, root, rootEnded, rest⟩ := run_bind_eq_ok ended
  obtain ⟨_, mounted, mountEnded, rest⟩ := run_bind_eq_ok rest
  obtain ⟨_, network, networkEnded, rest⟩ := run_bind_eq_ok rest
  obtain ⟨⟨_, container⟩, started, startEnded, rest⟩ := run_bind_eq_ok rest
  cases rest
  obtain ⟨initEnded, same⟩ := run_runOn_eq_ok startEnded
  obtain ⟨isStarted, grownStart⟩ := init_started initEnded
  obtain ⟨sameRoot, grownRoot, _⟩ :=
    @steady_checkContainerRoot σ (· = world.state) _ oracle world rfl
  rw [rootEnded] at sameRoot grownRoot
  obtain ⟨sameMount, grownMount, _⟩ :=
    @steady_mountContainerRoot σ (· = world.state) _ _ oracle root sameRoot
  rw [mountEnded] at sameMount grownMount
  obtain ⟨sameNetwork, grownNetwork, _⟩ :=
    @steady_checkNetworkSettings σ (· = world.state) _ oracle mounted sameMount
  rw [networkEnded] at sameNetwork grownNetwork
  exact ⟨rfl, isStarted, rfl, rfl, same.trans sameNetwork,
    Grows.trans grownRoot (Grows.trans grownMount (Grows.trans grownNetwork grownStart))⟩

end

/-! Runs. -/

theorem coupled_of_ready {self : LibraryContainer} {recorded : History Sys}
    (ready : self.containerState = .ready) (started : self.container.state = .started)
    (steady : ∀ event ∈ recorded, Steady event) : Coupled self recorded where
  ready _ := started
  suspended same := by cases ready.symm.trans same
  terminated same := by cases ready.symm.trans same
  safe event member := (steady event member).safe
  destroysOnce := List.pairwise_of_forall_mem_list fun _ _ later member _ =>
    (steady later member).not_isDestroy
  destroyed := fun ⟨event, member, destroyed⟩ =>
    absurd destroyed.isDestroy (steady event member).not_isDestroy

theorem coupledSince_of_reachable {oracle : Oracle Sys} {before : History Sys}
    {world : World Sys LibraryContainer} (reachable : Reachable oracle before world) :
    CoupledSince before world := by
  induction reachable with
  | constructed ended =>
      obtain ⟨ready, started, _, _, _, recorded, grown, steady⟩ := construct_ready ended
      exact ⟨recorded, grown, coupled_of_ready ready started steady⟩
  | performed operation _ ih => exact ih.perform operation

/-- The state machines stay coupled, the calls to LXC are made from the right states,
and a container that is terminated or broken stays so. -/
theorem reachable_coupled {oracle : Oracle Sys} {before : History Sys}
    {world : World Sys LibraryContainer} (reachable : Reachable oracle before world) :
    CoupledSince before world ∧
      (world.state.containerState = .terminated ∨ world.state.containerState = .invalid →
        ∀ operation, ∃ error,
          (perform operation).run oracle world = (.error error, world)) :=
  ⟨coupledSince_of_reachable reachable, fun dead operation =>
    dead.elim (fun terminated => run_perform_of_terminated terminated operation)
      fun invalid => ⟨_, run_perform_of_invalid invalid operation⟩⟩

theorem reachable_coupled_constructed :
    ∃ world, Reachable fortunate [] world ∧ CoupledSince [] world ∧
      (world.state.containerState = .terminated ∨ world.state.containerState = .invalid →
        ∀ operation, ∃ error,
          (perform operation).run fortunate world = (.error error, world)) :=
  have reachable : ∃ world, Reachable fortunate [] world :=
    ⟨_, .performed (.shutdown 2) (.performed .suspend
      (@Reachable.constructed _ _ 0 .defaults _ _ rfl))⟩
  reachable.imp fun _ holds => ⟨holds, reachable_coupled holds⟩

end SoftwareContainer

end SoftwareContainers
