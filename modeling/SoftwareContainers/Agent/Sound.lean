import SoftwareContainers.Agent.Library
import SoftwareContainers.Gateways.DBusActivation
import SoftwareContainers.Library.Coupling

namespace SoftwareContainers

open Effect Effect.Act

/-! What the containers of the library keep and what they throw, whatever the agent does
with them. -/

abbrev AnyEvent (_ : Event Sys) : Prop := True

namespace Container

def Alive (self : Container) : Prop :=
  self.state = .created ∨ self.state = .started ∨ self.state = .frozen

theorem triple_destroy (timeout : Int) :
    Triple Alive AnyEvent
      (fun result self => ∃ destroyed, result = .ok destroyed ∧
        if destroyed then self.state = .destroyed else self.Alive) (destroy timeout) := by
  refine triple_get_bind fun self alive => triple_ite (fun _ => ?_) fun _ => ?_
  · exact triple_pure fun _ same => ⟨false, rfl, same ▸ alive⟩
  · have stopped : Triple (· = self) AnyEvent
        (fun result after => (result = .ok true ∧ after.state = .created) ∨
          (result = .ok false ∧ after.Alive))
        (if self.state.value ≥ ContainerState.started.value then shutdown timeout
          else pure true) := by
      refine triple_ite (fun high => ?_) fun low => ?_
      · have running : self.state = .started ∨ self.state = .frozen := by
          rcases alive with created | running
          · rw [created] at high
            exact absurd high (by decide)
          · exact running
        exact ((triple_shutdown running timeout).weaken (fun _ same => congrArg state same)
          fun _ _ holds => holds.imp (fun done => done) fun failed =>
            ⟨failed.1, .inr (failed.2.symm ▸ running)⟩).permit fun _ _ => trivial
      · have created : self.state = .created := by
          rcases alive with created | same | same
          · exact created
          · rw [same] at low
            exact absurd (by decide) low
          · rw [same] at low
            exact absurd (by decide) low
        exact triple_pure fun _ same => .inl ⟨rfl, same ▸ created⟩
    refine triple_bind stopped (fun value => ?_) fun error after holds => ?_
    · refine triple_ite (fun isFalse => ?_) fun isTrue => ?_
      · refine triple_pure fun after holds => ⟨false, rfl, ?_⟩
        rcases holds with ⟨returned, created⟩ | ⟨_, alive⟩
        · exact .inl created
        · exact alive
      · have isCreated : ∀ after : Container,
            ((Except.ok value : Except Fault Bool) = .ok true ∧ after.state = .created) ∨
              ((Except.ok value : Except Fault Bool) = .ok false ∧ after.Alive) →
            after.state = .created := by
          rintro after (⟨_, created⟩ | ⟨returned, _⟩)
          · exact created
          · cases returned
            exact absurd rfl isTrue
        refine Triple.weaken ?_ isCreated fun _ _ holds => holds
        have unmounted : Keeps (fun self : Container => self.state = .created) AnyEvent
            (fun _ => False) unmountRootFS :=
          (quiet_unmountRootFS .created).weaken (fun _ _ => trivial) fun _ never => never
        have asked : Keeps (fun self : Container => self.state = .created) AnyEvent
            (fun _ => False) (lxc .destroy) :=
          keeps_get_bind fun _ _ => keeps_ask fun _ => trivial
        refine triple_bind_keeps unmounted fun _ => triple_ite (fun _ => ?_) fun _ => ?_
        · exact triple_pure fun _ created => ⟨false, rfl, .inl created⟩
        · refine triple_bind_keeps asked fun _ => triple_ite (fun _ => ?_) fun _ => ?_
          · exact triple_pure fun _ created => ⟨false, rfl, .inl created⟩
          · have moved : Triple (fun self : Container => self.state = .created) AnyEvent
                (fun result after => result = .ok ⟨⟩ ∧ after.state = .destroyed)
                (setState .destroyed) :=
              triple_modify fun _ _ => ⟨rfl, rfl⟩
            exact triple_bind moved
              (fun _ => triple_pure fun _ holds => ⟨true, rfl, holds.2⟩)
              fun _ _ holds => nomatch holds.1
    · rcases holds with ⟨returned, _⟩ | ⟨returned, _⟩ <;> cases returned

/-! The destructor. -/

abbrev Silent {σ : Type} {ε α : Type} (act : Act Sys ε σ α) : Prop :=
  Keeps (fun _ => True) AnyEvent (fun _ => False) act

theorem silent_of_quiet {α : Type} {method : Method α} (quiet : Quiet (fun _ => False) method) :
    Silent method :=
  fun oracle world _ =>
    let ⟨_, ⟨recorded, grown, _⟩, never⟩ := quiet world.state.state oracle world rfl
    ⟨trivial, ⟨recorded, grown, fun _ _ => trivial⟩, never⟩

theorem silent_lxc (call : LxcCall) : Silent (lxc call) :=
  keeps_get_bind fun _ _ => keeps_ask fun _ => trivial

theorem silent_setState (state : ContainerState) : Silent (setState state) :=
  keeps_modify fun _ _ => trivial

theorem silent_stop : Silent stop := by
  refine keeps_get_bind fun _ _ => keeps_ite (fun _ => ?_) fun _ => keeps_pure _
  refine keeps_bind (silent_lxc _) fun _ => keeps_ite (fun _ => ?_) fun _ => keeps_pure _
  exact keeps_bind (silent_of_quiet (quiet_waitForState _ _)) fun _ => keeps_pure _

theorem silent_shutdown (timeout : Int) : Silent (shutdown timeout) := by
  refine keeps_get_bind fun _ _ => keeps_ite (fun _ => keeps_pure _) fun _ => ?_
  refine keeps_bind (silent_of_quiet quiet_killInit) fun _ =>
    keeps_bind (silent_lxc _) fun _ => keeps_bind
      (keeps_ite (fun _ => keeps_pure _) fun _ => silent_stop) fun _ => ?_
  exact keeps_ite (fun _ => keeps_pure _) fun _ =>
    keeps_bind (silent_setState _) fun _ => keeps_pure _

theorem silent_destroy (timeout : Int) : Silent (destroy timeout) := by
  refine keeps_get_bind fun _ _ => keeps_ite (fun _ => keeps_pure _) fun _ => ?_
  refine keeps_bind (keeps_ite (fun _ => silent_shutdown timeout) fun _ => keeps_pure _)
    fun _ => keeps_ite (fun _ => keeps_pure _) fun _ => ?_
  refine keeps_bind (silent_of_quiet quiet_unmountRootFS) fun _ =>
    keeps_ite (fun _ => keeps_pure _) fun _ => ?_
  exact keeps_bind (silent_lxc _) fun _ => keeps_ite (fun _ => keeps_pure _) fun _ =>
    keeps_bind (silent_setState _) fun _ => keeps_pure _

theorem silent_destructor : Silent destructor := by
  refine keeps_get_bind fun _ _ => keeps_ite (fun _ => ?_) fun _ => keeps_pure _
  refine keeps_bind (keeps_get_bind fun _ _ => keeps_ite
    (fun _ => keeps_bind (silent_shutdown _) fun _ => keeps_pure _) fun _ => keeps_pure _)
    fun _ => ?_
  refine keeps_bind (keeps_get_bind fun _ _ => keeps_ite
    (fun _ => keeps_bind (silent_destroy _) fun _ => keeps_pure _) fun _ => keeps_pure _)
    fun _ => ?_
  exact keeps_bind (silent_lxc _) fun _ => keeps_modify fun _ _ => trivial

end Container

namespace SoftwareContainer

/-- What the state of the outer class says about that of the inner one. -/
structure Coherent (whole : LibraryContainer) : Prop where
  ready : whole.containerState = .ready → whole.container.state = .started
  suspended : whole.containerState = .suspended → whole.container.state = .frozen
  terminated : whole.containerState = .terminated → whole.container.state = .destroyed
  invalid : whole.containerState = .invalid → whole.container.Alive

theorem Coherent.coupled {self : LibraryContainer} (coherent : Coherent self) :
    Coupled self [] where
  ready := coherent.ready
  suspended := coherent.suspended
  terminated := coherent.terminated
  safe _ member := absurd member List.not_mem_nil
  destroysOnce := .nil
  destroyed := fun ⟨_, member, _⟩ => absurd member List.not_mem_nil

theorem Coherent.of_stays {ok : Prop} {self after : LibraryContainer}
    (coherent : Coherent self)
    (stays : Stays ok self.container.state self.containerState after) : Coherent after where
  ready := by
    rw [stays.machine, stays.container]
    exact coherent.ready
  suspended := by
    rw [stays.machine, stays.container]
    exact coherent.suspended
  terminated := by
    rw [stays.machine, stays.container]
    exact coherent.terminated
  invalid := by
    rw [stays.machine, Container.Alive, stays.container]
    exact coherent.invalid

structure Sound (ok : Prop) (whole : LibraryContainer) : Prop where
  coherent : Coherent whole
  gateways : ok → whole.ValidGateways

abbrev Fair (ok : Prop) {α : Type} (method : Method α) : Prop :=
  Keeps (Sound ok) AnyEvent (fun error => ok → Caught error) method

variable {ok : Prop} {α : Type}

theorem Idle.fair {method : Method α} (idle : Idle ok method) : Fair ok method := by
  intro oracle world sound
  obtain ⟨stays, ⟨recorded, grown, _⟩, caught⟩ := idle world.state.container.state
    world.state.containerState oracle world ⟨sound.gateways, rfl, rfl⟩
  exact ⟨⟨sound.coherent.of_stays stays, stays.gateways⟩,
    ⟨recorded, grown, fun _ _ => trivial⟩, caught⟩

theorem fair_createCommandJob (command : String) : Fair ok (createCommandJob command) :=
  keeps_bind (idle_assertReady _).fair fun _ => keeps_pure _

theorem idle_startJob {shellParseArgv : String → Option (List String)} {job : CommandJob}
    (parses : ok → (shellParseArgv job.command).isSome) :
    Idle ok (startJob shellParseArgv job) := by
  have quiet : Container.Quiet (fun error => ok → Caught error)
      (Container.executeCommand shellParseArgv job.command job.pid job.env
        job.workingDirectory job.stdin job.stdout job.stderr) := by
    intro state
    refine keeps_bind (Container.quiet_ensureContainerRunning state) fun _ =>
      keeps_ite (fun _ => keeps_pure _) fun _ => ?_
    cases parsed : shellParseArgv job.command with
    | none => exact keeps_throw fun fine => by rw [parsed] at parses; cases parses fine
    | some arguments => exact Container.quiet_execute _ _ _ _ _ _ state
  exact fun state containerState => keeps_onContainer quiet

theorem fair_startJob {shellParseArgv : String → Option (List String)} {job : CommandJob}
    (parses : ok → (shellParseArgv job.command).isSome) :
    Fair ok (startJob shellParseArgv job) :=
  (idle_startJob parses).fair

theorem refused_assertReady {oracle : Oracle Sys} {world : World Sys LibraryContainer}
    (notReady : world.state.containerState ≠ .ready) (message : String) :
    ∃ error, (assertReady message).run oracle world = (.error error, world) ∧
      Caught error := by
  by_cases invalid : world.state.containerState = .invalid
  · exact ⟨_, run_bind_error (run_assertValidState_of_invalid invalid), rfl⟩
  · exact ⟨_, run_assertReady_of_not_ready notReady invalid message, rfl⟩

theorem fair_of_refused {method : Method α} {oracle : Oracle Sys}
    {world : World Sys LibraryContainer} {error : Fault} (sound : Sound ok world.state)
    (ended : method.run oracle world = (.error error, world)) (caught : Caught error) :
    Sound ok (method.run oracle world).2.state ∧
      Grows AnyEvent world.history (method.run oracle world).2.history ∧
      ∀ thrown, (method.run oracle world).1 = .error thrown → ok → Caught thrown := by
  rw [ended]
  refine ⟨sound, ⟨[], (List.append_nil _).symm, fun _ _ => trivial⟩,
    fun thrown same _ => ?_⟩
  cases same
  exact caught

theorem fair_suspend : Fair ok suspend := by
  intro oracle world sound
  by_cases ready : world.state.containerState = .ready
  · have ended := @run_suspend oracle world.state world.history []
      sound.coherent.coupled ready
    dsimp only at ended
    generalize (oracle world.history (.lxc world.state.container.id
      world.state.container.state .freeze) : Bool) = frozen at ended
    rw [ended]
    refine ⟨?_, ⟨_, rfl, fun _ _ => trivial⟩, fun error thrown _ => ?_⟩
    · cases frozen with
      | true => exact ⟨⟨nofun, fun _ => rfl, nofun, nofun⟩, sound.gateways⟩
      | false => exact sound
    · cases frozen <;> cases thrown
      rfl
  · obtain ⟨error, refused, caught⟩ := @refused_assertReady oracle world ready
      "Invalid to suspend non ready container "
    exact fair_of_refused sound (run_bind_error refused) caught

theorem fair_resume : Fair ok resume := by
  intro oracle world sound
  by_cases suspended : world.state.containerState = .suspended
  · have ended := @run_resume oracle world.state world.history []
      sound.coherent.coupled suspended
    dsimp only at ended
    generalize (oracle world.history (.lxc world.state.container.id
      world.state.container.state .unfreeze) : Bool) = thawed at ended
    rw [ended]
    refine ⟨?_, ⟨_, rfl, fun _ _ => trivial⟩, fun error thrown _ => ?_⟩
    · cases thawed with
      | true => exact ⟨⟨fun _ => rfl, nofun, nofun, nofun⟩, sound.gateways⟩
      | false => exact sound
    · cases thawed <;> cases thrown
      rfl
  · by_cases invalid : world.state.containerState = .invalid
    · exact fair_of_refused sound
        (run_bind_error (run_assertValidState_of_invalid invalid)) rfl
    · exact fair_of_refused sound (run_resume_of_not_suspended suspended invalid) rfl

theorem fair_shutdown (timeout : Int) : Fair ok (shutdown timeout) := by
  intro oracle world sound
  by_cases alive : world.state.containerState = .ready ∨ world.state.containerState = .suspended
  · obtain ⟨middle, steady, allowed, stays, ending⟩ :=
      shutdown_reaches_destroy alive timeout oracle world.history
    have isAlive : middle.container.Alive := by
      rw [Container.Alive, stays.container]
      exact .inr (alive.imp sound.coherent.ready sound.coherent.suspended)
    obtain ⟨⟨destroyed, isDestroyed, left⟩, recorded, grown, _⟩ :=
      Container.triple_destroy timeout oracle ⟨middle.container, world.history ++ steady⟩
        isAlive
    rw [ending destroyed isDestroyed]
    refine ⟨⟨?_, fun _ => stays.gateways trivial⟩, ⟨steady ++ recorded, ?_, fun _ _ => trivial⟩,
      fun error thrown _ => ?_⟩
    · cases destroyed with
      | true => exact ⟨nofun, nofun, fun _ => left, nofun⟩
      | false => exact ⟨nofun, nofun, nofun, fun _ => left⟩
    · dsimp only
      rw [grown, List.append_assoc]
    · cases destroyed <;> cases thrown
      rfl
  · by_cases invalid : world.state.containerState = .invalid
    · exact fair_of_refused sound
        (run_bind_error (run_assertValidState_of_invalid invalid)) rfl
    · have refused : (shutdown timeout).run oracle world = (.error (.invalidOperationError
          ("Invalid to shut down container which is not ready or suspended " ++
            world.state.id)), world) := by
        rw [shutdown, run_bind_ok (run_assertValidState invalid oracle world.history),
          run_get_bind]
        dsimp only
        rw [if_pos (not_or.mp alive), run_throw]
      exact fair_of_refused sound refused rfl

theorem silent_destructor : Container.Silent destructor := by
  have destroyed : Keeps (fun _ : AnyGateway × Container => True) AnyEvent (fun _ => False)
      destroyGateway := by
    have kept : Container.Silent AnyGateway.destructor := fun oracle world _ =>
      let ⟨_, ⟨recorded, grown, _⟩, never⟩ :=
        AnyGateway.keeps_destructor world.state.2.state oracle world rfl
      ⟨trivial, ⟨recorded, grown, fun _ _ => trivial⟩, never⟩
    exact keeps_bind kept fun _ => keeps_pure _
  have swept : Keeps (fun _ : List AnyGateway × Container => True) AnyEvent (fun _ => False)
      (sweep destroyGateway) := by
    have each : Keeps (fun whole : AnyGateway × Container => True ∧ True) AnyEvent
        (fun _ => False) destroyGateway :=
      fun oracle world _ => ⟨⟨trivial, trivial⟩, (destroyed oracle world trivial).2⟩
    intro oracle world _
    obtain ⟨_, recorded, never⟩ := @keeps_sweep _ _ _ _ _ (fun _ : AnyGateway => True)
      (fun _ : Container => True) _ _ _ each oracle world ⟨fun _ _ => trivial, trivial⟩
    exact ⟨trivial, recorded, never⟩
  refine keeps_bind (keeps_zoom (fun _ _ => trivial) (fun _ _ _ _ => trivial) swept) fun _ => ?_
  exact keeps_zoom (fun _ _ => trivial) (fun _ _ _ _ => trivial) Container.silent_destructor

theorem construct_sound {containerID : Int} {config : SoftwareContainerConfig} {σ : Type}
    {oracle : Oracle Sys} {world after : World Sys σ} {container : LibraryContainer}
    (netmask : ok → config.bridgeNetmaskBitLength % 256 ≤ 31)
    (constructed : (construct containerID config).run oracle world = (.ok container, after)) :
    Sound ok container := by
  obtain ⟨ready, started, _, gateways, _⟩ := construct_ready constructed
  refine ⟨⟨fun _ => started, fun same => ?_, fun same => ?_, fun same => ?_⟩,
    fun fine gateway member => ?_⟩
  · cases ready.symm.trans same
  · cases ready.symm.trans same
  · cases ready.symm.trans same
  · rw [gateways] at member
    simp only [createGateways, List.mem_cons, List.not_mem_nil, or_false] at member
    rcases member with rfl | rfl | rfl | rfl | rfl | rfl | rfl | rfl
    · exact FileGateway.valid_new
    · exact ⟨rfl, by have := netmask fine; simp [NetworkGateway.new]; omega⟩
    · rfl
    · rfl
    · exact DBusGateway.valid_new _ _
    · exact ⟨rfl, CGroupsParser.comparable_empty⟩
    · rfl
    · rfl

theorem silent_start : Container.Silent start := by
  have started : Container.Silent Container.start := by
    refine keeps_get_bind fun _ _ => keeps_ite (fun _ => keeps_pure _) fun _ => ?_
    refine keeps_bind (Container.silent_lxc _) fun _ => keeps_ite (fun _ => keeps_pure _)
      fun _ => keeps_bind (Container.silent_lxc _) fun _ => ?_
    exact keeps_bind (Container.silent_setState _) fun _ =>
      Container.silent_of_quiet Container.quiet_ensureContainerRunning
  refine keeps_bind (Container.steady_initializeContainer.weaken (fun _ _ => trivial)
    fun _ never => never) fun _ => keeps_ite (fun _ => keeps_pure _) fun _ => ?_
  exact keeps_bind (Container.steady_create.weaken (fun _ _ => trivial) fun _ never => never)
    fun _ => keeps_ite (fun _ => keeps_pure _) fun _ => started

theorem keeps_init (containerID : Int) :
    Keeps (fun _ => True) AnyEvent Caught (init containerID) := by
  refine keeps_bind (silent_start.weaken (fun _ _ => trivial) fun _ never => never.elim)
    fun _ => keeps_ite (fun _ => ?_) fun _ => keeps_pure _
  exact keeps_bind (Container.silent_destructor.weaken (fun _ _ => trivial)
    fun _ never => never.elim) fun _ => keeps_throw rfl

end SoftwareContainer

end SoftwareContainers
