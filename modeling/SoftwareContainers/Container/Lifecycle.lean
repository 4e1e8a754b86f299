import SoftwareContainers.Container.Steady
import SoftwareContainers.Effect.Triple

namespace SoftwareContainers

open Effect Effect.Act

/-! The steps of the life of a container: from which state each may be asked of LXC,
and where it leaves the container. -/

/-- The calls that move the state machine of LXC are made from the right states. -/
def Safe (event : Event Sys) : Prop :=
  match event.call with
  | .lxc _ state .freeze => state = .started
  | .lxc _ state .unfreeze => state = .frozen
  | .lxc _ state (.shutdown _) | .lxc _ state .stop => state = .started ∨ state = .frozen
  | .lxc _ state .destroy => state = .created
  | _ => True

def IsDestroy (event : Event Sys) : Prop :=
  ∃ id state, event.call = .lxc id state .destroy

def Destroyed (event : Event Sys) : Prop :=
  ∃ id state, event = ⟨.lxc id state .destroy, true⟩

theorem Steady.safe {event : Event Sys} (steady : Steady event) : Safe event := by
  unfold Safe
  split <;> first | trivial | (rename_i same; simp [Steady, same, SysCall.isLifecycle,
    LxcCall.isLifecycle] at steady)

theorem Steady.not_isDestroy {event : Event Sys} (steady : Steady event) :
    ¬ IsDestroy event := by
  rintro ⟨id, state, same⟩
  simp [Steady, same, SysCall.isLifecycle, LxcCall.isLifecycle] at steady

theorem Destroyed.isDestroy {event : Event Sys} (destroyed : Destroyed event) :
    IsDestroy event := by
  obtain ⟨id, state, rfl⟩ := destroyed
  exact ⟨id, state, rfl⟩

namespace Container

def BeforeDestroy (event : Event Sys) : Prop := Safe event ∧ ¬ IsDestroy event

theorem beforeDestroy_of_steady {event : Event Sys} (steady : Steady event) :
    BeforeDestroy event :=
  ⟨steady.safe, steady.not_isDestroy⟩

variable {may : Fault → Prop}

/-! The start. -/

theorem steady_toolkit {inv : Container → Prop} {α : Type} {act : Toolkit α}
    (free : ∀ self handlers, inv self → inv { self with cleanupHandlers := handlers })
    (quiet : Toolkit.Quiet may act) : Keeps inv Steady may (toolkit act) :=
  keeps_zoom (fun _ _ => trivial) (fun self handlers holds _ => free self handlers holds)
    quiet

theorem steady_initializeContainer :
    Keeps (fun _ => True) Steady may initializeContainer := by
  refine keeps_get_bind fun self _ => keeps_ite (fun _ => ?_) fun _ => keeps_pure _
  refine keeps_bind (steady_sys rfl) fun _ => keeps_ite (fun _ => keeps_pure _) fun _ => ?_
  refine keeps_bind (steady_toolkit (fun _ _ _ => trivial)
    (Toolkit.quiet_createSharedMountPoint _)) fun _ =>
    keeps_ite (fun _ => keeps_pure _) fun _ => ?_
  exact keeps_bind (keeps_modify fun _ _ => trivial) fun _ => keeps_pure _

theorem steady_rollbackCreate : Keeps (fun _ => True) Steady may rollbackCreate := by
  refine keeps_get_bind fun self _ => keeps_ite (fun _ => ?_) fun _ => keeps_pure _
  exact keeps_bind (steady_lxc rfl) fun _ =>
    keeps_bind (keeps_modify fun _ _ => trivial) fun _ => keeps_pure _

theorem steady_mountRootFS : Keeps (fun _ => True) Steady may mountRootFS := by
  refine keeps_bind (steady_sys rfl) fun _ => keeps_bind (keeps_modify fun _ _ => trivial)
    fun _ => keeps_get_bind fun self _ => keeps_ite (fun _ => ?_) fun _ => keeps_pure _
  exact keeps_bind (steady_toolkit (fun _ _ _ => trivial) (Toolkit.quiet_overlayMount _ _ _ _))
    fun _ => keeps_pure _

theorem steady_create : Keeps (fun _ => True) Steady may create := by
  refine keeps_get_bind fun self _ => keeps_ite (fun _ => keeps_pure _) fun _ =>
    keeps_ite (fun _ => keeps_pure _) fun _ => ?_
  refine keeps_bind (steady_sys rfl) fun _ => keeps_bind (steady_lxc rfl) fun _ =>
    keeps_ite (fun _ => steady_rollbackCreate) fun _ => ?_
  refine keeps_bind (keeps_modify fun _ _ => trivial) fun _ =>
    keeps_bind (steady_lxc rfl) fun _ => keeps_ite (fun _ => steady_rollbackCreate) fun _ => ?_
  refine keeps_bind (steady_lxc rfl) fun _ => keeps_ite (fun _ => steady_rollbackCreate)
    fun _ => keeps_bind steady_mountRootFS fun _ => ?_
  refine keeps_bind (steady_lxc rfl) fun _ => keeps_ite (fun _ => ?_) fun _ => ?_
  · exact keeps_bind (keeps_modify fun _ _ => trivial) fun _ => steady_rollbackCreate
  · exact keeps_bind (keeps_modify fun _ _ => trivial) fun _ => keeps_pure _

theorem triple_start :
    Triple (fun _ => True) Steady
      (fun result self => result = .ok true → self.state = .started) start := by
  refine triple_get_bind fun self _ => triple_ite (fun _ => triple_pure nofun) fun _ => ?_
  refine triple_bind_keeps (steady_lxc rfl) fun started =>
    triple_ite (fun _ => triple_pure nofun) fun _ => ?_
  refine triple_bind_keeps (steady_lxc rfl) fun _ => ?_
  have started : Triple (fun same => same = self) Steady
      (fun result after => result = .ok ⟨⟩ ∧ after.state = .started)
      (setState .started) :=
    triple_modify fun _ _ => ⟨rfl, rfl⟩
  refine triple_bind started (fun _ => ?_) fun _ _ holds => nomatch holds.1
  have running : Quiet (fun _ => True) ensureContainerRunning :=
    quiet_ensureContainerRunning
  exact (running .started).triple.weaken (fun _ holds => holds.2) fun _ _ holds _ => holds.1

theorem Quiet.beforeDestroy {α : Type} {method : Method α} (quiet : Quiet may method)
    (state : ContainerState) :
    Keeps (fun self => self.state = state) BeforeDestroy may method :=
  (quiet state).weaken (fun _ => beforeDestroy_of_steady) fun _ holds => holds

theorem keeps_lxc_of_state {allowed : Event Sys → Prop} {state : ContainerState}
    {call : LxcCall} (permitted : ∀ id answer, allowed ⟨.lxc id state call, answer⟩) :
    Keeps (fun self => self.state = state) allowed may (lxc call) :=
  keeps_get_bind fun self same => keeps_ask fun answer => by
    subst same
    exact permitted self.id answer

theorem quiet_killInit : Quiet may killInit := by
  intro state
  refine keeps_bind (steady_lxc rfl) fun pid => keeps_ite (fun _ => ?_) fun _ => keeps_pure _
  exact keeps_bind (steady_lxc rfl) fun pid => steady_sys rfl

section

variable {state : ContainerState} (alive : state = .started ∨ state = .frozen)

include alive

theorem keeps_stop : Keeps (fun self => self.state = state) BeforeDestroy may stop := by
  refine keeps_get_bind fun self _ => keeps_ite (fun _ => ?_) fun _ => keeps_pure _
  refine keeps_bind (keeps_lxc_of_state fun id answer => ⟨alive, ?_⟩) fun stopped =>
    keeps_ite (fun _ => ?_) fun _ => keeps_pure _
  · rintro ⟨_, _, same⟩
    cases same
  · exact keeps_bind ((quiet_waitForState _ _).beforeDestroy state) fun _ => keeps_pure _

theorem triple_shutdown (timeout : Int) :
    Triple (fun self => self.state = state) BeforeDestroy
      (fun result self => (result = .ok true ∧ self.state = .created) ∨
        (result = .ok false ∧ self.state = state)) (shutdown timeout) := by
  refine triple_get_bind fun self same => triple_ite (fun low => ?_) fun _ => ?_
  · rcases alive with isStarted | isFrozen
    · simp [same, isStarted, ContainerState.value] at low
    · simp [same, isFrozen, ContainerState.value] at low
  · refine Triple.weaken ?_ (fun _ isSelf => isSelf ▸ same) fun _ _ holds => holds
    refine triple_bind_keeps (quiet_killInit.beforeDestroy state) fun _ => ?_
    refine triple_bind_keeps (keeps_lxc_of_state fun id answer => ⟨alive, ?_⟩)
      fun success => ?_
    · rintro ⟨_, _, same⟩
      cases same
    · refine triple_bind_keeps (keeps_ite (fun _ => keeps_pure _)
        fun _ => keeps_stop alive) fun stopped => triple_ite (fun _ => ?_) fun _ => ?_
      · exact triple_pure fun _ unchanged => .inr ⟨rfl, unchanged⟩
      · have created : Triple (fun self : Container => self.state = state) BeforeDestroy
            (fun result after => result = .ok ⟨⟩ ∧ after.state = .created)
            (setState .created) :=
          triple_modify fun _ _ => ⟨rfl, rfl⟩
        exact triple_bind created
          (fun _ => triple_pure fun _ holds => .inl ⟨rfl, holds.2⟩)
          fun _ _ holds => nomatch holds.1

end

theorem run_lxc (call : LxcCall) (self : Container) (oracle : Oracle Sys)
    (history : History Sys) :
    (lxc call).run oracle ⟨self, history⟩ =
      (.ok (oracle history (.lxc self.id self.state call)),
        ⟨self, history ++ [⟨.lxc self.id self.state call,
          oracle history (.lxc self.id self.state call)⟩]⟩) :=
  rfl

inductive Destruction (history : History Sys) :
    Except Fault Bool → World Sys Container → Prop
  | notReached : (∀ event ∈ before, BeforeDestroy event) →
      after.history = history ++ before → Destruction history (.ok false) after
  | reached (id : String) (answer : Bool) : (∀ event ∈ before, BeforeDestroy event) →
      after.history = history ++ (before ++ [⟨.lxc id .created .destroy, answer⟩]) →
      after.state.state = (if answer then .destroyed else .created) →
      Destruction history (.ok answer) after

theorem triple_stopped {state : ContainerState}
    (alive : state = .created ∨ state = .started ∨ state = .frozen) (timeout : Int) :
    Triple (fun self => self.state = state) BeforeDestroy
      (fun result self => (result = .ok true ∧ self.state = .created) ∨ result = .ok false)
      (if state.value ≥ ContainerState.started.value then shutdown timeout
        else pure true) := by
  refine triple_ite (fun high => ?_) fun low => ?_
  · have running : state = .started ∨ state = .frozen := by
      rcases alive with rfl | running
      · exact absurd high (by decide)
      · exact running
    exact (triple_shutdown running timeout).weaken (fun _ holds => holds)
      fun _ _ holds => holds.imp (fun done => done) And.left
  · have created : state = .created := by
      rcases alive with created | rfl | rfl
      · exact created
      · exact absurd (by decide) low
      · exact absurd (by decide) low
    exact triple_pure fun _ same => .inl ⟨rfl, same.trans created⟩

theorem quiet_unmountRootFS : Quiet may unmountRootFS :=
  fun _ => keeps_get_bind fun _ _ => keeps_ite (fun _ => steady_sys rfl) fun _ => keeps_pure _

theorem destruction_destroy {self : Container}
    (alive : self.state = .created ∨ self.state = .started ∨ self.state = .frozen)
    (timeout : Int) (oracle : Oracle Sys) (history : History Sys) :
    Destruction history ((destroy timeout).run oracle ⟨self, history⟩).1
      ((destroy timeout).run oracle ⟨self, history⟩).2 := by
  have low : ¬ self.state.value < ContainerState.created.value := by
    rcases alive with same | same | same <;> rw [same] <;> decide
  rw [destroy, run_get_bind]
  dsimp only
  rw [if_neg low, run_bind]
  obtain ⟨stopped, early, grownEarly, allowedEarly⟩ :=
    triple_stopped alive timeout oracle ⟨self, history⟩ rfl
  cases stoppedEnded : (if self.state.value ≥ ContainerState.started.value then
      shutdown timeout else pure true : Method Bool).run oracle ⟨self, history⟩ with
  | mk result middle =>
      rw [stoppedEnded] at stopped grownEarly
      rcases stopped with ⟨rfl, created⟩ | rfl
      · have quiet : Quiet (fun _ => False) unmountRootFS := quiet_unmountRootFS
        obtain ⟨stillCreated, ⟨late, grownLate, allowedLate⟩, never⟩ :=
          quiet .created oracle middle created
        dsimp only
        rw [if_neg (by decide), run_bind]
        cases unmountEnded : unmountRootFS.run oracle middle with
        | mk result after =>
            rw [unmountEnded] at stillCreated grownLate never
            have before : ∀ event ∈ early ++ late, BeforeDestroy event :=
              fun event member => (List.mem_append.mp member).elim
                (allowedEarly event)
                fun inLate => beforeDestroy_of_steady (allowedLate event inLate)
            have grown : after.history = history ++ (early ++ late) := by
              rw [grownLate, grownEarly, List.append_assoc]
            match result with
            | .error error => exact (never error rfl).elim
            | .ok false => exact .notReached before grown
            | .ok true =>
                obtain ⟨last, history'⟩ := after
                dsimp only at stillCreated grown
                dsimp only
                rw [if_neg (by decide), run_bind_ok (run_lxc .destroy last oracle history'),
                  stillCreated]
                generalize (oracle history' (.lxc last.id .created .destroy) : Bool) =
                  destroyed
                cases destroyed with
                | true =>
                    refine .reached last.id true before ?_ rfl
                    rw [← List.append_assoc, ← grown]
                    rfl
                | false =>
                    refine .reached last.id false before ?_ stillCreated
                    rw [← List.append_assoc, ← grown]
                    rfl
      · exact .notReached allowedEarly grownEarly

section

variable {self : Container} (oracle : Oracle Sys) (history : History Sys)

theorem run_suspend_of_started (started : self.state = .started) :
    suspend.run oracle ⟨self, history⟩ =
      let frozen : Bool := oracle history (.lxc self.id self.state .freeze)
      (if frozen then .ok true
        else .error (.softwareContainerError "Could not suspend the container."),
        ⟨if frozen then { self with state := .frozen } else self,
          history ++ [⟨.lxc self.id self.state .freeze, frozen⟩]⟩) := by
  rw [suspend, run_get_bind]
  dsimp only
  rw [if_neg (by rw [started]; decide), if_neg (by rw [started]; decide),
    run_bind_ok (run_lxc .freeze self oracle history)]
  generalize (oracle history (.lxc self.id self.state .freeze) : Bool) = frozen
  cases frozen with
  | true =>
      simp only [Bool.not_true, Bool.false_eq_true, if_false, setState, run_modify_bind,
        run_pure, if_true]
  | false => simp only [Bool.not_false, if_true, run_throw, Bool.false_eq_true, if_false]

theorem run_resume_of_frozen (isFrozen : self.state = .frozen) :
    resume.run oracle ⟨self, history⟩ =
      let thawed : Bool := oracle history (.lxc self.id self.state .unfreeze)
      (if thawed then .ok true
        else .error (.softwareContainerError "Could not resume the container."),
        ⟨if thawed then { self with state := .started } else self,
          history ++ [⟨.lxc self.id self.state .unfreeze, thawed⟩]⟩) := by
  rw [resume, run_get_bind]
  dsimp only
  rw [if_neg (by rw [isFrozen]; decide), run_bind_ok (run_lxc .unfreeze self oracle history)]
  generalize (oracle history (.lxc self.id self.state .unfreeze) : Bool) = thawed
  cases thawed with
  | true =>
      simp only [Bool.not_true, Bool.false_eq_true, if_false, setState, run_modify_bind,
        run_pure, if_true]
  | false => simp only [Bool.not_false, if_true, run_throw, Bool.false_eq_true, if_false]

end

end Container

end SoftwareContainers
