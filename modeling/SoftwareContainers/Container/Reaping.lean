import SoftwareContainers.Base.Processes
import SoftwareContainers.Container.BindMounts

namespace SoftwareContainers

open Effect Effect.Act Processes

/-! The children of the agent: which of them the jobs wait for. -/

def processEvent (event : Event Sys) : Option (ProcessEvent WaitStatus) :=
  match event with
  | ⟨.lxc _ _ (.attach ..), attached⟩ => attached.map .started
  | ⟨.spawnAsyncWithPipes .., spawned⟩ => spawned.map fun process => .started process.1
  | ⟨.waitpid pid, answer⟩ => some (.waited pid answer)
  | _ => none

abbrev processEvents (history : History Sys) : List (ProcessEvent WaitStatus) :=
  traceOf processEvent history

namespace Container

abbrev Childless (event : Event Sys) : Prop := processEvent event = none

theorem traces_lxc_attach {inv : Container → Prop} (function : Job) (strings : List String)
    (stdin stdout stderr : Int) :
    Traces inv processEvent
      (fun result events => ∃ attached, result = .ok attached ∧
        events = (attached.map ProcessEvent.started).toList)
      (lxc (.attach function strings stdin stdout stderr)) :=
  traces_get_bind fun self _ => @traces_ask Sys _ _ _ _ _
    (.lxc self.id self.state (.attach function strings stdin stdout stderr)) _
    fun attached => ⟨attached, rfl, rfl⟩

/-- What `execute` leaves in the variable of the process id, and whether a child was
started. -/
abbrev Executed (pid : Int) (result : Except Fault (Bool × Int))
    (events : List (ProcessEvent WaitStatus)) : Prop :=
  (∃ attached, result = .ok (true, attached) ∧ events = [.started attached]) ∨
    (result = .ok (false, pid) ∧ events = [])

theorem keeps_ensureRunning_childless {inv : Container → Prop} :
    Keeps inv Childless (fun _ => False) ensureContainerRunning := by
  have calls : ∀ call : LxcCall, (∀ answer : call.Answer, ∀ id state,
      processEvent ⟨.lxc id state call, answer⟩ = none) →
      Keeps inv Childless (fun _ => False) (lxc call) := fun call silent =>
    keeps_get_bind fun self _ => keeps_ask fun answer => silent answer _ _
  refine keeps_get_bind fun self _ => keeps_ite (fun _ => keeps_pure _) fun _ =>
    keeps_ite (fun _ => keeps_pure _) fun _ => ?_
  refine keeps_bind (calls .isRunning fun _ _ _ => rfl) fun running =>
    keeps_ite (fun _ => ?_) fun _ => keeps_pure _
  refine keeps_bind (calls .state fun _ _ _ => rfl) fun currentState =>
    keeps_ite (fun _ => ?_) fun _ => keeps_pure _
  exact keeps_bind (calls (.wait _ _) fun _ _ _ => rfl) fun _ => keeps_pure _

theorem traces_execute {inv : Container → Prop} (function : Job) (pid : Int)
    (environment : EnvironmentVariables) (stdin stdout stderr : Int) :
    Traces inv processEvent (Executed pid)
      (execute function pid environment stdin stdout stderr) := by
  refine traces_bind_quiet keeps_ensureRunning_childless fun running =>
    traces_ite (fun _ => traces_pure (.inr ⟨rfl, rfl⟩)) fun _ => ?_
  refine traces_get_bind fun self _ => ?_
  refine @traces_bind_then_silent Sys Fault Container (Option Int) _ _ inv processEvent _
    (fun attached result => result = .ok (attached.isSome, attached.getD pid)) _ _ _
    (traces_lxc_attach _ _ _ _ _)
    (fun attached => by cases attached <;> exact traces_pure ⟨rfl, rfl⟩)
    (fun attached result events first second => ?_) fun error events thrown => ?_
  · obtain ⟨_, same, rfl⟩ := first
    cases same
    cases attached with
    | some attached => exact .inl ⟨attached, second, rfl⟩
    | none => exact .inr ⟨second, rfl⟩
  · obtain ⟨_, same, _⟩ := thrown
    cases same

abbrev WaitedFor (pid : Int) (events : List (ProcessEvent WaitStatus)) : Prop :=
  (∃ attached answer, events = [.started attached, .waited attached answer]) ∨
    ∃ answer, events = [.waited pid answer]

theorem Job.Asks.childless {job : Job} {event : Event Sys} (asked : job.Asks event) :
    Childless event := by
  obtain ⟨call, _, isCall⟩ := asked
  obtain ⟨sysCall, answer⟩ := event
  cases isCall
  rfl

theorem traces_waitpid {σ : Type} {inv : σ → Prop} (pid : Int) :
    Traces inv processEvent
      (fun (result : Except Fault (Option WaitStatus)) events =>
        ∃ answer, result = .ok answer ∧ events = [.waited pid answer])
      (sys (.waitpid pid)) :=
  @traces_ask Sys _ _ _ _ _ (.waitpid pid) _ fun answer => ⟨answer, rfl, rfl⟩

theorem traces_executeSync {inv : Container → Prop} (function : Job) (pid : Int) :
    Traces inv processEvent (fun _ events => WaitedFor pid events) (executeSync function pid) := by
  have process : ∀ started : Bool, Keeps inv Childless (fun _ => False)
      (if started then some <$> Child.run function else pure none :
        Method (Option WaitStatus)) := fun started =>
    keeps_ite (fun _ => keeps_map (Child.keeps_run (fun _ => rfl) (fun _ _ => rfl)
      fun _ asked => Job.Asks.childless asked)) fun _ => keeps_pure _
  have waits : ∀ (started : Bool) (asked : Int), Traces inv processEvent
      (fun _ events => ∃ answer, events = [.waited asked answer]) (do
        let fate ← (if started then some <$> Child.run function else pure none)
        let waited ← sys (.waitpid asked)
        return { started, pid := asked, fate, waited } : Method FunctionRun) := by
    intro started asked
    refine traces_bind_quiet (process started) fun fate => ?_
    exact traces_bind_then_any (traces_waitpid asked) (fun _ => traces_pure rfl)
      fun _ _ _ ⟨answer, _, same⟩ => ⟨answer, same⟩
  have ran : ∀ stdin stdout stderr, Traces inv processEvent (fun _ events => WaitedFor pid events)
      (runFunction function pid stdin stdout stderr) := by
    intro stdin stdout stderr
    refine traces_bind (traces_execute _ _ _ _ _ _) (fun ended => waits ended.1 ended.2)
      (fun ended result early late first second => ?_) fun error early thrown => ?_
    · obtain ⟨answer, rfl⟩ := second
      rcases first with ⟨attached, same, rfl⟩ | ⟨same, rfl⟩
      · cases same
        exact .inl ⟨attached, answer, rfl⟩
      · cases same
        exact .inr ⟨answer, rfl⟩
    · rcases thrown with ⟨_, same, _⟩ | ⟨same, _⟩ <;> cases same
  exact traces_bind_then_any (ran _ _ _) (fun _ => traces_pure rfl) fun _ _ _ waited => waited

end Container

end SoftwareContainers
