import SoftwareContainers.Container.Container

namespace SoftwareContainers

open Effect Effect.Act

namespace Container

/-! What LXC says of the state of a container, and what the program makes of it. -/

section
variable (oracle : Oracle Sys) (world : World Sys Container)

/-- What LXC answers to a call made now. -/
def lxcAnswer (call : LxcCall) : call.Answer :=
  oracle world.history (.lxc world.state.id world.state.state call)

def afterLxc (call : LxcCall) : World Sys Container where
  state := world.state
  history := world.history ++
    [⟨.lxc world.state.id world.state.state call, lxcAnswer oracle world call⟩]

theorem run_lxc_bind {α : Type} (call : LxcCall) (next : call.Answer → Method α) :
    (lxc call >>= next).run oracle world =
      (next (lxcAnswer oracle world call)).run oracle (afterLxc oracle world call) := rfl

/-- LXC reports the container to be in the state, or that waiting reached it. -/
def Reaches (state : String) (timeout : Int) : Prop :=
  lxcAnswer oracle world .state = state ∨
    lxcAnswer oracle (afterLxc oracle world .state) (.wait state timeout) = true

/-- The container was started, and LXC reports that it runs or reaches that. -/
def Runs : Prop :=
  world.state.state = .started ∧
    (lxcAnswer oracle world .isRunning = true ∨
      Reaches oracle (afterLxc oracle world .isRunning) "RUNNING" 20)

/-- `wait` is not needed to say whether the container runs. -/
def IsSettled : Prop :=
  world.state.state = .started → lxcAnswer oracle world .isRunning = false →
    lxcAnswer oracle (afterLxc oracle world .isRunning) .state = "RUNNING"

def ensured : Bool :=
  match world.state.state with
  | .started =>
      lxcAnswer oracle world .isRunning ||
        decide (lxcAnswer oracle (afterLxc oracle world .isRunning) .state = "RUNNING") ||
        !lxcAnswer oracle (afterLxc oracle (afterLxc oracle world .isRunning) .state)
          (.wait "RUNNING" 20)
  | _ => false

def afterEnsured : World Sys Container :=
  (ensureContainerRunning.run oracle world).2

end

section
variable {oracle : Oracle Sys} {world : World Sys Container}

theorem run_waitForState (state : String) (timeout : Int) :
    ((waitForState state timeout).run oracle world).1 =
      .ok (decide (lxcAnswer oracle world .state = state) ||
        !lxcAnswer oracle (afterLxc oracle world .state) (.wait state timeout)) := by
  rw [waitForState, run_lxc_bind]
  by_cases already : lxcAnswer oracle world .state = state
  · rw [if_neg (not_not_intro already), decide_eq_true already]
    rfl
  · rw [if_pos already, decide_eq_false already, run_lxc_bind]
    rfl

theorem run_ensureContainerRunning :
    (ensureContainerRunning.run oracle world).1 = .ok (ensured oracle world) := by
  rw [ensureContainerRunning, run_get_bind, ensured]
  cases state : world.state.state with
  | started =>
      rw [if_neg (by decide), if_neg (by decide), run_lxc_bind]
      cases lxcAnswer oracle world .isRunning with
      | true => rfl
      | false =>
          rw [Bool.false_or]
          exact run_waitForState "RUNNING" 20
  | frozen => rfl
  | default | prepared | destroyed | created => rfl

/-- `waitForState` says what LXC reported. -/
def WaitsAsReported (oracle : Oracle Sys) (world : World Sys Container) (state : String)
    (timeout : Int) : Prop :=
  ((waitForState state timeout).run oracle world).1 = .ok true ↔
    Reaches oracle world state timeout

theorem waitsAsReported_iff (state : String) (timeout : Int) :
    WaitsAsReported oracle world state timeout ↔ lxcAnswer oracle world .state = state := by
  rw [WaitsAsReported, run_waitForState, Reaches]
  by_cases already : lxcAnswer oracle world .state = state
  · simp [already]
  · cases lxcAnswer oracle (afterLxc oracle world .state) (.wait state timeout) <;>
      simp [already]

theorem ensured_iff_runs_iff :
    (ensured oracle world = true ↔ Runs oracle world) ↔ IsSettled oracle world := by
  rw [Runs, IsSettled, ensured, Reaches]
  cases state : world.state.state with
  | started =>
      cases lxcAnswer oracle world .isRunning with
      | true => simp
      | false =>
          by_cases already :
              lxcAnswer oracle (afterLxc oracle world .isRunning) .state = "RUNNING"
          · simp [already]
          · cases lxcAnswer oracle (afterLxc oracle (afterLxc oracle world .isRunning) .state)
              (.wait "RUNNING" 20) <;> simp [already]
  | default | prepared | destroyed | created | frozen => simp

end

/-- The method asks first whether the container runs, and goes on only then. -/
def IsGuarded {α : Type} (method : Method α) (refusal : α) (proceeding : Method α) : Prop :=
  method = do
    if !(← ensureContainerRunning) then
      return refusal
    else
      proceeding

/-- The operations of a container that does not run, and what they return then. -/
inductive Operation : {α : Type} → Method α → α → Prop
  | execute (function : Job) (pid : Int) (environment : EnvironmentVariables)
      (stdin stdout stderr : Int) :
      Operation (execute function pid environment stdin stdout stderr) (false, pid)
  | executeCommand (shellParseArgv : String → Option (List String)) (commandLine : String)
      (pid : Int) (environment : EnvironmentVariables) (workingDirectory : String)
      (stdin stdout stderr : Int) :
      Operation (executeCommand shellParseArgv commandLine pid environment workingDirectory
        stdin stdout stderr) (false, pid)
  | bindMountCore (pathInHost pathInContainer tempDirInContainerOnHost : String)
      (readonly : Bool) :
      Operation (bindMountCore pathInHost pathInContainer tempDirInContainerOnHost readonly)
        false
  | mountDevice (pathInHost : String) : Operation (mountDevice pathInHost) false

theorem Operation.isGuarded {α : Type} {method : Method α} {refusal : α}
    (operation : Operation method refusal) :
    ∃ proceeding, IsGuarded method refusal proceeding := by
  cases operation with
  | execute => exact ⟨_, rfl⟩
  | executeCommand => exact ⟨_, rfl⟩
  | bindMountCore => exact ⟨_, rfl⟩
  | mountDevice => exact ⟨_, rfl⟩

section
variable {oracle : Oracle Sys} {world : World Sys Container}

theorem run_ensureContainerRunning_eq :
    ensureContainerRunning.run oracle world =
      (.ok (ensured oracle world), afterEnsured oracle world) :=
  Prod.ext run_ensureContainerRunning rfl

theorem IsGuarded.run_eq {α : Type} {method proceeding : Method α} {refusal : α}
    (guarded : IsGuarded method refusal proceeding) :
    method.run oracle world =
      if ensured oracle world then proceeding.run oracle (afterEnsured oracle world)
      else (.ok refusal, afterEnsured oracle world) := by
  rw [guarded, run_bind_ok run_ensureContainerRunning_eq]
  cases ensured oracle world <;> rfl

end

/-- `ensureContainerRunning` says whether the container runs, and what it guards goes on
exactly then. -/
structure GuardsAsReported (oracle : Oracle Sys) (world : World Sys Container) : Prop where
  ensures : (ensureContainerRunning.run oracle world).1 = .ok true ↔ Runs oracle world
  guards : ∀ {α : Type} {method : Method α} {refusal : α}, Operation method refusal →
    ∃ proceeding, IsGuarded method refusal proceeding ∧
      (Runs oracle world →
        method.run oracle world = proceeding.run oracle (afterEnsured oracle world)) ∧
      (¬ Runs oracle world →
        method.run oracle world = (.ok refusal, afterEnsured oracle world))

theorem guardsAsReported_iff {oracle : Oracle Sys} {world : World Sys Container} :
    GuardsAsReported oracle world ↔ IsSettled oracle world := by
  rw [← ensured_iff_runs_iff]
  constructor
  · intro reported
    rw [← reported.ensures, run_ensureContainerRunning, Except.ok.injEq]
  · intro ensures
    refine ⟨by rw [run_ensureContainerRunning, Except.ok.injEq, ensures], ?_⟩
    intro α method refusal operation
    obtain ⟨proceeding, guarded⟩ := operation.isGuarded
    refine ⟨proceeding, guarded, ?_, ?_⟩
    · intro runs
      rw [guarded.run_eq, if_pos (ensures.mpr runs)]
    · intro stopped
      rw [guarded.run_eq, if_neg (mt ensures.mp stopped)]

section
variable (oracle : Oracle Sys) (world : World Sys Container)

/-- `start` comes as far as to ask whether the container runs. -/
def IsStarted : Prop :=
  ContainerState.created.value ≤ world.state.state.value ∧
    lxcAnswer oracle world (.start ["env", "/bin/sleep", "100000000"]) = true

def startedWorld : World Sys Container :=
  let asked := afterLxc oracle (afterLxc oracle world
    (.start ["env", "/bin/sleep", "100000000"])) .initPid
  { asked with state := { asked.state with state := .started } }

/-- `start` succeeds for a container that LXC starts and then reports to run. -/
def StartsAsReported : Prop :=
  (start.run oracle world).1 = .ok true ↔
    IsStarted oracle world ∧ Runs oracle (startedWorld oracle world)

end

section
variable {oracle : Oracle Sys} {world : World Sys Container}

theorem run_start_of_isStarted (started : IsStarted oracle world) :
    (start.run oracle world).1 = .ok (ensured oracle (startedWorld oracle world)) := by
  have asked : (ensureContainerRunning.run oracle (startedWorld oracle world)).1 =
      .ok (ensured oracle (startedWorld oracle world)) := run_ensureContainerRunning
  rw [start, run_get_bind, if_neg (Nat.not_lt.mpr started.1), run_lxc_bind, started.2]
  exact asked

theorem run_start_of_not_isStarted (refused : ¬ IsStarted oracle world) :
    (start.run oracle world).1 = .ok false := by
  rw [start, run_get_bind]
  by_cases created : world.state.state.value < ContainerState.created.value
  · rw [if_pos created]
    rfl
  · have failed : lxcAnswer oracle world (.start ["env", "/bin/sleep", "100000000"]) = false := by
      rw [← Bool.not_eq_true]
      exact fun started => refused ⟨Nat.not_lt.mp created, started⟩
    rw [if_neg created, run_lxc_bind, failed]
    rfl

theorem startsAsReported_iff :
    StartsAsReported oracle world ↔
      (IsStarted oracle world → IsSettled oracle (startedWorld oracle world)) := by
  rw [StartsAsReported, ← ensured_iff_runs_iff]
  by_cases started : IsStarted oracle world
  · rw [run_start_of_isStarted started, Except.ok.injEq]
    simp only [started, true_and, true_implies]
  · rw [run_start_of_not_isStarted started]
    simp only [started, false_and, false_implies, iff_true, iff_false]
    intro same
    cases same

end

/-- What LXC reported is told exactly where its `wait` is not needed: for a container that
is in the state already, or that need not be waited for to know whether it runs. -/
theorem reports_lxc_iff (oracle : Oracle Sys) (world : World Sys Container) (state : String)
    (timeout : Int) :
    (WaitsAsReported oracle world state timeout ↔ lxcAnswer oracle world .state = state) ∧
      (GuardsAsReported oracle world ↔ IsSettled oracle world) ∧
      (StartsAsReported oracle world ↔
        (IsStarted oracle world → IsSettled oracle (startedWorld oracle world))) :=
  ⟨waitsAsReported_iff state timeout, guardsAsReported_iff, startsAsReported_iff⟩

def slow : Oracle Sys
  | _, .lxc _ _ .isRunning => false
  | _, .lxc _ _ .state => "STARTING"
  | _, .lxc _ _ (.wait _ _) => true
  | history, call => fortunate history call

def startedContainer : Container :=
  { Container.new "c" "/conf" "/root" false 1 with state := .started }

theorem reached_is_expired :
    (¬ ∀ oracle world state timeout, WaitsAsReported oracle world state timeout) ∧
      ¬ ∀ oracle world, GuardsAsReported oracle world := by
  constructor
  · intro waits
    have already := waitsAsReported_iff "RUNNING" 20 |>.mp
      (waits slow ⟨startedContainer, []⟩ "RUNNING" 20)
    revert already
    decide
  · intro guards
    have settled := guardsAsReported_iff.mp (guards slow ⟨startedContainer, []⟩)
    have running := settled rfl rfl
    revert running
    decide

end Container

end SoftwareContainers
