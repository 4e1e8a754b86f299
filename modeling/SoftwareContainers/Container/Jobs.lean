import SoftwareContainers.Container.Steady

namespace SoftwareContainers

open Effect Effect.Act

/-! What a process in a container records, and how it ends. -/

def commandEvent (command : String) (outcome : Option SpawnOutcome) : Event Sys :=
  ⟨.child (.spawnCommandLine command), outcome⟩

def limitEvent (error : Option Int) : Event Sys := ⟨.child .unlimitCoreDump, error⟩

def exitEvent (code : Int) (answer : Option Unit) : Event Sys :=
  ⟨.child (.exit code), answer⟩

def FromHost (event : Event Sys) : Prop := ∀ call, event.call ≠ .child call

namespace IPTableEntry

def ruleCommands (entry : IPTableEntry) (rule : Rule) : List String :=
  if rule.protocols.length ≠ 0 then
    rule.protocols.map (entry.interpretRuleWithProtocol rule)
  else
    [entry.interpretRule rule]

def commands (entry : IPTableEntry) : List String :=
  entry.rules.flatMap entry.ruleCommands ++ [entry.interpretPolicy]

end IPTableEntry

namespace Child

/-- Running commands up to the first that cannot be spawned: the result, and what is
recorded. -/
inductive Inserts : List String → Except Killed Bool → History Sys → Prop
  | done : Inserts [] (.ok true) []
  | next (command : String) (status : Int) : Inserts rest result recorded →
      Inserts (command :: rest) result
        (commandEvent command (some (.spawned status)) :: recorded)
  | refused (command : String) (outcome : SpawnOutcome) :
      (∀ status, outcome ≠ .spawned status) →
      Inserts (command :: rest) (.ok false) [commandEvent command (some outcome)]
  | killed (command : String) :
      Inserts (command :: rest) (.error ⟨⟩) [commandEvent command none]

theorem Inserts.append {first second : List String} {early late : History Sys}
    {result : Except Killed Bool} (firstInserted : Inserts first (.ok true) early)
    (secondInserted : Inserts second result late) :
    Inserts (first ++ second) result (early ++ late) := by
  induction early generalizing first with
  | nil =>
      cases firstInserted
      exact secondInserted
  | cons event early ih =>
      cases firstInserted with
      | next command status rest => exact .next command status (ih rest)

theorem Inserts.append_of_not_true {first : List String} (second : List String)
    {result : Except Killed Bool} {recorded : History Sys}
    (inserted : Inserts first result recorded) (notTrue : result ≠ .ok true) :
    Inserts (first ++ second) result recorded := by
  induction inserted with
  | done => exact absurd rfl notTrue
  | next command status _ ih => exact .next command status (ih notTrue)
  | refused command outcome notSpawned => exact .refused command outcome notSpawned
  | killed command => exact .killed command

theorem Inserts.mem {commands : List String} {result : Except Killed Bool}
    {recorded : History Sys} (inserted : Inserts commands result recorded) :
    ∀ event ∈ recorded, ∃ command ∈ commands, ∃ outcome,
      event = commandEvent command outcome := by
  induction inserted with
  | done => simp
  | next command status _ ih =>
      intro event member
      rcases List.mem_cons.mp member with rfl | member
      · exact ⟨command, List.mem_cons_self, _, rfl⟩
      · obtain ⟨other, inRest, outcome, same⟩ := ih event member
        exact ⟨other, List.mem_cons_of_mem _ inRest, outcome, same⟩
  | refused command outcome _ =>
      intro event member
      cases List.mem_singleton.mp member
      exact ⟨command, List.mem_cons_self, _, rfl⟩
  | killed command =>
      intro event member
      cases List.mem_singleton.mp member
      exact ⟨command, List.mem_cons_self, _, rfl⟩

theorem Inserts.spawned {commands : List String} {recorded : History Sys}
    (inserted : Inserts commands (.ok true) recorded) :
    (∀ command ∈ commands, ∃ status,
      commandEvent command (some (.spawned status)) ∈ recorded) ∧
    ∀ event ∈ recorded, ∃ command status,
      event = commandEvent command (some (.spawned status)) := by
  generalize same : Except.ok true = result at inserted
  induction inserted with
  | done => simp
  | next command status _ ih =>
      obtain ⟨every, only⟩ := ih same
      constructor
      · intro other member
        rcases List.mem_cons.mp member with rfl | member
        · exact ⟨status, List.mem_cons_self⟩
        · obtain ⟨status, recorded⟩ := every other member
          exact ⟨status, List.mem_cons_of_mem _ recorded⟩
      · intro event member
        rcases List.mem_cons.mp member with rfl | member
        · exact ⟨command, status, rfl⟩
        · exact only event member
  | refused => cases same
  | killed => cases same

section

variable {σ : Type}

/-- The program runs the commands. -/
def Runs (act : Child σ Bool) (commands : List String) : Prop :=
  ∀ oracle world, ∃ recorded,
    (Act.run act oracle world).2 =
      { world with history := world.history ++ recorded } ∧
    Inserts commands (Act.run act oracle world).1 recorded

theorem runs_true : Runs (pure true : Child σ Bool) [] :=
  fun _ _ => ⟨[], by simp, .done⟩

theorem runs_insertCommand (command : String) :
    Runs (insertCommand command : Child σ Bool) [command] := by
  intro oracle world
  refine ⟨[commandEvent command
    (oracle world.history (.child (.spawnCommandLine command)))], ?_⟩
  rw [insertCommand, step, run_bind, run_ask_bind]
  cases oracle world.history (.child (.spawnCommandLine command)) with
  | none => exact ⟨rfl, .killed command⟩
  | some outcome =>
      cases outcome with
      | spawned status => exact ⟨rfl, .next command status .done⟩
      | spawnError => exact ⟨rfl, .refused command _ nofun⟩
      | shellError => exact ⟨rfl, .refused command _ nofun⟩

theorem Runs.andThen {first second : Child σ Bool} {early late : List String}
    (firstRuns : Runs first early) (secondRuns : Runs second late) :
    Runs (do
      if !(← first) then
        return false
      else
        second) (early ++ late) := by
  intro oracle world
  obtain ⟨recorded, grown, inserted⟩ := firstRuns oracle world
  rw [run_bind]
  cases ended : Act.run first oracle world with
  | mk result middle =>
      rw [ended] at grown inserted
      match result with
      | .ok true =>
          obtain ⟨recordedLate, grownLate, insertedLate⟩ := secondRuns oracle middle
          refine ⟨recorded ++ recordedLate, ?_, inserted.append insertedLate⟩
          dsimp only at grown
          subst grown
          rw [← List.append_assoc]
          exact grownLate
      | .ok false => exact ⟨recorded, grown, inserted.append_of_not_true late nofun⟩
      | .error ⟨⟩ => exact ⟨recorded, grown, inserted.append_of_not_true late nofun⟩

theorem runs_insertProtocols (entry : IPTableEntry) (rule : IPTableEntry.Rule)
    (protocols : List String) :
    Runs (insertProtocols entry rule protocols : Child σ Bool)
      (protocols.map (entry.interpretRuleWithProtocol rule)) := by
  induction protocols with
  | nil => exact runs_true
  | cons proto rest ih =>
      rw [insertProtocols, List.map_cons]
      exact (runs_insertCommand (entry.interpretRuleWithProtocol rule proto)).andThen ih

theorem runs_insertRules (entry : IPTableEntry) (rules : List IPTableEntry.Rule) :
    Runs (insertRules entry rules : Child σ Bool)
      (rules.flatMap entry.ruleCommands) := by
  induction rules with
  | nil => exact runs_true
  | cons rule rest ih =>
      have ruleRuns : Runs (if rule.protocols.length ≠ 0 then
            insertProtocols entry rule rule.protocols
          else insertCommand (entry.interpretRule rule) : Child σ Bool)
          (entry.ruleCommands rule) := by
        rw [IPTableEntry.ruleCommands]
        split
        · exact runs_insertProtocols entry rule rule.protocols
        · exact runs_insertCommand (entry.interpretRule rule)
      rw [insertRules, List.flatMap_cons]
      exact ruleRuns.andThen ih

theorem runs_applyRules (entry : IPTableEntry) :
    Runs (applyRules entry : Child σ Bool) entry.commands := by
  rw [applyRules, IPTableEntry.commands]
  exact (runs_insertRules entry entry.rules).andThen
    ((runs_insertCommand entry.interpretPolicy).andThen runs_true)

end

/-! The whole process. -/

/-- A function ends this way and records this. -/
def FunctionEnds (job : Job) (result : Except Killed Int) (recorded : History Sys) :
    Prop :=
  ∃ (oracle : Oracle Sys) (world : World Sys Container),
    (Act.run (function job) oracle world).1 = result ∧
    (Act.run (function job) oracle world).2.history = world.history ++ recorded

/-- A process that calls `exit` may still be killed. -/
def exitResult (code : Int) (answer : Option Unit) : Except Killed Int :=
  if answer.isSome then .ok code else .error ⟨⟩

def waitStatus : Except Killed Int → WaitStatus
  | .ok code => .exited (code % 256).toNat
  | .error _ => .signaled

/-- The ways a process may end, and what it records. -/
inductive Process (job : Job) : WaitStatus → History Sys → Prop
  | unlimitKilled : Process job .signaled [limitEvent none]
  | limited (error : Int) (answer : Option Unit) : error ≠ 0 →
      Process job (waitStatus (exitResult error answer))
        [limitEvent (some error), exitEvent error answer]
  | killed : FunctionEnds job (.error ⟨⟩) recorded →
      Process job .signaled (limitEvent (some 0) :: recorded)
  | returned (code : Int) (answer : Option Unit) :
      FunctionEnds job (.ok code) recorded →
      Process job (waitStatus (exitResult code answer))
        (limitEvent (some 0) :: (recorded ++ [exitEvent code answer]))

theorem functionEnds (job : Job) (oracle : Oracle Sys) (world : World Sys Container) :
    ∃ result recorded, Act.run (function job) oracle world =
        (result, { world with history := world.history ++ recorded }) ∧
      FunctionEnds job result recorded := by
  have quiet : Quiet (· = world.state) (function job) := quiet_function job
  obtain ⟨same, ⟨recorded, grown, _⟩, _⟩ := quiet oracle world rfl
  refine ⟨_, recorded, ?_, oracle, world, rfl, grown⟩
  rw [← grown, ← same]

theorem run_exit (code : Int) (oracle : Oracle Sys) (world : World Sys Container) :
    ∃ answer, Act.run (do
        step (.exit code)
        return code : Child Container Int) oracle world =
      (exitResult code answer,
        { world with history := world.history ++ [exitEvent code answer] }) := by
  refine ⟨oracle world.history (.child (.exit code)), ?_⟩
  rw [step, run_bind, run_bind, run_ask]
  dsimp only
  cases answered : oracle world.history (.child (.exit code)) <;>
    rfl

theorem run_entryFunction (job : Job) (oracle : Oracle Sys)
    (world : World Sys Container) :
    ∃ result recorded, Act.run (entryFunction job) oracle world =
        (result, { world with history := world.history ++ recorded }) ∧
      Process job (waitStatus result) recorded := by
  rw [entryFunction, step, run_bind, run_ask_bind]
  cases oracle world.history (.child .unlimitCoreDump) with
  | none => exact ⟨_, [limitEvent none], rfl, .unlimitKilled⟩
  | some error =>
      dsimp only [run_pure]
      by_cases limited : error = 0
      · subst limited
        rw [if_neg (not_not_intro rfl)]
        obtain ⟨result, recorded, ended, functionEnded⟩ := functionEnds job oracle
          { world with history := world.history ++ [limitEvent (some 0)] }
        cases result with
        | error killed =>
            refine ⟨.error killed, limitEvent (some 0) :: recorded, ?_,
              .killed functionEnded⟩
            refine (run_bind_error ended).trans ?_
            rw [List.append_assoc, List.singleton_append]
        | ok code =>
            obtain ⟨answer, exited⟩ := run_exit code oracle
              { world with history := world.history ++ [limitEvent (some 0)] ++ recorded }
            refine ⟨_, limitEvent (some 0) :: (recorded ++ [exitEvent code answer]), ?_,
              .returned code answer functionEnded⟩
            refine (run_bind_ok ended).trans (exited.trans ?_)
            simp only [List.append_assoc, List.cons_append, List.nil_append]
      · rw [if_pos limited, run_pure_bind]
        obtain ⟨answer, exited⟩ := run_exit error oracle
          { world with history := world.history ++ [limitEvent (some error)] }
        refine ⟨_, [limitEvent (some error), exitEvent error answer], ?_,
          .limited error answer limited⟩
        refine exited.trans ?_
        simp only [List.append_assoc, List.singleton_append]

theorem run_process (job : Job) (oracle : Oracle Sys) (world : World Sys Container) :
    ∃ status recorded, Act.run (run job) oracle world =
        (.ok status, { world with history := world.history ++ recorded }) ∧
      Process job status recorded := by
  obtain ⟨result, recorded, ended, process⟩ := run_entryFunction job oracle world
  refine ⟨_, recorded, ?_, process⟩
  rw [run, run_bind, run_attempt, ended]
  cases result <;> rfl

end Child

namespace Job

def commands : Job → List String
  | .applyRules entry => entry.commands
  | _ => []

def calls : Job → List ChildCall
  | .bringUpEthernet address netmask =>
      [.findLink "eth0", .linkUp, .setIP address netmask]
  | .setDefaultGateway gateway => [.setDefaultGateway gateway]
  | .applyRules entry => entry.commands.map .spawnCommandLine
  | job => [.run job]

def Asks (job : Job) (event : Event Sys) : Prop :=
  ∃ call ∈ job.calls, event.call = .child call

theorem unlimitCoreDump_not_mem_calls (job : Job) :
    ChildCall.unlimitCoreDump ∉ job.calls := by
  cases job <;> simp [calls]

theorem spawnCommandLine_mem_calls {job : Job} {command : String} :
    ChildCall.spawnCommandLine command ∈ job.calls ↔ command ∈ job.commands := by
  cases job <;> simp [calls, commands]

end Job

namespace Child

/-- Rules are applied by running the commands of the entry. -/
theorem FunctionEnds.inserts {entry : IPTableEntry} {result : Except Killed Int}
    {recorded : History Sys} (ended : FunctionEnds (.applyRules entry) result recorded) :
    ∃ inserted, Inserts entry.commands inserted recorded ∧
      result = inserted.map fun applied => if applied then SUCCESS else FAILURE := by
  obtain ⟨oracle, world, rfl, grown⟩ := ended
  obtain ⟨recorded', grown', inserted⟩ := runs_applyRules entry oracle world
  have applied : Act.run (function (.applyRules entry)) oracle world =
      ((Act.run (applyRules entry) oracle world).1.map
          fun applied => if applied then SUCCESS else FAILURE,
        (Act.run (applyRules entry) oracle world).2) := by
    rw [function, run_bind]
    cases Act.run (applyRules entry) oracle world with
    | mk result after => cases result <;> rfl
  rw [applied, grown'] at grown
  cases List.append_cancel_left grown
  exact ⟨_, inserted, by rw [applied]⟩

theorem keeps_step {σ : Type} {inv : σ → Prop} {allowed : Event Sys → Prop}
    {call : ChildCall} (permitted : ∀ answer, allowed ⟨.child call, answer⟩) :
    Keeps inv allowed (fun _ => True) (step call : Child σ call.Answer) :=
  keeps_bind (keeps_ask permitted) fun answered =>
    match answered with
    | some _ => keeps_pure _
    | none => keeps_throw trivial

theorem FunctionEnds.mem {job : Job} {result : Except Killed Int}
    {recorded : History Sys} (ended : FunctionEnds job result recorded) :
    ∀ event ∈ recorded, job.Asks event := by
  by_cases rules : ∃ entry, job = .applyRules entry
  · obtain ⟨entry, rfl⟩ := rules
    obtain ⟨_, inserted, _⟩ := ended.inserts
    intro event member
    obtain ⟨command, isCommand, outcome, rfl⟩ := inserted.mem event member
    exact ⟨_, List.mem_map_of_mem isCommand, rfl⟩
  · have asks : Keeps (fun _ : Container => True) job.Asks (fun _ => True)
        (function job) := by
      have each : ∀ call ∈ job.calls, Keeps (fun _ : Container => True) job.Asks
          (fun _ => True) (step call) :=
        fun call member => keeps_step fun _ => ⟨call, member, rfl⟩
      cases job with
      | bringUpEthernet address netmask =>
          refine keeps_bind (each _ (by simp [Job.calls])) fun _ =>
            keeps_ite (fun _ => keeps_pure _) fun _ => ?_
          refine keeps_bind (each _ (by simp [Job.calls])) fun _ =>
            keeps_ite (fun _ => keeps_pure _) fun _ => ?_
          exact keeps_bind (each _ (by simp [Job.calls])) fun _ =>
            keeps_ite (fun _ => keeps_pure _) fun _ => keeps_pure _
      | setDefaultGateway gateway =>
          exact keeps_bind (each _ (by simp [Job.calls])) fun _ => keeps_pure _
      | applyRules entry => exact absurd ⟨entry, rfl⟩ rules
      | _ => exact each _ List.mem_cons_self
    obtain ⟨oracle, world, _, grown⟩ := ended
    obtain ⟨_, ⟨recorded', grown', only⟩, _⟩ := asks oracle world trivial
    rw [grown'] at grown
    cases List.append_cancel_left grown
    exact only

theorem Process.mem {job : Job} {status : WaitStatus} {recorded : History Sys}
    (process : Process job status recorded) :
    ∀ event ∈ recorded, (∃ error, event = limitEvent error) ∨
      (∃ code answer, event = exitEvent code answer) ∨ job.Asks event := by
  intro event member
  cases process with
  | unlimitKilled => exact .inl ⟨_, List.mem_singleton.mp member⟩
  | limited error answer _ =>
      rcases List.mem_cons.mp member with rfl | member
      · exact .inl ⟨_, rfl⟩
      · exact .inr (.inl ⟨_, _, List.mem_singleton.mp member⟩)
  | killed ended =>
      rcases List.mem_cons.mp member with rfl | member
      · exact .inl ⟨_, rfl⟩
      · exact .inr (.inr (ended.mem event member))
  | returned code answer ended =>
      rcases List.mem_cons.mp member with rfl | member
      · exact .inl ⟨_, rfl⟩
      · rcases List.mem_append.mp member with member | member
        · exact .inr (.inr (ended.mem event member))
        · exact .inr (.inl ⟨_, _, List.mem_singleton.mp member⟩)

end Child

namespace Container

/-! Functions that are started and waited for. -/

inductive Ran (job : Job) : FunctionRun → History Sys → Prop
  | notStarted (pid : Int) (waited : Option WaitStatus) :
      (∀ event ∈ recorded, FromHost event) →
      Ran job ⟨false, pid, none, waited⟩ recorded
  | started (pid : Int) (waited : Option WaitStatus) :
      (∀ event ∈ before, FromHost event) → Child.Process job status during →
      (∀ event ∈ after, FromHost event) →
      Ran job ⟨true, pid, some status, waited⟩ (before ++ (during ++ after))

theorem fromHost_sys {call : SysCall} {answer : call.Answer}
    (notChild : ∀ child, call ≠ .child child) : FromHost ⟨call, answer⟩ :=
  notChild

theorem allowsLxc_fromHost : AllowsLxc FromHost :=
  fun _ _ _ _ _ => fromHost_sys nofun

theorem ran_runFunction (job : Job) (pid stdin stdout stderr : Int)
    (oracle : Oracle Sys) (world : World Sys Container) :
    ∃ run recorded after,
      (runFunction job pid stdin stdout stderr).run oracle world =
        (.ok run, ⟨after, world.history ++ recorded⟩) ∧
      Ran job run recorded := by
  have executes : Keeps (fun _ => True) FromHost (fun _ => False)
      (execute job pid ∅ stdin stdout stderr) :=
    keeps_execute allowsLxc_fromHost job pid ∅ stdin stdout stderr
  obtain ⟨_, ⟨before, grown, fromHost⟩, never⟩ := executes oracle world trivial
  rw [runFunction, run_bind]
  cases executed : (execute job pid ∅ stdin stdout stderr).run oracle world with
  | mk result middle =>
      rw [executed] at grown never
      match result with
      | .error error => exact (never error rfl).elim
      | .ok (false, pid) =>
          let waited := oracle middle.history (.waitpid pid)
          refine ⟨⟨false, pid, none, waited⟩, before ++ [⟨.waitpid pid, waited⟩],
            middle.state, ?_, .notStarted pid waited fun event member => ?_⟩
          · dsimp only at grown
            rw [← List.append_assoc, ← grown]
            rfl
          · rcases List.mem_append.mp member with member | member
            · exact fromHost event member
            · cases List.mem_singleton.mp member
              exact fromHost_sys nofun
      | .ok (true, pid) =>
          obtain ⟨status, during, ended, process⟩ := Child.run_process job oracle middle
          let waited := oracle (middle.history ++ during) (.waitpid pid)
          have mapped : (some <$> Child.run job : Method (Option WaitStatus)).run oracle
              middle = (.ok (some status), ⟨middle.state, middle.history ++ during⟩) :=
            run_bind_ok ended
          have waitedFromHost : ∀ event ∈ [(⟨.waitpid pid, waited⟩ : Event Sys)],
              FromHost event := fun event member => by
            cases List.mem_singleton.mp member
            exact fromHost_sys nofun
          refine ⟨⟨true, pid, some status, waited⟩, _, middle.state, ?_,
            .started pid waited fromHost process waitedFromHost⟩
          dsimp only at grown
          rw [← List.append_assoc, ← List.append_assoc, ← grown]
          dsimp only
          rw [if_pos rfl, run_bind_ok mapped]
          rfl

theorem Ran.command_mem {job : Job} {run : FunctionRun} {recorded : History Sys}
    (ran : Ran job run recorded) {command : String} {outcome : Option SpawnOutcome}
    (member : commandEvent command outcome ∈ recorded) : command ∈ job.commands := by
  cases ran with
  | notStarted pid waited fromHost => exact (fromHost _ member _ rfl).elim
  | started pid waited beforeFromHost process afterFromHost =>
      rcases List.mem_append.mp member with inBefore | member
      · exact (beforeFromHost _ inBefore _ rfl).elim
      · rcases List.mem_append.mp member with inDuring | inAfter
        · rcases process.mem _ inDuring with ⟨_, same⟩ | ⟨_, _, same⟩ | ⟨call, isCall, same⟩
          · cases same
          · cases same
          · cases same
            exact Job.spawnCommandLine_mem_calls.mp isCall
        · exact (afterFromHost _ inAfter _ rfl).elim

def jobEnded (oracle : Oracle Sys) (world : World Sys Container) (job : Job) :
    FunctionRun × World Sys Container :=
  match (runFunctionJob job).run oracle world with
  | (.ok run, world) => (run, world)
  | (.error _, world) => (⟨false, 0, none, none⟩, world)

def jobRecorded (oracle : Oracle Sys) (world : World Sys Container) (job : Job) :
    History Sys :=
  (jobEnded oracle world job).2.history.drop world.history.length

section

variable (oracle : Oracle Sys) (world : World Sys Container) (job : Job)

theorem run_runFunctionJob : (runFunctionJob job).run oracle world =
    (.ok (jobEnded oracle world job).1, (jobEnded oracle world job).2) := by
  obtain ⟨run, recorded, after, ended, _⟩ := ran_runFunction job 0 (-1) (-1) (-1)
    oracle world
  rw [jobEnded, runFunctionJob, ended]

theorem jobEnded_history : (jobEnded oracle world job).2.history =
    world.history ++ jobRecorded oracle world job := by
  obtain ⟨run, recorded, after, ended, _⟩ := ran_runFunction job 0 (-1) (-1) (-1)
    oracle world
  rw [jobRecorded, jobEnded, runFunctionJob, ended, List.drop_left]

theorem ran_job :
    Ran job (jobEnded oracle world job).1 (jobRecorded oracle world job) := by
  obtain ⟨run, recorded, after, ended, ran⟩ := ran_runFunction job 0 (-1) (-1) (-1)
    oracle world
  rw [jobRecorded, jobEnded, runFunctionJob, ended, List.drop_left]
  exact ran

end

/-! Lists of jobs, each run where the one before ends. -/

abbrev JobProperty := Job → FunctionRun → History Sys → Prop

def SeenToSucceed : JobProperty := fun _ run _ => run.exitStatus = 0

section

variable (oracle : Oracle Sys) (holds : JobProperty)

def EveryJob : List Job → World Sys Container → Prop
  | [], _ => True
  | job :: rest, world =>
      holds job (jobEnded oracle world job).1 (jobRecorded oracle world job) ∧
        EveryJob rest (jobEnded oracle world job).2

def SomeJob : List Job → World Sys Container → Prop
  | [], _ => False
  | job :: rest, world =>
      holds job (jobEnded oracle world job).1 (jobRecorded oracle world job) ∨
        SomeJob rest (jobEnded oracle world job).2

/-- Some job, when a job is only run after one that is seen to succeed. -/
def ReachesJob : List Job → World Sys Container → Prop
  | [], _ => False
  | job :: rest, world =>
      holds job (jobEnded oracle world job).1 (jobRecorded oracle world job) ∨
        (SeenToSucceed job (jobEnded oracle world job).1 (jobRecorded oracle world job) ∧
          ReachesJob rest (jobEnded oracle world job).2)

end

section

variable {oracle : Oracle Sys} {holds other : JobProperty} {jobs : List Job}
  {world : World Sys Container}

theorem not_someJob :
    ¬ SomeJob oracle holds jobs world ↔
      EveryJob oracle (fun job run recorded => ¬ holds job run recorded) jobs world := by
  induction jobs generalizing world with
  | nil => simp [SomeJob, EveryJob]
  | cons job rest ih => simp [SomeJob, EveryJob, ih]

theorem everyJob_and :
    EveryJob oracle (fun job run recorded => holds job run recorded ∧
        other job run recorded) jobs world ↔
      EveryJob oracle holds jobs world ∧ EveryJob oracle other jobs world := by
  induction jobs generalizing world with
  | nil => simp [EveryJob]
  | cons job rest ih =>
      rw [EveryJob, EveryJob, EveryJob, ih]
      exact and_and_and_comm

theorem EveryJob.imp
    (each : ∀ job run recorded, Ran job run recorded → holds job run recorded →
      other job run recorded)
    (every : EveryJob oracle holds jobs world) : EveryJob oracle other jobs world := by
  induction jobs generalizing world with
  | nil => trivial
  | cons job rest ih =>
      exact ⟨each job _ _ (ran_job oracle world job) every.1, ih every.2⟩

theorem reachesJob_congr
    (same : ∀ job ∈ jobs, ∀ run recorded, Ran job run recorded →
      (holds job run recorded ↔ other job run recorded)) :
    ReachesJob oracle holds jobs world ↔ ReachesJob oracle other jobs world := by
  induction jobs generalizing world with
  | nil => rfl
  | cons job rest ih =>
      rw [ReachesJob, ReachesJob,
        same job List.mem_cons_self _ _ (ran_job oracle world job),
        ih fun job member => same job (List.mem_cons_of_mem _ member)]

theorem ReachesJob.exists (reached : ReachesJob oracle holds jobs world) :
    ∃ job ∈ jobs, ∃ run recorded, Ran job run recorded ∧ holds job run recorded := by
  induction jobs generalizing world with
  | nil => cases reached
  | cons job rest ih =>
      rcases reached with here | ⟨_, later⟩
      · exact ⟨job, List.mem_cons_self, _, _, ran_job oracle world job, here⟩
      · obtain ⟨job, member, found⟩ := ih later
        exact ⟨job, List.mem_cons_of_mem _ member, found⟩

end

def runJobs : List Job → Method Bool
  | [] => return true
  | job :: rest => do
      let run ← runFunctionJob job
      if run.exitStatus ≠ 0 then
        return false
      else
        runJobs rest

theorem run_runJobs_cons (job : Job) (rest : List Job) (oracle : Oracle Sys)
    (world : World Sys Container) :
    (runJobs (job :: rest)).run oracle world =
      if (jobEnded oracle world job).1.exitStatus ≠ 0 then
        (.ok false, (jobEnded oracle world job).2)
      else
        (runJobs rest).run oracle (jobEnded oracle world job).2 := by
  rw [runJobs, run_bind_ok (run_runFunctionJob oracle world job)]
  split <;> rfl

theorem run_runJobs (jobs : List Job) (oracle : Oracle Sys)
    (world : World Sys Container) :
    ∃ succeeded after recorded, (runJobs jobs).run oracle world =
        (.ok succeeded, ⟨after, world.history ++ recorded⟩) ∧
      (succeeded = true ↔ EveryJob oracle SeenToSucceed jobs world) ∧
      ∀ kind : Event Sys → Prop, (∃ event ∈ recorded, kind event) ↔
        ReachesJob oracle (fun _ _ recorded => ∃ event ∈ recorded, kind event)
          jobs world := by
  induction jobs generalizing world with
  | nil => exact ⟨true, world.state, [], by simp [runJobs], by simp [EveryJob],
      by simp [ReachesJob]⟩
  | cons job rest ih =>
      rw [run_runJobs_cons]
      simp only [EveryJob, ReachesJob, SeenToSucceed]
      by_cases seen : (jobEnded oracle world job).1.exitStatus = 0
      · obtain ⟨succeeded, after, recorded, ended, every, reaches⟩ :=
          ih (jobEnded oracle world job).2
        refine ⟨succeeded, after, jobRecorded oracle world job ++ recorded, ?_, ?_, ?_⟩
        · rw [if_neg (not_not_intro seen), ended, jobEnded_history, List.append_assoc]
        · simp only [seen, true_and]
          exact every
        · intro kind
          simp only [List.mem_append, or_and_right, exists_or, reaches kind, seen,
            true_and]
      · refine ⟨false, (jobEnded oracle world job).2.state,
          jobRecorded oracle world job, ?_, ?_, ?_⟩
        · rw [if_pos seen, ← jobEnded_history]
        · simp [seen]
        · simp [seen]

end Container

end SoftwareContainers
