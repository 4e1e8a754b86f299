import SoftwareContainers.Network.Activation

namespace SoftwareContainers

open Effect Effect.Act Hook Container

/-! Whether a true activation of the network gateway is a real one. -/

/-- The job is started, waited for, runs its function and exits with 0, and every
command it needs is spawned and exits with 0. -/
structure Succeeds (job : Job) (run : FunctionRun) (recorded : History Sys) : Prop where
  started : run.started = true
  waited : run.waited ≠ none
  exited : run.fate = some (.exited 0)
  unlimited : ∀ error, limitEvent error ∈ recorded → error = some 0
  spawned : ∀ command ∈ job.commands,
    commandEvent command (some (.spawned 0)) ∈ recorded
  commands : ∀ command outcome, commandEvent command outcome ∈ recorded →
    outcome = some (.spawned 0)

/-- The process is waited for and its exit code is not 0. -/
def FailsVisibly : JobProperty := fun _ run _ =>
  ∃ status, run.waited = some status ∧ (run.fate.getD status).exitStatus ≠ 0

/-- What may go wrong with a job without making its exit code one. -/
inductive FailsSilently (run : FunctionRun) (recorded : History Sys) : Prop
  | notStarted : run.started = false → FailsSilently run recorded
  | notWaited : run.waited = none → FailsSilently run recorded
  | killed : run.fate = some .signaled → FailsSilently run recorded
  | notRun (error : Int) : error ≠ 0 → error % 256 = 0 →
      limitEvent (some error) ∈ recorded → FailsSilently run recorded
  | command (command : String) (status : Int) : status ≠ 0 →
      commandEvent command (some (.spawned status)) ∈ recorded →
      FailsSilently run recorded

theorem failsVisibly_iff {job : Job} {run : FunctionRun} {recorded : History Sys} :
    FailsVisibly job run recorded ↔ ¬ SeenToSucceed job run recorded := by
  rw [FailsVisibly, SeenToSucceed, FunctionRun.exitStatus]
  cases run.waited <;> simp

theorem Succeeds.not_failsSilently {job : Job} {run : FunctionRun}
    {recorded : History Sys} (succeeds : Succeeds job run recorded) :
    ¬ FailsSilently run recorded := by
  intro fails
  cases fails with
  | notStarted notStarted => simp [succeeds.started] at notStarted
  | notWaited notWaited => exact succeeds.waited notWaited
  | killed killed => simp [succeeds.exited] at killed
  | notRun error nonzero _ member =>
      cases succeeds.unlimited _ member
      exact nonzero rfl
  | command command status nonzero member =>
      cases succeeds.commands command _ member
      exact nonzero rfl

theorem spawned_of_functionEnds {job : Job} {code : Int} {recorded : History Sys}
    (ended : Child.FunctionEnds job (.ok code) recorded) (success : code % 256 = 0) :
    (∀ command ∈ job.commands, ∃ status,
      commandEvent command (some (.spawned status)) ∈ recorded) ∧
    ∀ command outcome, commandEvent command outcome ∈ recorded →
      ∃ status, outcome = some (.spawned status) := by
  by_cases noCommands : job.commands = []
  · refine ⟨by simp [noCommands], fun command outcome member => ?_⟩
    obtain ⟨call, isCall, same⟩ := ended.mem _ member
    cases same
    rw [Job.spawnCommandLine_mem_calls, noCommands] at isCall
    cases isCall
  · cases job with
    | applyRules entry =>
        obtain ⟨inserted, inserts, same⟩ := ended.inserts
        have isTrue : inserted = .ok true := by
          match inserted, same with
          | .ok true, _ => rfl
          | .ok false, same =>
              cases same
              cases success
        subst isTrue
        obtain ⟨every, only⟩ := inserts.spawned
        refine ⟨every, fun command outcome member => ?_⟩
        obtain ⟨_, status, same⟩ := only _ member
        cases same
        exact ⟨status, rfl⟩
    | _ => exact absurd rfl noCommands

theorem returned_of_process {job : Job} {status : WaitStatus} {recorded : History Sys}
    (process : Child.Process job status recorded) (success : status.exitStatus = 0)
    (notKilled : status ≠ .signaled)
    (run : ∀ error, error ≠ 0 → error % 256 = 0 → limitEvent (some error) ∉ recorded) :
    status = .exited 0 ∧ ∃ code answer during,
      Child.FunctionEnds job (.ok code) during ∧ code % 256 = 0 ∧
      recorded = limitEvent (some 0) :: (during ++ [exitEvent code answer]) := by
  have exitsWithZero : ∀ code answer,
      (Child.waitStatus (Child.exitResult code answer)).exitStatus = 0 →
      Child.waitStatus (Child.exitResult code answer) ≠ .signaled →
      Child.waitStatus (Child.exitResult code answer) = .exited 0 ∧ code % 256 = 0 := by
    intro code answer success notKilled
    cases answer with
    | none => exact absurd rfl notKilled
    | some _ =>
        have isZero : (code % 256).toNat % 256 = 0 := success
        have zero : code % 256 = 0 := by omega
        refine ⟨?_, zero⟩
        simp [Child.exitResult, Child.waitStatus, zero]
  cases process with
  | unlimitKilled => exact absurd rfl notKilled
  | killed _ => exact absurd rfl notKilled
  | limited error answer nonzero =>
      exact absurd List.mem_cons_self
        (run error nonzero (exitsWithZero error answer success notKilled).2)
  | @returned during code answer ended =>
      obtain ⟨exited, zero⟩ := exitsWithZero code answer success notKilled
      exact ⟨exited, code, answer, during, ended, zero, rfl⟩

/-- What is not seen to fail and does not fail silently succeeds. -/
theorem succeeds_of_ran {job : Job} {run : FunctionRun} {recorded : History Sys}
    (ran : Ran job run recorded) (seen : SeenToSucceed job run recorded)
    (notSilently : ¬ FailsSilently run recorded) : Succeeds job run recorded := by
  cases ran with
  | notStarted pid waited _ => exact (notSilently (.notStarted rfl)).elim
  | @started before status during after pid waited beforeFromHost process afterFromHost =>
      have inDuring : ∀ {call : ChildCall} {answer},
          (⟨.child call, answer⟩ : Event Sys) ∈ before ++ (during ++ after) →
          ⟨.child call, answer⟩ ∈ during := by
        intro call answer member
        rcases List.mem_append.mp member with member | member
        · exact (beforeFromHost _ member call rfl).elim
        · exact (List.mem_append.mp member).resolve_right fun member =>
            afterFromHost _ member call rfl
      have whole : ∀ {event : Event Sys}, event ∈ during →
          event ∈ before ++ (during ++ after) :=
        fun member => List.mem_append_right _ (List.mem_append_left _ member)
      have waitedFor : waited ≠ none := fun same => notSilently (.notWaited same)
      have success : status.exitStatus = 0 := by
        cases waited with
        | none => exact absurd rfl waitedFor
        | some _ => exact seen
      have notKilled : status ≠ .signaled :=
        fun same => notSilently (.killed (by rw [same]))
      obtain ⟨rfl, code, answer, inner, ended, zero, rfl⟩ := returned_of_process process
        success notKilled fun error nonzero wraps member =>
          notSilently (.notRun error nonzero wraps (whole member))
      obtain ⟨every, only⟩ := spawned_of_functionEnds ended zero
      refine ⟨rfl, waitedFor, rfl, fun error member => ?_, fun command needed => ?_,
        fun command outcome member => ?_⟩
      · rcases List.mem_cons.mp (inDuring member) with same | member
        · cases same
          rfl
        · rcases List.mem_append.mp member with member | member
          · obtain ⟨call, isCall, same⟩ := ended.mem _ member
            cases same
            exact (job.unlimitCoreDump_not_mem_calls isCall).elim
          · cases List.mem_singleton.mp member
      · obtain ⟨status, member⟩ := every command needed
        have recorded := whole (List.mem_cons_of_mem (limitEvent (some 0))
          (List.mem_append_left [exitEvent code answer] member))
        by_cases zero : status = 0
        · subst zero
          exact recorded
        · exact (notSilently (.command command status zero recorded)).elim
      · rcases List.mem_cons.mp (inDuring member) with same | inRest
        · cases same
        · rcases List.mem_append.mp inRest with inInner | atEnd
          · obtain ⟨status, rfl⟩ := only command outcome inInner
            by_cases zero : status = 0
            · rw [zero]
            · exact (notSilently (.command command status zero member)).elim
          · cases List.mem_singleton.mp atEnd

namespace NetworkGateway

/-- A true result means that every job that was needed succeeded. -/
def Honest (self : NetworkGateway) (oracle : Oracle Sys) (container : Container)
    (history : History Sys) : Prop :=
  (activateGateway.run oracle ⟨(self, container), history⟩).1 = .ok true →
    ∃ jobs world, self.neededJobs oracle container history = some (jobs, world) ∧
      EveryJob oracle Succeeds jobs world

/-- Activation is honest exactly when, should it get to its jobs, one of them exits
with a code that is seen or none of them fails silently. -/
theorem honest_iff (self : NetworkGateway) (oracle : Oracle Sys)
    (container : Container) (history : History Sys) (nonempty : self.gateway ≠ "") :
    self.Honest oracle container history ↔
      ∀ jobs world, self.neededJobs oracle container history = some (jobs, world) →
        SomeJob oracle FailsVisibly jobs world ∨
          EveryJob oracle (fun _ run recorded => ¬ FailsSilently run recorded)
            jobs world := by
  rw [Honest]
  cases needed : self.neededJobs oracle container history with
  | none =>
      obtain ⟨result, recorded, ended, _, notTrue, _⟩ :=
        run_activateGateway_of_not_needed needed
      rw [ended]
      exact ⟨fun _ _ _ same => (nomatch same), fun _ isTrue =>
        absurd isTrue (notTrue nonempty)⟩
  | some start =>
      obtain ⟨jobs, world⟩ := start
      obtain ⟨⟨self', ended⟩, _⟩ := run_activateGateway_of_needed needed
      obtain ⟨succeeded, after, recorded, jobsEnded, every, _⟩ :=
        run_runJobs jobs oracle world
      have fails : SomeJob oracle FailsVisibly jobs world ↔
          ¬ EveryJob oracle SeenToSucceed jobs world := by
        rw [← not_iff_not, not_not, not_someJob]
        simp only [failsVisibly_iff, not_not]
      have allSucceed : EveryJob oracle SeenToSucceed jobs world →
          (EveryJob oracle Succeeds jobs world ↔
            EveryJob oracle (fun _ run recorded => ¬ FailsSilently run recorded)
              jobs world) :=
        fun seen => ⟨EveryJob.imp fun _ _ _ _ succeeds => succeeds.not_failsSilently,
          fun notSilently => (everyJob_and.mpr ⟨seen, notSilently⟩).imp
            fun _ _ _ ran both => succeeds_of_ran ran both.1 both.2⟩
      rw [ended, jobsEnded]
      constructor
      · rintro honest jobs' world' same
        cases same
        by_cases seen : EveryJob oracle SeenToSucceed jobs world
        · obtain ⟨_, _, same, real⟩ := honest (by rw [every.mpr seen])
          cases same
          exact .inr ((allSucceed seen).mp real)
        · exact .inl (fails.mpr seen)
      · intro condition isTrue
        have seen := every.mp (Except.ok.inj isTrue)
        exact ⟨jobs, world, rfl, (allSucceed seen).mpr
          ((condition jobs world rfl).resolve_left fun visibly =>
            fails.mp visibly seen)⟩

def commandsFail : Oracle Sys
  | _, .child (.spawnCommandLine _) => some (.spawned 256)
  | history, call => fortunate history call

/-- No command has had an effect, and the activation returns true. -/
theorem failed_commands_are_not_seen :
    ¬ closedGateway.Honest commandsFail runningContainer [] := by
  intro honest
  obtain ⟨jobs, world, needed, real⟩ := honest rfl
  cases needed
  have policy := real.2.2.1.commands "iptables -P INPUT DROP" (some (.spawned 256))
    (List.mem_of_getElem? (show _[3]? = _ from rfl))
  cases policy

def commandsCannotBeSpawned : Oracle Sys
  | _, .child (.spawnCommandLine _) => some .spawnError
  | history, call => fortunate history call

theorem unspawned_commands_are_seen :
    closedGateway.Honest commandsCannotBeSpawned runningContainer [] := by
  refine (honest_iff closedGateway commandsCannotBeSpawned runningContainer []
    (by decide)).mpr fun jobs world needed => ?_
  cases needed
  exact .inl (.inr (.inr (.inl ⟨.exited 0, rfl, by decide⟩)))

end NetworkGateway

end SoftwareContainers
