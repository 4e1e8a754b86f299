import SoftwareContainers.Container.Reaping

namespace SoftwareContainers

open Effect Effect.Act Processes Processes.Table

/-! Runs of an agent: jobs that are started and waited for while applications are running. -/

namespace Container

theorem traces_executeCommand {inv : Container → Prop}
    (shellParseArgv : String → Option (List String)) (commandLine : String) (pid : Int)
    (environment : EnvironmentVariables) (workingDirectory : String)
    (stdin stdout stderr : Int) :
    Traces inv processEvent
      (fun result events =>
        (∃ attached, result = .ok (true, attached) ∧ events = [.started attached]) ∨
          ((∀ attached, result ≠ .ok (true, attached)) ∧ events = []))
      (executeCommand shellParseArgv commandLine pid environment workingDirectory stdin stdout
        stderr) := by
  refine traces_bind_quiet keeps_ensureRunning_childless fun running =>
    traces_ite (fun _ => traces_pure (.inr ⟨nofun, rfl⟩)) fun _ => ?_
  cases shellParseArgv commandLine with
  | none => exact traces_throw (.inr ⟨nofun, rfl⟩)
  | some arguments =>
      refine (traces_execute _ _ _ _ _ _).weaken fun result events executed => ?_
      rcases executed with started | ⟨rfl, rfl⟩
      · exact .inl started
      · exact .inr ⟨nofun, rfl⟩

end Container

structure Waiter where
  pid : Int
  own : Option Nat

structure Listener where
  pid : Int
  own : Nat

/-- A wait, with the children there were when its job came to it, and the process that the
job has started. -/
structure JobWait where
  before : Table WaitStatus
  own : Option Nat
  waited : Waited WaitStatus

namespace JobWait

/-- At most the own process is reaped, and without one the wait does nothing. -/
def ReapsOwn (wait : JobWait) : Prop :=
  (∀ process, wait.waited.reaped = some process → wait.own = some process.number) ∧
    (wait.own = none → wait.waited.reaped = none ∧ wait.waited.blocked = false)

/-- If the start has failed then `waitpid` looks at no child. -/
def LooksAtNone (wait : JobWait) : Prop :=
  wait.own = none → wait.before.Unmatched wait.waited.asked

end JobWait

namespace JobWait

variable {wait : JobWait}

theorem reapsOwn_of_own {number : Nat} (own : wait.own = some number)
    (reaps : ∀ process, wait.waited.reaped = some process → process.number = number) :
    wait.ReapsOwn :=
  ⟨fun process reaped => own.trans (congrArg some (reaps process reaped).symm), by simp [own]⟩

theorem looksAtNone_of_own {number : Nat} (own : wait.own = some number) : wait.LooksAtNone := by
  simp [LooksAtNone, own]

theorem reapsOwn_iff_of_none (own : wait.own = none)
    (idle : (wait.waited.reaped = none ∧ wait.waited.blocked = false) ↔
      wait.before.Unmatched wait.waited.asked) :
    wait.ReapsOwn ↔ wait.LooksAtNone := by
  constructor
  · exact fun reapsOwn _ => idle.mp (reapsOwn.2 own)
  · intro looksAtNone
    have done := idle.mpr (looksAtNone own)
    exact ⟨by simp [done.1], fun _ => done⟩

end JobWait

/-- The agent and its children; an application is listed until its listener is called. -/
structure Session where
  history : History Sys
  table : Table WaitStatus
  waiters : List Waiter
  applications : List Listener

namespace Session

def new (history : History Sys) : Session := ⟨history, ⟨[], 0⟩, [], []⟩

def newEvents (session : Session) (history : History Sys) :
    List (ProcessEvent WaitStatus) :=
  processEvents (history.drop session.history.length)

/-- The process that was started, if there is one among the events. -/
def startedIn (session : Session) (events : List (ProcessEvent WaitStatus)) : Option Nat :=
  match events with
  | .started _ :: _ => some session.table.started
  | _ => none

inductive Step (oracle : Oracle Sys) (session : Session) : List JobWait → Session → Prop
  | executeSync (container : Container) (function : Job) (pid : Int)
      {result : Except Fault (Bool × Int)} {after : World Sys Container}
      {waits : List (Waited WaitStatus)} {table : Table WaitStatus}
      (ran : (Container.executeSync function pid).run oracle ⟨container, session.history⟩ =
        (result, after))
      (explained : Explains session.table (session.newEvents after.history) waits table) :
      Step oracle session
        (waits.map
          (JobWait.mk session.table (session.startedIn (session.newEvents after.history))))
        { session with history := after.history, table }
  | startFunction (container : Container) (function : Job) (environment : EnvironmentVariables)
      (stdin stdout stderr : Int) {started : Bool} {pid : Int} {after : World Sys Container}
      {table : Table WaitStatus}
      (ran : (Container.execute function 0 environment stdin stdout stderr).run oracle
        ⟨container, session.history⟩ = (.ok (started, pid), after))
      (explained : Explains session.table (session.newEvents after.history) [] table) :
      Step oracle session []
        { session with
          history := after.history, table,
          waiters := ⟨pid, if started then some session.table.started else none⟩ ::
            session.waiters }
  | startApplication (container : Container) (shellParseArgv : String → Option (List String))
      (commandLine : String) (environment : EnvironmentVariables) (workingDirectory : String)
      (stdin stdout stderr : Int) {pid : Int} {after : World Sys Container}
      {table : Table WaitStatus}
      (ran : (Container.executeCommand shellParseArgv commandLine 0 environment workingDirectory
        stdin stdout stderr).run oracle ⟨container, session.history⟩ = (.ok (true, pid), after))
      (explained : Explains session.table (session.newEvents after.history) [] table) :
      Step oracle session []
        { session with
          history := after.history, table,
          applications := ⟨pid, session.table.started⟩ :: session.applications }
  | noApplication (container : Container) (shellParseArgv : String → Option (List String))
      (commandLine : String) (environment : EnvironmentVariables) (workingDirectory : String)
      (stdin stdout stderr : Int) {result : Except Fault (Bool × Int)}
      {after : World Sys Container} {table : Table WaitStatus}
      (ran : (Container.executeCommand shellParseArgv commandLine 0 environment workingDirectory
        stdin stdout stderr).run oracle ⟨container, session.history⟩ = (result, after))
      (failed : ∀ pid, result ≠ .ok (true, pid))
      (explained : Explains session.table (session.newEvents after.history) [] table) :
      Step oracle session [] { session with history := after.history, table }
  | startProxy (arguments environment : List String) {pid stdin : Int} {table : Table WaitStatus}
      (spawned : oracle session.history (.spawnAsyncWithPipes arguments environment) =
        some (pid, stdin))
      (explained : Explains session.table [.started pid] [] table) :
      Step oracle session []
        { session with
          history := session.history ++
            [⟨.spawnAsyncWithPipes arguments environment, some (pid, stdin)⟩],
          table, waiters := ⟨pid, some session.table.started⟩ :: session.waiters }
  | wait {first rest : List Waiter} {waiter : Waiter} {waits : List (Waited WaitStatus)}
      {table : Table WaitStatus} (isWaiter : session.waiters = first ++ waiter :: rest)
      (explained : Explains session.table
        [.waited waiter.pid (oracle session.history (.waitpid waiter.pid))] waits table) :
      Step oracle session (waits.map (JobWait.mk session.table waiter.own))
        { session with
          history := session.history ++
            [⟨.waitpid waiter.pid, oracle session.history (.waitpid waiter.pid)⟩],
          table, waiters := first ++ rest }
  | listen {first rest : List Listener} {listener : Listener} {process : Process WaitStatus}
      {status : WaitStatus} (isApplication : session.applications = first ++ listener :: rest)
      (isChild : process ∈ session.table.children) (isProcess : process.pid = listener.pid)
      (ended : process.ended = some status) :
      Step oracle session []
        { session with
          table := session.table.reap process.number, applications := first ++ rest }
  | finish {table : Table WaitStatus} (finishes : Finishes session.table table) :
      Step oracle session [] { session with table }

inductive Run (oracle : Oracle Sys) (session : Session) : List JobWait → Session → Prop
  | nil : Run oracle session [] session
  | step {waits more : List JobWait} {middle last : Session} :
      Run oracle session waits middle → Step oracle middle more last →
      Run oracle session (waits ++ more) last

/-- Each process that somebody waits for or listens to is still a child. -/
structure Intact (session : Session) : Prop where
  sound : session.table.Sound
  waiters : ∀ waiter ∈ session.waiters, ∀ number, waiter.own = some number →
    session.table.Has number waiter.pid
  applications : ∀ listener ∈ session.applications,
    session.table.Has listener.own listener.pid
  apart : (session.waiters.filterMap Waiter.own ++
    session.applications.map Listener.own).Nodup

/-- The listener's application is a child, and no other child has its process id. -/
def ExitIsThere (session : Session) (listener : Listener) : Prop :=
  ∃ process ∈ session.table.children, process.number = listener.own ∧
    ∀ other ∈ session.table.children, other.pid = listener.pid ↔ other = process

theorem intact_new (history : History Sys) : (new history).Intact where
  sound := ⟨List.forall_mem_nil _, List.forall_mem_nil _, List.nodup_nil⟩
  waiters := List.forall_mem_nil _
  applications := List.forall_mem_nil _
  apart := List.nodup_nil

variable {oracle : Oracle Sys} {session next : Session} {waits : List JobWait}

theorem Intact.of_keeps (intact : session.Intact) {table : Table WaitStatus}
    (sound : table.Sound) (keeps : session.table.Keeps table) (history : History Sys) :
    { session with history, table }.Intact where
  sound := sound
  waiters waiter member number own := keeps number _ (intact.waiters waiter member number own)
  applications listener member := keeps _ _ (intact.applications listener member)
  apart := intact.apart

theorem newEvents_of_traced {α : Type} {act : Container.Method α}
    {post : Except Fault α → List (ProcessEvent WaitStatus) → Prop}
    (traced : Traces (fun _ => True) processEvent post act) {container : Container}
    {result : Except Fault α} {after : World Sys Container}
    (ran : act.run oracle ⟨container, session.history⟩ = (result, after)) :
    post result (session.newEvents after.history) := by
  obtain ⟨_, recorded, isRecorded, holds⟩ := traced oracle ⟨container, session.history⟩ trivial
  rw [ran] at isRecorded holds
  have new : session.newEvents after.history = traceOf processEvent recorded := by
    rw [newEvents, isRecorded, List.drop_left]
  rw [new]
  exact holds

theorem Intact.fresh (intact : session.Intact) :
    session.table.started ∉
      session.waiters.filterMap Waiter.own ++ session.applications.map Listener.own := by
  intro member
  rcases List.mem_append.mp member with isWaiter | isApplication
  · obtain ⟨waiter, waiterMember, own⟩ := List.mem_filterMap.mp isWaiter
    exact absurd ((intact.waiters waiter waiterMember _ own).number_lt intact.sound)
      (Nat.lt_irrefl _)
  · obtain ⟨listener, listenerMember, own⟩ := List.mem_map.mp isApplication
    exact absurd ((intact.applications listener listenerMember).number_lt intact.sound)
      (own ▸ Nat.lt_irrefl _)

section

variable {table : Table WaitStatus} {pid : Int}

theorem Intact.with_waiter (intact : session.Intact) (sound : table.Sound)
    (keeps : session.table.Keeps table) (has : table.Has session.table.started pid)
    (history : History Sys) :
    { session with
      history, table,
      waiters := ⟨pid, some session.table.started⟩ :: session.waiters }.Intact where
  sound := sound
  waiters := by
    refine List.forall_mem_cons.mpr ⟨fun number own => ?_, (intact.of_keeps sound keeps []).waiters⟩
    exact Option.some.inj own ▸ has
  applications := (intact.of_keeps sound keeps []).applications
  apart := List.nodup_cons.mpr ⟨intact.fresh, intact.apart⟩

theorem Intact.with_idle_waiter (intact : session.Intact) (sound : table.Sound)
    (keeps : session.table.Keeps table) (history : History Sys) :
    { session with history, table, waiters := ⟨pid, none⟩ :: session.waiters }.Intact where
  sound := sound
  waiters := List.forall_mem_cons.mpr
    ⟨fun _ own => absurd own nofun, (intact.of_keeps sound keeps []).waiters⟩
  applications := (intact.of_keeps sound keeps []).applications
  apart := intact.apart

theorem Intact.with_application (intact : session.Intact) (sound : table.Sound)
    (keeps : session.table.Keeps table) (has : table.Has session.table.started pid)
    (history : History Sys) :
    { session with
      history, table,
      applications := ⟨pid, session.table.started⟩ :: session.applications }.Intact where
  sound := sound
  waiters := (intact.of_keeps sound keeps []).waiters
  applications := List.forall_mem_cons.mpr ⟨has, (intact.of_keeps sound keeps []).applications⟩
  apart := List.nodup_middle.mpr (List.nodup_cons.mpr ⟨intact.fresh, intact.apart⟩)

theorem Intact.without_waiter (intact : session.Intact) {first rest : List Waiter}
    {waiter : Waiter} (isWaiter : session.waiters = first ++ waiter :: rest)
    (sound : table.Sound)
    (keeps : ∀ number pid, waiter.own ≠ some number → session.table.Has number pid →
      table.Has number pid) (history : History Sys) :
    { session with history, table, waiters := first ++ rest }.Intact := by
  have fewer : (first ++ rest).Sublist session.waiters :=
    isWaiter ▸ (List.sublist_cons_self waiter rest).append_left first
  have apart : ∀ number, waiter.own = some number →
      number ∉ (first ++ rest).filterMap Waiter.own ++
        session.applications.map Listener.own := by
    intro number own
    have nodup := intact.apart
    rw [isWaiter, List.filterMap_append, List.filterMap_cons_some own, List.append_assoc,
      List.cons_append] at nodup
    rw [List.filterMap_append, List.append_assoc]
    exact (List.nodup_cons.mp (List.nodup_middle.mp nodup)).1
  constructor
  · exact sound
  · intro other member number own
    refine keeps number _ (fun same => apart number same ?_)
      (intact.waiters other (fewer.subset member) number own)
    exact List.mem_append_left _ (List.mem_filterMap.mpr ⟨other, member, own⟩)
  · intro listener member
    refine keeps _ _ (fun same => apart _ same ?_) (intact.applications listener member)
    exact List.mem_append_right _ (List.mem_map_of_mem member)
  · exact intact.apart.sublist ((fewer.filterMap _).append_right _)

end

theorem Intact.listen (intact : session.Intact) {first rest : List Listener}
    {listener : Listener} (isApplication : session.applications = first ++ listener :: rest)
    {process : Process WaitStatus} (isChild : process ∈ session.table.children)
    (isProcess : process.pid = listener.pid) :
    { session with
      table := session.table.reap process.number, applications := first ++ rest }.Intact := by
  have own : process.number = listener.own := by
    refine intact.sound.number_of_matches (intact.applications listener ?_) isChild ?_
    · simp [isApplication]
    · exact .inr (.inr ⟨isProcess ▸ intact.sound.pid_pos process isChild, isProcess⟩)
  have fewer : (first ++ rest).Sublist session.applications :=
    isApplication ▸ (List.sublist_cons_self listener rest).append_left first
  have apart : listener.own ∉
      session.waiters.filterMap Waiter.own ++ (first ++ rest).map Listener.own := by
    have nodup := intact.apart
    rw [isApplication, List.map_append, List.map_cons, ← List.append_assoc] at nodup
    rw [List.map_append, ← List.append_assoc]
    exact (List.nodup_cons.mp (List.nodup_middle.mp nodup)).1
  rw [own]
  constructor
  · exact intact.sound.reap _
  · intro waiter member other isOwn
    refine (intact.waiters waiter member other isOwn).reap fun same => apart ?_
    exact List.mem_append_left _ (List.mem_filterMap.mpr ⟨waiter, member, same ▸ isOwn⟩)
  · intro other member
    refine (intact.applications other (fewer.subset member)).reap fun same => apart ?_
    exact List.mem_append_right _ (same ▸ List.mem_map_of_mem member)
  · exact intact.apart.sublist ((fewer.map _).append_left _)

abbrev Careful (waits : List JobWait) (next : Session) : Prop :=
  (∀ wait ∈ waits, wait.ReapsOwn ↔ wait.LooksAtNone) ∧
    ((∀ wait ∈ waits, wait.LooksAtNone) → next.Intact)

section

variable {table : Table WaitStatus} {events : List (ProcessEvent WaitStatus)}
  {waited : List (Waited WaitStatus)} {pid : Int} {answer : Option WaitStatus}

theorem Intact.careful_started_waited (intact : session.Intact) {attached : Int}
    (explained : Explains session.table [.started attached, .waited attached answer] waited table)
    (history : History Sys) :
    Careful (waited.map (JobWait.mk session.table (some session.table.started)))
      { session with history, table } := by
  obtain ⟨later, sameGroup, finishes, positive, fresh, rest⟩ := explained.of_started
  have laterSound := (finishes.sound intact.sound).start positive fresh sameGroup
  have isChild : (later.start attached sameGroup).Has session.table.started attached :=
    finishes.started_eq ▸ has_start attached sameGroup
  obtain ⟨sound, reaps, others⟩ := rest.waitOwn laterSound isChild
  refine ⟨List.forall_mem_map.mpr fun done member => ?_, fun _ => ?_⟩
  · exact iff_of_true (JobWait.reapsOwn_of_own rfl (reaps done member))
      (JobWait.looksAtNone_of_own rfl)
  · refine intact.of_keeps sound (fun number pid has => ?_) history
    exact others number pid (has.number_lt intact.sound).ne ((finishes.has has).start _ _)

theorem Intact.waited_without (intact : session.Intact)
    (explained : Explains session.table [.waited pid answer] waited table) :
    table.Sound ∧
      (∀ wait ∈ waited.map (JobWait.mk session.table none), wait.ReapsOwn ↔ wait.LooksAtNone) ∧
      ((∀ wait ∈ waited.map (JobWait.mk session.table none), wait.LooksAtNone) →
        session.table.Keeps table) := by
  obtain ⟨sound, done, rfl, rfl, idle, keeps⟩ := explained.waitAny intact.sound
  refine ⟨sound, ?_, fun looks => ?_⟩
  · exact List.forall_mem_singleton.mpr (JobWait.reapsOwn_iff_of_none rfl idle)
  · exact keeps (List.forall_mem_singleton.mp looks rfl)

theorem Intact.careful_waited (intact : session.Intact)
    (explained : Explains session.table [.waited pid answer] waited table)
    (history : History Sys) :
    Careful (waited.map (JobWait.mk session.table none)) { session with history, table } := by
  obtain ⟨sound, same, keeps⟩ := intact.waited_without explained
  exact ⟨same, fun looks => intact.of_keeps sound (keeps looks) history⟩

theorem Intact.careful_waiter (intact : session.Intact) {first rest : List Waiter}
    {waiter : Waiter} (isWaiter : session.waiters = first ++ waiter :: rest)
    (explained : Explains session.table [.waited waiter.pid answer] waited table)
    (history : History Sys) :
    Careful (waited.map (JobWait.mk session.table waiter.own))
      { session with history, table, waiters := first ++ rest } := by
  cases own : waiter.own with
  | none =>
      obtain ⟨sound, same, keeps⟩ := intact.waited_without explained
      exact ⟨same, fun looks => intact.without_waiter isWaiter sound
        (fun number pid _ has => keeps looks number pid has) history⟩
  | some number =>
      have isChild := intact.waiters waiter (isWaiter ▸ by simp) number own
      obtain ⟨sound, reaps, others⟩ := explained.waitOwn intact.sound isChild
      refine ⟨List.forall_mem_map.mpr fun done member => ?_, fun _ => ?_⟩
      · exact iff_of_true (JobWait.reapsOwn_of_own rfl (reaps done member))
          (JobWait.looksAtNone_of_own rfl)
      · refine intact.without_waiter isWaiter sound (fun other pid differs has => ?_) history
        exact others other pid (fun same => differs (same ▸ own)) has

end

theorem careful_of_intact {next : Session} (after : next.Intact) : Careful [] next :=
  ⟨List.forall_mem_nil _, fun _ => after⟩

theorem Intact.step (intact : session.Intact) (step : Step oracle session waits next) :
    Careful waits next := by
  cases step with
  | executeSync container function pid ran explained =>
      rcases newEvents_of_traced (Container.traces_executeSync function pid) ran with
        ⟨attached, answer, same⟩ | ⟨answer, same⟩
      · rw [same] at explained ⊢
        exact intact.careful_started_waited explained _
      · rw [same] at explained ⊢
        exact intact.careful_waited explained _
  | @startFunction container function environment stdin stdout stderr started pid after table
      ran explained =>
      rcases newEvents_of_traced (Container.traces_execute function 0 environment stdin stdout
        stderr) ran with ⟨attached, result, same⟩ | ⟨result, same⟩
      · cases result
        rw [same] at explained
        obtain ⟨_, sound, keeps, has⟩ := explained.start intact.sound
        exact careful_of_intact (intact.with_waiter sound keeps has _)
      · cases result
        rw [same] at explained
        have finishes := explained.of_done.2
        exact careful_of_intact
          (intact.with_idle_waiter (finishes.sound intact.sound) finishes.keeps _)
  | startApplication container shellParseArgv commandLine environment workingDirectory stdin
      stdout stderr ran explained =>
      rcases newEvents_of_traced (Container.traces_executeCommand shellParseArgv commandLine 0
        environment workingDirectory stdin stdout stderr) ran with
        ⟨attached, result, same⟩ | ⟨failed, _⟩
      · cases result
        rw [same] at explained
        obtain ⟨_, sound, keeps, has⟩ := explained.start intact.sound
        exact careful_of_intact (intact.with_application sound keeps has _)
      · exact absurd rfl (failed _)
  | noApplication container shellParseArgv commandLine environment workingDirectory stdin
      stdout stderr ran failed explained =>
      rcases newEvents_of_traced (Container.traces_executeCommand shellParseArgv commandLine 0
        environment workingDirectory stdin stdout stderr) ran with
        ⟨attached, started, _⟩ | ⟨_, same⟩
      · exact absurd started (failed attached)
      · rw [same] at explained
        have finishes := explained.of_done.2
        exact careful_of_intact
          (intact.of_keeps (finishes.sound intact.sound) finishes.keeps _)
  | startProxy arguments environment spawned explained =>
      obtain ⟨_, sound, keeps, has⟩ := explained.start intact.sound
      exact careful_of_intact (intact.with_waiter sound keeps has _)
  | wait isWaiter explained => exact intact.careful_waiter isWaiter explained _
  | listen isApplication isChild isProcess ended =>
      exact careful_of_intact (intact.listen isApplication isChild isProcess)
  | finish finishes =>
      exact careful_of_intact
        (intact.of_keeps (finishes.sound intact.sound) finishes.keeps session.history)

theorem Intact.run (intact : session.Intact) (run : Run oracle session waits next) :
    ((∀ wait ∈ waits, wait.ReapsOwn) ↔ ∀ wait ∈ waits, wait.LooksAtNone) ∧
      ((∀ wait ∈ waits, wait.LooksAtNone) → next.Intact) := by
  induction run with
  | nil => exact ⟨by simp, fun _ => intact⟩
  | @step waits more middle last _ step ih =>
      obtain ⟨same, intact'⟩ := ih
      have split : ∀ property : JobWait → Prop,
          (∀ wait ∈ waits ++ more, property wait) ↔
            (∀ wait ∈ waits, property wait) ∧ ∀ wait ∈ more, property wait :=
        fun property => List.forall_mem_append
      constructor
      · rw [split, split, same, and_congr_right_iff]
        intro looks
        have careful := (intact' looks).step step
        exact forall₂_congr careful.1
      · intro looks
        obtain ⟨looks, looksMore⟩ := (split _).mp looks
        exact ((intact' looks).step step).2 looksMore

theorem Intact.exitIsThere (intact : session.Intact) {listener : Listener}
    (isListener : listener ∈ session.applications) : session.ExitIsThere listener := by
  obtain ⟨process, member, isOwn, isPid⟩ := intact.applications listener isListener
  refine ⟨process, member, isOwn, fun other otherMember => ⟨fun same => ?_, ?_⟩⟩
  · exact List.inj_on_of_nodup_map intact.sound.pids otherMember member (same.trans isPid.symm)
  · rintro rfl
    exact isPid

/-- In any run, each job takes at most its own process exactly if no job whose start has
failed looks at a child. Then the exit of each application is left for its listener. -/
theorem jobs_reap_own_iff (oracle : Oracle Sys) (history : History Sys) {waits : List JobWait}
    {last : Session} (run : Run oracle (new history) waits last) :
    ((∀ wait ∈ waits, wait.ReapsOwn) ↔ ∀ wait ∈ waits, wait.LooksAtNone) ∧
      ((∀ wait ∈ waits, wait.LooksAtNone) →
        ∀ listener ∈ last.applications, last.ExitIsThere listener) := by
  obtain ⟨same, intact⟩ := (intact_new history).run run
  exact ⟨same, fun looks _ isListener => (intact looks).exitIsThere isListener⟩

def inContainer : Container :=
  { Container.new "0" "/etc/sc.conf" "/tmp/container" false 1 with state := .started }

def startsTwo : Oracle Sys
  | _, .lxc _ _ (.attach (.command ..) ..) => some 1
  | _, .lxc _ _ (.attach ..) => some 2
  | history, call => fortunate history call

def withApplication (oracle : Oracle Sys) : Session :=
  ⟨((Container.executeCommand (fun line => some [line]) "app" 0 ∅ "" 0 1 2).run oracle
    ⟨inContainer, []⟩).2.history, ⟨[⟨0, 1, false, none⟩], 1⟩, [], [⟨1, 0⟩]⟩

theorem step_withApplication (oracle : Oracle Sys)
    (attached : ((Container.executeCommand (fun line => some [line]) "app" 0 ∅ "" 0 1 2).run
      oracle ⟨inContainer, []⟩).1 = .ok (true, 1))
    (started : (new []).newEvents (withApplication oracle).history = [.started 1]) :
    Step oracle (new []) [] (withApplication oracle) := by
  have done : Explains (withApplication oracle).table [] [] (withApplication oracle).table :=
    .done .refl
  have explained : Explains (new []).table [.started 1] [] (withApplication oracle).table :=
    .started .refl (by decide) (List.forall_mem_nil _) done
  exact .startApplication inContainer (fun line => some [line]) "app" ∅ "" 0 1 2
    (Prod.ext attached rfl) (started.symm ▸ explained)

/-- While an application runs, a helper is started and waited for. -/
theorem jobs_reap_own_iff_besideApplication :
    ∃ waits last, waits.length = 1 ∧ last.applications = [⟨1, 0⟩] ∧
      Run startsTwo (new []) waits last ∧ (∀ wait ∈ waits, wait.ReapsOwn) ∧
      last.ExitIsThere ⟨1, 0⟩ := by
  let application : Process WaitStatus := ⟨0, 1, false, none⟩
  let helper : Process WaitStatus := ⟨1, 2, false, none⟩
  let running := withApplication startsTwo
  have start : Step startsTwo (new []) [] running :=
    step_withApplication startsTwo (by decide +kernel) (by decide +kernel)
  have explained : Explains running.table [.started 2, .waited 2 (some (.exited 0))]
      [⟨2, some helper, true⟩] ⟨[application], 2⟩ := by
    have waited : Explains ⟨[helper, application], 2⟩ [.waited 2 (some (.exited 0))]
        [⟨2, some helper, true⟩] ⟨[application], 2⟩ := by
      refine .waited .refl (.blocked _ List.mem_cons_self (.inr (.inr ⟨by decide, rfl⟩)) ?_)
        (.done .refl)
      exact List.forall_mem_cons.mpr
        ⟨fun _ => rfl, List.forall_mem_singleton.mpr fun _ => rfl⟩
    exact .started .refl (by decide) (List.forall_mem_singleton.mpr (by decide)) waited
  let ended := (Container.executeSync (.touch "/tmp/file") (-1)).run startsTwo
    ⟨inContainer, running.history⟩
  have events : running.newEvents ended.2.history =
      [.started 2, .waited 2 (some (.exited 0))] := by
    decide +kernel
  have ran : (Container.executeSync (.touch "/tmp/file") (-1)).run startsTwo
      ⟨inContainer, running.history⟩ = (ended.1, ended.2) := rfl
  have step := Step.executeSync inContainer (.touch "/tmp/file") (-1) ran
    (events.symm ▸ explained)
  rw [events] at step
  have run := (Run.step .nil start).step step
  have looks : ∀ wait ∈ [JobWait.mk running.table (some 1) ⟨2, some helper, true⟩],
      wait.LooksAtNone :=
    List.forall_mem_singleton.mpr (JobWait.looksAtNone_of_own rfl)
  obtain ⟨same, left⟩ := jobs_reap_own_iff startsTwo [] run
  exact ⟨_, _, rfl, rfl, run, same.mpr looks, left looks _ List.mem_cons_self⟩

def refusesFunctions : Oracle Sys
  | _, .lxc _ _ (.attach (.command ..) ..) => some 1
  | _, .lxc _ _ (.attach ..) => none
  | history, call => fortunate history call

/-- An application runs; a helper cannot be started, and the wait takes the application. -/
theorem failed_start_reaps_application :
    ¬ ∀ (oracle : Oracle Sys) (history : History Sys) (waits : List JobWait) (last : Session),
      Run oracle (new history) waits last →
        (∀ wait ∈ waits, wait.ReapsOwn) ∧
          ∀ listener ∈ last.applications, last.ExitIsThere listener := by
  intro claim
  let application : Process WaitStatus := ⟨0, 1, false, none⟩
  let running := withApplication refusesFunctions
  let ended := (Container.executeSync (.touch "/tmp/file") (-1)).run refusesFunctions
    ⟨inContainer, running.history⟩
  have start : Step refusesFunctions (new []) [] running :=
    step_withApplication refusesFunctions (by decide +kernel) (by decide +kernel)
  have helper : Step refusesFunctions running
      [⟨running.table, none, ⟨-1, some application, true⟩⟩]
      { running with history := ended.2.history, table := ⟨[], 1⟩ } := by
    have events : running.newEvents ended.2.history = [.waited (-1) (some (.exited 0))] := by
      decide +kernel
    have explained : Explains running.table [.waited (-1) (some (.exited 0))]
        [⟨-1, some application, true⟩] ⟨[], 1⟩ := by
      refine .waited .refl (.blocked _ List.mem_cons_self (.inl rfl) ?_) (.done .refl)
      exact List.forall_mem_singleton.mpr fun _ => rfl
    have ran : (Container.executeSync (.touch "/tmp/file") (-1)).run refusesFunctions
        ⟨inContainer, running.history⟩ = (ended.1, ended.2) := rfl
    have step := Step.executeSync inContainer (.touch "/tmp/file") (-1) ran
      (events.symm ▸ explained)
    rw [events] at step
    exact step
  have wait := (claim refusesFunctions [] _ _ ((Run.step .nil start).step helper)).1 _
    List.mem_cons_self
  exact absurd (wait.2 rfl).1 nofun

end Session

end SoftwareContainers
