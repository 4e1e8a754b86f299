import Mathlib.Data.List.Nodup

namespace Processes

/-! The children of a process: they are started, they end, and they stay until they are
waited for. -/

variable {σ : Type}

/-- A process id may come back, a number does not. -/
structure Process (σ : Type) where
  number : Nat
  pid : Int
  sameGroup : Bool
  ended : Option σ

def Process.Matches (process : Process σ) (pid : Int) : Prop :=
  pid = -1 ∨ pid = 0 ∧ process.sameGroup = true ∨ 0 < pid ∧ process.pid = pid

structure Table (σ : Type) where
  children : List (Process σ)
  started : Nat

/-- A call of `waitpid`: what it was asked for and what it did. -/
structure Waited (σ : Type) where
  asked : Int
  reaped : Option (Process σ)
  blocked : Bool

inductive ProcessEvent (σ : Type) where
  | started (pid : Int)
  | waited (pid : Int) (answer : Option σ)
  deriving DecidableEq, Repr

namespace Table

def start (table : Table σ) (pid : Int) (sameGroup : Bool) : Table σ where
  children := ⟨table.started, pid, sameGroup, none⟩ :: table.children
  started := table.started + 1

def finishAs (number : Nat) (status : σ) (process : Process σ) : Process σ :=
  if process.number = number ∧ process.ended = none then
    { process with ended := some status }
  else
    process

def finish (table : Table σ) (number : Nat) (status : σ) : Table σ :=
  { table with children := table.children.map (finishAs number status) }

def reap (table : Table σ) (number : Nat) : Table σ :=
  { table with children := table.children.filter (·.number ≠ number) }

def Has (table : Table σ) (number : Nat) (pid : Int) : Prop :=
  ∃ process ∈ table.children, process.number = number ∧ process.pid = pid

def Unmatched (table : Table σ) (pid : Int) : Prop :=
  ∀ process ∈ table.children, ¬ process.Matches pid

def Keeps (table later : Table σ) : Prop :=
  ∀ number pid, table.Has number pid → later.Has number pid

structure Sound (table : Table σ) : Prop where
  pid_pos : ∀ process ∈ table.children, 0 < process.pid
  number_lt : ∀ process ∈ table.children, process.number < table.started
  pids : (table.children.map (·.pid)).Nodup

inductive Finishes (table : Table σ) : Table σ → Prop
  | refl : Finishes table table
  | finish {later : Table σ} (number : Nat) (status : σ) :
      Finishes table later → Finishes table (later.finish number status)

/-- `waitpid`: it fails when it looks at no child, takes one that has ended, or waits for
one of them to end. -/
inductive Waits (table : Table σ) (pid : Int) : Waited σ → Option σ → Table σ → Prop
  | noChild : table.Unmatched pid → Waits table pid ⟨pid, none, false⟩ none table
  | zombie {process : Process σ} {status : σ} :
      process ∈ table.children → process.Matches pid → process.ended = some status →
      Waits table pid ⟨pid, some process, false⟩ (some status) (table.reap process.number)
  | blocked {process : Process σ} (status : σ) :
      process ∈ table.children → process.Matches pid →
      (∀ other ∈ table.children, other.Matches pid → other.ended = none) →
      Waits table pid ⟨pid, some process, true⟩ (some status) (table.reap process.number)

/-- What the kernel does while these events are recorded; a new process has an id that no
child has. -/
inductive Explains : Table σ → List (ProcessEvent σ) → List (Waited σ) → Table σ → Prop
  | done {table later : Table σ} : Finishes table later → Explains table [] [] later
  | started {table later last : Table σ} {pid : Int} {sameGroup : Bool}
      {events : List (ProcessEvent σ)} {waits : List (Waited σ)} :
      Finishes table later → 0 < pid → (∀ process ∈ later.children, process.pid ≠ pid) →
      Explains (later.start pid sameGroup) events waits last →
      Explains table (.started pid :: events) waits last
  | waited {table later next last : Table σ} {pid : Int} {answer : Option σ}
      {waited : Waited σ} {events : List (ProcessEvent σ)} {waits : List (Waited σ)} :
      Finishes table later → Waits later pid waited answer next →
      Explains next events waits last →
      Explains table (.waited pid answer :: events) (waited :: waits) last

variable {table later : Table σ} {number : Nat} {pid : Int}

@[simp] theorem number_finishAs (status : σ) (process : Process σ) :
    (finishAs number status process).number = process.number := by
  rw [finishAs]
  split <;> rfl

@[simp] theorem pid_finishAs (status : σ) (process : Process σ) :
    (finishAs number status process).pid = process.pid := by
  rw [finishAs]
  split <;> rfl

@[simp] theorem matches_finishAs (status : σ) (process : Process σ) :
    (finishAs number status process).Matches pid ↔ process.Matches pid := by
  rw [finishAs]
  split <;> exact Iff.rfl

theorem Has.finish {number' : Nat} (has : table.Has number pid) (status : σ) :
    (table.finish number' status).Has number pid := by
  obtain ⟨process, member, isNumber, isPid⟩ := has
  exact ⟨_, List.mem_map_of_mem member, by simpa using isNumber, by simpa using isPid⟩

theorem unmatched_finish (number : Nat) (status : σ) :
    (table.finish number status).Unmatched pid ↔ table.Unmatched pid := by
  simp [Unmatched, Table.finish]

theorem Sound.finish (sound : table.Sound) (number : Nat) (status : σ) :
    (table.finish number status).Sound := by
  constructor
  · simpa [Table.finish] using sound.pid_pos
  · simpa [Table.finish] using sound.number_lt
  · rw [Table.finish, List.map_map]
    have same : (·.pid) ∘ finishAs number status = (·.pid) :=
      funext fun process => pid_finishAs status process
    rw [same]
    exact sound.pids

section

variable (finishes : Finishes table later)

include finishes

theorem Finishes.has (has : table.Has number pid) : later.Has number pid := by
  induction finishes with
  | refl => exact has
  | finish number status _ ih => exact ih.finish status

theorem Finishes.unmatched_iff : later.Unmatched pid ↔ table.Unmatched pid := by
  induction finishes with
  | refl => exact Iff.rfl
  | finish number status _ ih => exact (unmatched_finish number status).trans ih

theorem Finishes.sound (sound : table.Sound) : later.Sound := by
  induction finishes with
  | refl => exact sound
  | finish number status _ ih => exact ih.finish number status

theorem Finishes.started_eq : later.started = table.started := by
  induction finishes with
  | refl => rfl
  | finish number status _ ih => exact ih

end

theorem Has.start (has : table.Has number pid) (pid' : Int) (sameGroup : Bool) :
    (table.start pid' sameGroup).Has number pid := by
  obtain ⟨process, member, same⟩ := has
  exact ⟨process, List.mem_cons_of_mem _ member, same⟩

theorem has_start (pid : Int) (sameGroup : Bool) :
    (table.start pid sameGroup).Has table.started pid :=
  ⟨_, List.mem_cons_self, rfl, rfl⟩

theorem Sound.start (sound : table.Sound) (positive : 0 < pid)
    (fresh : ∀ process ∈ table.children, process.pid ≠ pid) (sameGroup : Bool) :
    (table.start pid sameGroup).Sound := by
  constructor
  · exact List.forall_mem_cons.mpr ⟨positive, sound.pid_pos⟩
  · exact List.forall_mem_cons.mpr ⟨Nat.lt_succ_self _, fun process member =>
      Nat.lt_succ_of_lt (sound.number_lt process member)⟩
  · refine List.nodup_cons.mpr ⟨fun member => ?_, sound.pids⟩
    obtain ⟨process, isChild, same⟩ := List.mem_map.mp member
    exact fresh process isChild same

theorem Has.reap {other : Nat} (has : table.Has number pid) (differs : number ≠ other) :
    (table.reap other).Has number pid := by
  obtain ⟨process, member, isNumber, isPid⟩ := has
  exact ⟨process, List.mem_filter.mpr ⟨member, by simpa [isNumber] using differs⟩,
    isNumber, isPid⟩

theorem Sound.reap (sound : table.Sound) (number : Nat) : (table.reap number).Sound := by
  have smaller : (table.reap number).children.Sublist table.children := List.filter_sublist
  exact ⟨fun process member => sound.pid_pos process (smaller.subset member),
    fun process member => sound.number_lt process (smaller.subset member),
    sound.pids.sublist (smaller.map _)⟩

theorem Waits.sound {waited : Waited σ} {answer : Option σ}
    (waits : Waits table pid waited answer later) (sound : table.Sound) : later.Sound := by
  cases waits with
  | noChild => exact sound
  | zombie => exact sound.reap _
  | blocked => exact sound.reap _

theorem Waits.unmatched_iff {waited : Waited σ} {answer : Option σ}
    (waits : Waits table pid waited answer later) :
    (waited.reaped = none ∧ waited.blocked = false) ↔ table.Unmatched pid := by
  cases waits with
  | noChild unmatched => exact ⟨fun _ => unmatched, fun _ => ⟨rfl, rfl⟩⟩
  | zombie member isMatch => exact ⟨nofun, fun unmatched => absurd isMatch (unmatched _ member)⟩
  | blocked _ member isMatch =>
      exact ⟨nofun, fun unmatched => absurd isMatch (unmatched _ member)⟩

theorem Waits.eq_of_unmatched {waited : Waited σ} {answer : Option σ}
    (waits : Waits table pid waited answer later) (unmatched : table.Unmatched pid) :
    later = table := by
  cases waits with
  | noChild => rfl
  | zombie member isMatch => exact absurd isMatch (unmatched _ member)
  | blocked _ member isMatch => exact absurd isMatch (unmatched _ member)

/-- The child with the process id is the only one that the wait looks at. -/
theorem Sound.number_of_matches (sound : table.Sound) (has : table.Has number pid)
    {process : Process σ} (member : process ∈ table.children) (isMatch : process.Matches pid) :
    process.number = number := by
  obtain ⟨own, ownMember, isNumber, isPid⟩ := has
  have positive : 0 < pid := isPid ▸ sound.pid_pos own ownMember
  rcases isMatch with rfl | ⟨rfl, _⟩ | ⟨_, samePid⟩
  · exact absurd positive (by decide)
  · exact absurd positive (by decide)
  · rw [← isNumber]
    exact congrArg _ (List.inj_on_of_nodup_map sound.pids member ownMember
      (samePid.trans isPid.symm))

theorem Waits.own {waited : Waited σ} {answer : Option σ}
    (waits : Waits table pid waited answer later) (sound : table.Sound)
    (has : table.Has number pid) :
    (∀ process, waited.reaped = some process → process.number = number) ∧
      later = table.reap number := by
  cases waits with
  | noChild unmatched =>
      obtain ⟨own, member, _, isPid⟩ := has
      refine absurd (.inr (.inr ⟨?_, isPid⟩)) (unmatched own member)
      exact isPid ▸ sound.pid_pos own member
  | zombie member isMatch =>
      have same := sound.number_of_matches has member isMatch
      exact ⟨fun process reaped => Option.some.inj reaped ▸ same, by rw [same]⟩
  | blocked _ member isMatch =>
      have same := sound.number_of_matches has member isMatch
      exact ⟨fun process reaped => Option.some.inj reaped ▸ same, by rw [same]⟩

theorem Explains.of_done {waits : List (Waited σ)} (explained : Explains table [] waits later) :
    waits = [] ∧ Finishes table later := by
  cases explained with
  | done finishes => exact ⟨rfl, finishes⟩

theorem Explains.of_started {last : Table σ} {events : List (ProcessEvent σ)}
    {waits : List (Waited σ)} (explained : Explains table (.started pid :: events) waits last) :
    ∃ later sameGroup, Finishes table later ∧ 0 < pid ∧
      (∀ process ∈ later.children, process.pid ≠ pid) ∧
      Explains (later.start pid sameGroup) events waits last := by
  cases explained with
  | started finishes positive fresh rest =>
      exact ⟨_, _, finishes, positive, fresh, rest⟩

theorem Explains.of_waited {last : Table σ} {answer : Option σ}
    {events : List (ProcessEvent σ)} {waits : List (Waited σ)}
    (explained : Explains table (.waited pid answer :: events) waits last) :
    ∃ later waited next rest, Finishes table later ∧ Waits later pid waited answer next ∧
      waits = waited :: rest ∧ Explains next events rest last := by
  cases explained with
  | waited finishes waits rest => exact ⟨_, _, _, _, finishes, waits, rfl, rest⟩

theorem Keeps.trans {last : Table σ} (first : table.Keeps later) (second : later.Keeps last) :
    table.Keeps last :=
  fun number pid has => second number pid (first number pid has)

theorem Finishes.keeps (finishes : Finishes table later) : table.Keeps later :=
  fun _ _ has => finishes.has has

theorem Has.number_lt (has : table.Has number pid) (sound : table.Sound) :
    number < table.started := by
  obtain ⟨process, member, rfl, _⟩ := has
  exact sound.number_lt process member

theorem Waits.asked_eq {waited : Waited σ} {answer : Option σ}
    (waits : Waits table pid waited answer later) : waited.asked = pid := by
  cases waits <;> rfl

theorem Explains.start {waits : List (Waited σ)}
    (explained : Explains table [.started pid] waits later) (sound : table.Sound) :
    waits = [] ∧ later.Sound ∧ table.Keeps later ∧ later.Has table.started pid := by
  obtain ⟨middle, sameGroup, finishes, positive, fresh, rest⟩ := explained.of_started
  obtain ⟨none, finishes'⟩ := rest.of_done
  refine ⟨none, finishes'.sound ((finishes.sound sound).start positive fresh sameGroup), ?_, ?_⟩
  · exact (finishes.keeps.trans fun _ _ has => has.start pid sameGroup).trans finishes'.keeps
  · exact finishes'.has (finishes.started_eq ▸ has_start pid sameGroup)

theorem Explains.waitOwn {answer : Option σ} {waits : List (Waited σ)}
    (explained : Explains table [.waited pid answer] waits later) (sound : table.Sound)
    (has : table.Has number pid) :
    later.Sound ∧
      (∀ waited ∈ waits, ∀ process, waited.reaped = some process → process.number = number) ∧
      ∀ other pid', other ≠ number → table.Has other pid' → later.Has other pid' := by
  obtain ⟨middle, waited, next, rest, finishes, waitsFor, rfl, last⟩ := explained.of_waited
  obtain ⟨rfl, finishes'⟩ := last.of_done
  have middleSound := finishes.sound sound
  obtain ⟨own, rfl⟩ := waitsFor.own middleSound (finishes.has has)
  refine ⟨finishes'.sound (waitsFor.sound middleSound), ?_, fun other pid' differs hasOther => ?_⟩
  · simpa using own
  · exact finishes'.has ((finishes.has hasOther).reap differs)

theorem Explains.waitAny {answer : Option σ} {waits : List (Waited σ)}
    (explained : Explains table [.waited pid answer] waits later) (sound : table.Sound) :
    later.Sound ∧
      ∃ waited, waits = [waited] ∧ waited.asked = pid ∧
        ((waited.reaped = none ∧ waited.blocked = false) ↔ table.Unmatched pid) ∧
        (table.Unmatched pid → table.Keeps later) := by
  obtain ⟨middle, waited, next, rest, finishes, waitsFor, rfl, last⟩ := explained.of_waited
  obtain ⟨rfl, finishes'⟩ := last.of_done
  refine ⟨finishes'.sound (waitsFor.sound (finishes.sound sound)), waited, rfl,
    waitsFor.asked_eq, ?_, fun unmatched => ?_⟩
  · exact waitsFor.unmatched_iff.trans finishes.unmatched_iff
  · obtain rfl := waitsFor.eq_of_unmatched (finishes.unmatched_iff.mpr unmatched)
    exact finishes.keeps.trans finishes'.keeps

end Table

end Processes
