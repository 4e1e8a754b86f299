import SoftwareContainers.Effect.Entry
import SoftwareContainers.Effect.Hoare

namespace Effect

/-! Protocols: which calls are in turn, for any number of sessions at once.  A session is
told from the others by its name. -/

/-- A call that names no session may always be made; an event that is out of turn leads to no
phase. -/
structure Protocol (I : Interface) (κ φ : Type) where
  name : I.Call → Option κ
  initial : φ
  step : φ → Event I → Option φ

namespace Protocol

variable {I : Interface} {κ φ : Type} [DecidableEq κ] (protocol : Protocol I κ φ)

def next (name : κ) (phase : φ) (event : Event I) : Option φ :=
  if protocol.name event.call = some name then protocol.step phase event else some phase

/-- Where a session is after the events, if all of them were in turn. -/
def phase (name : κ) (history : History I) : Option φ :=
  history.foldlM (protocol.next name) protocol.initial

/-- The session called `name` is in a phase; where the others are is left as given. -/
structure At (name : κ) (others : κ → Option φ) (phase : φ) (history : History I) : Prop where
  own : protocol.phase name history = some phase
  others : ∀ other, other ≠ name → protocol.phase other history = others other

variable {protocol} {name : κ} {others : κ → Option φ} {phase : φ} {history : History I}

theorem phase_append (first second : History I) :
    protocol.phase name (first ++ second) =
      (protocol.phase name first).bind fun reached =>
        second.foldlM (protocol.next name) reached :=
  List.foldlM_append

theorem phase_concat (history : History I) (event : Event I) :
    protocol.phase name (history ++ [event]) =
      (protocol.phase name history).bind fun reached => protocol.next name reached event := by
  simp [phase_append]

theorem next_of_other {event : Event I} (other : protocol.name event.call ≠ some name) :
    protocol.next name phase event = some phase :=
  if_neg other

theorem next_of_named {event : Event I} (named : protocol.name event.call = some name) :
    protocol.next name phase event = protocol.step phase event :=
  if_pos named

theorem phase_append_of_others {recorded : History I}
    (elsewhere : ∀ event ∈ recorded, protocol.name event.call ≠ some name) :
    protocol.phase name (history ++ recorded) = protocol.phase name history := by
  induction recorded generalizing history with
  | nil => simp
  | cons event rest ih =>
      obtain ⟨other, tail⟩ := List.forall_mem_cons.mp elsewhere
      rw [List.append_cons, ih tail, phase_concat]
      cases protocol.phase name history with
      | none => rfl
      | some reached => exact next_of_other other

theorem At.step (isAt : protocol.At name others phase history) {event : Event I} {after : φ}
    (named : protocol.name event.call = some name)
    (stepped : protocol.step phase event = some after) :
    protocol.At name others after (history ++ [event]) where
  own := by
    rw [phase_concat, isAt.own]
    exact (next_of_named named).trans stepped
  others other different := by
    rw [phase_append_of_others, isAt.others other different]
    intro _ member
    rw [List.mem_singleton.mp member, named]
    exact fun same => different (Option.some.inj same).symm

variable (protocol name phase) in
def Idle (event : Event I) : Prop :=
  protocol.name event.call = none ∨
    (protocol.name event.call = some name ∧ protocol.step phase event = some phase)

theorem At.append (isAt : protocol.At name others phase history) {recorded : History I}
    (idle : ∀ event ∈ recorded, protocol.Idle name phase event) :
    protocol.At name others phase (history ++ recorded) := by
  induction recorded generalizing history with
  | nil => simpa using isAt
  | cons event rest ih =>
      obtain ⟨first, tail⟩ := List.forall_mem_cons.mp idle
      rw [List.append_cons]
      refine ih ?_ tail
      rcases first with unnamed | ⟨named, stays⟩
      · constructor
        · rw [phase_append_of_others (by simp [unnamed]), isAt.own]
        · intro other different
          rw [phase_append_of_others (by simp [unnamed]), isAt.others other different]
      · exact isAt.step named stays

end Protocol

theorem Act.Keeps.maintains_at {I : Interface} {κ φ ε σ α : Type} [DecidableEq κ]
    {protocol : Protocol I κ φ} {name : κ} {others : κ → Option φ} {phase : φ}
    {fair : Event I → Prop} {inv : σ → Prop} {may : ε → Prop} {act : Act I ε σ α}
    (kept : Act.Keeps inv (protocol.Idle name phase) may act) :
    Act.Maintains fair (fun world => inv world.state ∧
      protocol.At name others phase world.history) act := by
  intro oracle _ world holds
  obtain ⟨after, ⟨recorded, grown, idle⟩, _⟩ := kept oracle world holds.1
  exact ⟨after, grown ▸ holds.2.append idle⟩

/-! A table whose entries have one session each. -/

section

variable {I : Interface} {κ φ ι τ : Type} [DecidableEq κ] [Ord ι] [Std.TransOrd ι]

structure Protocol.Ledger (protocol : Protocol I κ φ) (nameOf : ι → κ) (phaseOf : τ → φ)
    (entries : Std.ExtTreeMap ι τ) (history : History I) : Prop where
  entry : ∀ key entry, entries[key]? = some entry →
    protocol.phase (nameOf key) history = some (phaseOf entry)
  closed : ∀ name, (∀ key ∈ entries, nameOf key ≠ name) →
    protocol.phase name history = some protocol.initial

namespace Protocol.Ledger

variable {protocol : Protocol I κ φ} {nameOf : ι → κ} {phaseOf : τ → φ}
  {entries : Std.ExtTreeMap ι τ} {before after : History I}

theorem empty : protocol.Ledger nameOf phaseOf (∅ : Std.ExtTreeMap ι τ) [] where
  entry _ _ found := by simp at found
  closed _ _ := rfl

theorem append (ledger : protocol.Ledger nameOf phaseOf entries before) {recorded : History I}
    (unnamed : ∀ event ∈ recorded, protocol.name event.call = none) :
    protocol.Ledger nameOf phaseOf entries (before ++ recorded) where
  entry key entry found := by
    rw [phase_append_of_others fun event member => by simp [unnamed event member]]
    exact ledger.entry key entry found
  closed name noKey := by
    rw [phase_append_of_others fun event member => by simp [unnamed event member]]
    exact ledger.closed name noKey

theorem isAt (ledger : protocol.Ledger nameOf phaseOf entries before) {key : ι} {entry : τ}
    (found : entries[key]? = some entry) :
    protocol.At (nameOf key) (fun name => protocol.phase name before) (phaseOf entry) before :=
  ⟨ledger.entry key entry found, fun _ _ => rfl⟩

section

variable (injective : Function.Injective nameOf)

include injective

theorem isAt_initial (ledger : protocol.Ledger nameOf phaseOf entries before) {key : ι}
    (missing : key ∉ entries) :
    protocol.At (nameOf key) (fun name => protocol.phase name before) protocol.initial before where
  own := ledger.closed _ fun _ member same => missing (injective same ▸ member)
  others _ _ := rfl

theorem entry_of_ne (ledger : protocol.Ledger nameOf phaseOf entries before) {key other : ι}
    {phase : φ} {entry : τ}
    (now : protocol.At (nameOf key) (fun name => protocol.phase name before) phase after)
    (different : ¬ compare key other = .eq) (found : entries[other]? = some entry) :
    protocol.phase (nameOf other) after = some (phaseOf entry) := by
  have notKey : other ≠ key := by
    intro same
    rw [same] at different
    exact different Std.ReflCmp.compare_self
  rw [now.others _ (injective.ne notKey)]
  exact ledger.entry other entry found

variable [Std.LawfulEqOrd ι]

theorem insert (ledger : protocol.Ledger nameOf phaseOf entries before) {key : ι} {entry : τ}
    (now : protocol.At (nameOf key) (fun name => protocol.phase name before) (phaseOf entry)
      after) :
    protocol.Ledger nameOf phaseOf (entries.insert key entry) after where
  entry other found isFound := by
    rw [Std.ExtTreeMap.getElem?_insert] at isFound
    split at isFound
    · rename_i same
      cases isFound
      rw [← Std.LawfulEqOrd.eq_of_compare same]
      exact now.own
    · rename_i different
      exact ledger.entry_of_ne injective now different isFound
  closed name unnamed := by
    have notKey : name ≠ nameOf key :=
      fun same => unnamed key (by simp) same.symm
    rw [now.others name notKey]
    exact ledger.closed name fun other member => unnamed other (by simp [member])

theorem erase (ledger : protocol.Ledger nameOf phaseOf entries before) {key : ι}
    (now : protocol.At (nameOf key) (fun name => protocol.phase name before) protocol.initial
      after) :
    protocol.Ledger nameOf phaseOf (entries.erase key) after where
  entry other found isFound := by
    rw [Std.ExtTreeMap.getElem?_erase] at isFound
    split at isFound
    · cases isFound
    · rename_i different
      exact ledger.entry_of_ne injective now different isFound
  closed name unnamed := by
    by_cases isKey : name = nameOf key
    · rw [isKey]
      exact now.own
    · rw [now.others name isKey]
      refine ledger.closed name fun other member => ?_
      by_cases same : other = key
      · rw [same]
        exact Ne.symm isKey
      · refine unnamed other ?_
        rw [Std.ExtTreeMap.mem_erase]
        exact ⟨fun equal => same (Std.LawfulEqOrd.eq_of_compare equal).symm, member⟩

theorem pass (ledger : protocol.Ledger nameOf phaseOf entries before) {key : ι}
    (missing : key ∉ entries)
    (now : protocol.At (nameOf key) (fun name => protocol.phase name before) protocol.initial
      after) :
    protocol.Ledger nameOf phaseOf entries after := by
  have unchanged : entries.erase key = entries := by
    refine Std.ExtTreeMap.ext_getElem? fun other => ?_
    rw [Std.ExtTreeMap.getElem?_erase]
    split
    · rename_i equal
      rw [← Std.LawfulEqOrd.eq_of_compare equal, Std.ExtTreeMap.getElem?_eq_none missing]
    · rfl
  rw [← unchanged]
  exact ledger.erase injective now

end

end Protocol.Ledger

end

end Effect
