import Mathlib.Logic.Function.Basic

namespace Effect

/-! Values on a heap, each with the number of references that are held to it.
Looking at a value after its last reference is gone has no result. -/

structure Cell (α : Type) where
  value : α
  references : Nat

namespace Cell

variable {α : Type}

def incref (cell : Cell α) : Option (Cell α) :=
  some { cell with references := cell.references + 1 }

def decref (cell : Cell α) : Option (Cell α) :=
  if cell.references ≤ 1 then none
  else some { cell with references := cell.references - 1 }

end Cell

structure Heap (α : Type) where
  cells : Nat → Option (Cell α)
  next : Nat
  unused : ∀ address, next ≤ address → cells address = none

namespace Heap

variable {α : Type}

def empty : Heap α := ⟨fun _ => none, 0, fun _ _ => rfl⟩

def read (heap : Heap α) (address : Nat) : Option α :=
  (heap.cells address).map Cell.value

theorem lt_next {heap : Heap α} {address : Nat} {cell : Cell α}
    (found : heap.cells address = some cell) : address < heap.next := by
  by_contra beyond
  rw [heap.unused address (Nat.le_of_not_lt beyond)] at found
  cases found

def allocate (heap : Heap α) (value : α) : Nat × Heap α :=
  (heap.next, {
    cells := Function.update heap.cells heap.next (some ⟨value, 1⟩)
    next := heap.next + 1
    unused := fun address beyond => by
      rw [Function.update_of_ne (by omega)]
      exact heap.unused address (by omega) })

def change (heap : Heap α) (address : Nat) (next : Cell α → Option (Cell α)) :
    Option (Heap α) :=
  match found : heap.cells address with
  | none => none
  | some cell => some {
      cells := Function.update heap.cells address (next cell)
      next := heap.next
      unused := fun other beyond => by
        rw [Function.update_of_ne (by have := lt_next found; omega)]
        exact heap.unused other beyond }

def write (heap : Heap α) (address : Nat) (value : α) : Option (Heap α) :=
  heap.change address fun cell => some { cell with value }

def incref (heap : Heap α) (address : Nat) : Option (Heap α) :=
  heap.change address Cell.incref

def decref (heap : Heap α) (address : Nat) : Option (Heap α) :=
  heap.change address Cell.decref

@[simp] theorem allocate_fst (heap : Heap α) (value : α) :
    (heap.allocate value).1 = heap.next := rfl

@[simp] theorem allocate_next (heap : Heap α) (value : α) :
    (heap.allocate value).2.next = heap.next + 1 := rfl

@[simp] theorem allocate_cells (heap : Heap α) (value : α) :
    (heap.allocate value).2.cells =
      Function.update heap.cells heap.next (some ⟨value, 1⟩) := rfl

theorem cells_allocate_self (heap : Heap α) (value : α) :
    (heap.allocate value).2.cells heap.next = some ⟨value, 1⟩ := by
  rw [allocate_cells, Function.update_self]

theorem cells_allocate_of_lt (heap : Heap α) (value : α) {address : Nat}
    (old : address < heap.next) : (heap.allocate value).2.cells address = heap.cells address := by
  rw [allocate_cells, Function.update_of_ne (Nat.ne_of_lt old)]

theorem change_eq_some {heap : Heap α} {address : Nat} {cell : Cell α}
    (found : heap.cells address = some cell) (next : Cell α → Option (Cell α)) :
    ∃ after, heap.change address next = some after ∧ after.next = heap.next ∧
      after.cells = Function.update heap.cells address (next cell) := by
  unfold change
  split
  · next missing => cases missing.symm.trans found
  · next other same =>
      cases same.symm.trans found
      exact ⟨_, rfl, rfl, rfl⟩

theorem write_eq_some {heap : Heap α} {address : Nat} {cell : Cell α}
    (found : heap.cells address = some cell) (value : α) :
    ∃ after, heap.write address value = some after ∧ after.next = heap.next ∧
      after.cells = Function.update heap.cells address (some { cell with value }) :=
  change_eq_some found _

theorem decref_eq_some_of_last {heap : Heap α} {address : Nat} {value : α}
    (found : heap.cells address = some ⟨value, 1⟩) :
    ∃ after, heap.decref address = some after ∧ after.next = heap.next ∧
      after.cells = Function.update heap.cells address none :=
  change_eq_some found _

theorem foldlM_change {ι : Type} (address : ι → Nat) (next : Cell α → Option (Cell α))
    {items : List ι} {heap : Heap α} (distinct : (items.map address).Nodup)
    (live : ∀ item ∈ items, ∃ cell, heap.cells (address item) = some cell) :
    ∃ after, items.foldlM (fun heap item => heap.change (address item) next) heap =
        some after ∧
      after.next = heap.next ∧
      ∀ other, after.cells other =
        if other ∈ items.map address then (heap.cells other).bind next
        else heap.cells other := by
  induction items generalizing heap with
  | nil => exact ⟨heap, rfl, rfl, fun _ => by simp⟩
  | cons item rest ih =>
      rw [List.map_cons, List.nodup_cons] at distinct
      obtain ⟨cell, found⟩ := live item (.head _)
      obtain ⟨middle, changed, nextMiddle, cells⟩ := change_eq_some found next
      have kept : ∀ other, other ≠ address item → middle.cells other = heap.cells other :=
        fun other different => by rw [cells, Function.update_of_ne different]
      have liveRest : ∀ later ∈ rest, ∃ cell, middle.cells (address later) = some cell := by
        intro later member
        rw [kept]
        · exact live later (.tail _ member)
        · exact fun same => distinct.1 (same ▸ List.mem_map_of_mem member)
      obtain ⟨after, ended, nextAfter, cellsAfter⟩ := ih distinct.2 liveRest
      refine ⟨after, ?_, nextAfter.trans nextMiddle, fun other => ?_⟩
      · rw [List.foldlM_cons, changed]
        exact ended
      · rw [cellsAfter, List.map_cons]
        by_cases same : other = address item
        · subst same
          rw [if_neg distinct.1, if_pos (List.mem_cons_self), cells, Function.update_self,
            found, Option.bind_some]
        · rw [kept other same]
          by_cases member : other ∈ rest.map address
          · rw [if_pos member, if_pos (List.mem_cons_of_mem _ member)]
          · rw [if_neg member, if_neg fun either => (List.mem_cons.mp either).elim same member]

end Heap

end Effect
