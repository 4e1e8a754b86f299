import SoftwareContainers.Base.Json
import SoftwareContainers.Base.Map
import SoftwareContainers.Effect.Heap

namespace SoftwareContainers

open Effect

/-! `class GatewayConfiguration` as it is in memory: a map from gateway ids to JSON
arrays on the heap.  The elements of an array are never changed. -/

abbrev JsonHeap := Heap (List Json)

structure GatewayConfig where
  configMap : Std.ExtTreeMap String Nat

/-- What the class is for: a map from gateway ids to lists of JSON values. -/
abbrev PlainConfig := Std.ExtTreeMap String (List Json)

namespace PlainConfig

def append (self : PlainConfig) (id : String) (elements : List Json) : PlainConfig :=
  self.insert id (self.getD id [] ++ elements)

def appendAll (self source : PlainConfig) : PlainConfig :=
  source.toList.foldl (fun self item => self.append item.1 item.2) self

theorem getElem?_append (self : PlainConfig) (id other : String) (elements : List Json) :
    (self.append id elements)[other]? =
      if id = other then some (self[other]?.getD [] ++ elements) else self[other]? := by
  rw [append, getElem?_insert, Std.ExtTreeMap.getD_eq_getD_getElem?]
  split
  · next same => rw [same]
  · rfl

theorem getElem?_foldl_append_of_missing {items : List (String × List Json)} {id : String}
    (missing : ∀ item ∈ items, item.1 ≠ id) (self : PlainConfig) :
    (items.foldl (fun self item => self.append item.1 item.2) self)[id]? = self[id]? := by
  induction items generalizing self with
  | nil => rfl
  | cons item items ih =>
      rw [List.foldl_cons, ih fun later member => missing later (.tail _ member),
        getElem?_append, if_neg (missing item (.head _))]

theorem getElem?_foldl_append_of_mem {items : List (String × List Json)} {id : String}
    {elements : List Json} (distinct : items.Pairwise fun first second => first.1 ≠ second.1)
    (member : (id, elements) ∈ items) (self : PlainConfig) :
    (items.foldl (fun self item => self.append item.1 item.2) self)[id]? =
      some (self[id]?.getD [] ++ elements) := by
  induction items generalizing self with
  | nil => cases member
  | cons item items ih =>
      obtain ⟨first, rest⟩ := List.pairwise_cons.mp distinct
      rw [List.foldl_cons]
      rcases List.mem_cons.mp member with rfl | later
      · rw [getElem?_foldl_append_of_missing fun item isLater => (first item isLater).symm,
          getElem?_append, if_pos rfl]
      · rw [ih rest later, getElem?_append, if_neg (first (id, elements) later)]

/-- What is found for an id after all has been appended. -/
theorem getElem?_appendAll (self source : PlainConfig) (id : String) :
    (self.appendAll source)[id]? =
      match source[id]? with
      | none => self[id]?
      | some elements => some (self[id]?.getD [] ++ elements) := by
  cases found : source[id]? with
  | none =>
      refine getElem?_foldl_append_of_missing (fun item member same => ?_) self
      have isItem := Std.ExtTreeMap.mem_toList_iff_getElem?_eq_some.mp member
      rw [same, found] at isItem
      cases isItem
  | some elements =>
      refine getElem?_foldl_append_of_mem (Std.ExtTreeMap.distinct_keys_toList.imp ?_)
        (Std.ExtTreeMap.mem_toList_iff_getElem?_eq_some.mpr found) self
      exact fun different same => different (Std.LawfulEqOrd.compare_eq_iff_eq.mpr same)

theorem appendAll_empty (self : PlainConfig) : appendAll ∅ self = self := by
  apply Std.ExtTreeMap.ext_getElem?
  intro id
  rw [getElem?_appendAll]
  cases self[id]? with
  | none => simp
  | some elements => simp

end PlainConfig

namespace GatewayConfig

def new : GatewayConfig := ⟨∅⟩

/-- `json_deep_copy` of an array. -/
def deepCopy (address : Nat) (heap : JsonHeap) : Option (Nat × JsonHeap) :=
  (heap.read address).map heap.allocate

/-- `json_array_append`. -/
def arrayAppend (array : Nat) (value : Json) (heap : JsonHeap) : Option JsonHeap := do
  heap.write array ((← heap.read array) ++ [value])

/-- The `json_array_foreach` of `append`: the size of the source is looked at before each
step.  There is no result when the steps do not suffice. -/
def appendElements (source destination : Nat) :
    Nat → Nat → JsonHeap → Option JsonHeap
  | 0, _, _ => none
  | steps + 1, index, heap => do
      match (← heap.read source)[index]? with
      | none => return heap
      | some value =>
          let heap ← arrayAppend destination value heap
          appendElements source destination steps (index + 1) heap

/-- The backup is for an append that fails for want of memory. -/
def append (id : String) (source : Nat) (self : GatewayConfig) (heap : JsonHeap) :
    Option (GatewayConfig × JsonHeap) := do
  match self.configMap[id]? with
  | some destination =>
      let (backup, heap) ← deepCopy destination heap
      let steps := (← heap.read source).length + 1
      let heap ← appendElements source destination steps 0 heap
      let heap ← heap.decref backup
      return (self, heap)
  | none =>
      let (copy, heap) ← deepCopy source heap
      return (⟨self.configMap.insert id copy⟩, heap)

def appendItems : List (String × Nat) → GatewayConfig → JsonHeap →
    Option (GatewayConfig × JsonHeap)
  | [], self, heap => some (self, heap)
  | (id, source) :: rest, self, heap => do
      let (self, heap) ← append id source self heap
      appendItems rest self heap

def appendAll (source self : GatewayConfig) (heap : JsonHeap) :
    Option (GatewayConfig × JsonHeap) :=
  appendItems source.configMap.toList self heap

/-- The copy constructor. -/
def copy (source : GatewayConfig) (heap : JsonHeap) : Option (GatewayConfig × JsonHeap) :=
  appendAll source new heap

/-- `operator=`: the arrays are shared from then on. -/
def assign (source : GatewayConfig) (heap : JsonHeap) : Option (GatewayConfig × JsonHeap) := do
  let heap ← source.configMap.toList.foldlM (fun heap item => heap.incref item.2) heap
  return (⟨source.configMap⟩, heap)

def destructor (self : GatewayConfig) (heap : JsonHeap) : Option JsonHeap :=
  self.configMap.toList.foldlM (fun heap item => heap.decref item.2) heap

/-- The caller gets a copy of its own. -/
def config (self : GatewayConfig) (gatewayId : String) (heap : JsonHeap) :
    Option (List Json) :=
  self.configMap[gatewayId]?.bind heap.read

def isEmpty (self : GatewayConfig) : Bool := self.configMap.isEmpty

def ids (self : GatewayConfig) : List String := self.configMap.keys

/-! The loop over the elements. -/

section

variable {source destination : Nat} {elements old : List Json} {heap : JsonHeap}

theorem read_eq_some {address references : Nat}
    (found : heap.cells address = some ⟨elements, references⟩) :
    heap.read address = some elements := by
  rw [Heap.read, found]
  rfl

theorem arrayAppend_eq_some {references : Nat} (value : Json)
    (found : heap.cells destination = some ⟨old, references⟩) :
    ∃ after, arrayAppend destination value heap = some after ∧ after.next = heap.next ∧
      after.cells = Function.update heap.cells destination
        (some ⟨old ++ [value], references⟩) := by
  obtain ⟨after, written, next, cells⟩ := Heap.write_eq_some found (old ++ [value])
  exact ⟨after, by rw [arrayAppend, read_eq_some found]; exact written, next, cells⟩

theorem appendElements_succ (steps index : Nat)
    (found : heap.read source = some elements) :
    appendElements source destination (steps + 1) index heap =
      match elements[index]? with
      | none => some heap
      | some value => (arrayAppend destination value heap).bind
          (appendElements source destination steps (index + 1)) := by
  rw [appendElements, found, Option.bind_eq_bind, Option.bind_some]
  cases elements[index]? with
  | none => rfl
  | some value => rfl

theorem appendElements_of_distinct {references held steps index : Nat}
    (distinct : source ≠ destination)
    (sourceCell : heap.cells source = some ⟨elements, held⟩)
    (destinationCell : heap.cells destination = some ⟨old, references⟩)
    (started : index ≤ elements.length) (enough : elements.length < index + steps) :
    ∃ after, appendElements source destination steps index heap = some after ∧
      after.next = heap.next ∧
      after.cells = Function.update heap.cells destination
        (some ⟨old ++ elements.drop index, references⟩) := by
  induction steps generalizing index old heap with
  | zero => omega
  | succ steps ih =>
      rw [appendElements_succ steps index (read_eq_some sourceCell)]
      cases found : elements[index]? with
      | none =>
          have dropped : elements.drop index = [] :=
            List.drop_eq_nil_of_le (List.getElem?_eq_none_iff.mp found)
          refine ⟨heap, rfl, rfl, ?_⟩
          rw [dropped, List.append_nil, ← destinationCell, Function.update_eq_self]
      | some value =>
          obtain ⟨middle, appended, next, cells⟩ := arrayAppend_eq_some value destinationCell
          have sourceKept : middle.cells source = some ⟨elements, held⟩ := by
            rw [cells, Function.update_of_ne distinct, sourceCell]
          have destinationAppended :
              middle.cells destination = some ⟨old ++ [value], references⟩ := by
            rw [cells, Function.update_self]
          obtain ⟨inside, isValue⟩ := List.getElem?_eq_some_iff.mp found
          obtain ⟨after, ended, nextAfter, cellsAfter⟩ :=
            ih sourceKept destinationAppended inside (by omega)
          refine ⟨after, ?_, nextAfter.trans next, ?_⟩
          · dsimp only
            rw [appended]
            exact ended
          · have dropped : elements.drop index = value :: elements.drop (index + 1) := by
              rw [← isValue]
              exact List.drop_eq_getElem_cons inside
            rw [cellsAfter, cells, Function.update_idem, dropped, List.append_assoc,
              List.singleton_append]

theorem appendElements_of_aliased {references index : Nat} (steps : Nat)
    (found : heap.cells destination = some ⟨old, references⟩)
    (inside : index < old.length) :
    appendElements destination destination steps index heap = none := by
  induction steps generalizing index old heap with
  | zero => rfl
  | succ steps ih =>
      obtain ⟨middle, appended, _, cells⟩ := arrayAppend_eq_some old[index] found
      rw [appendElements_succ steps index (read_eq_some found),
        List.getElem?_eq_getElem inside]
      dsimp only
      rw [appended]
      apply ih
      · rw [cells, Function.update_self]
      · rw [List.length_append, List.length_singleton]
        omega

end

/-! What `append` does to a heap. -/

section

variable {id : String} {source : Nat} {elements : List Json} {self : GatewayConfig}
  {heap : JsonHeap} {held : Nat}

theorem appendElements_of_apart {destination references : Nat} {old : List Json}
    (apart : source = destination → elements = [])
    (sourceCell : heap.cells source = some ⟨elements, held⟩)
    (destinationCell : heap.cells destination = some ⟨old, references⟩) :
    ∃ after, appendElements source destination (elements.length + 1) 0 heap = some after ∧
      after.next = heap.next ∧
      after.cells = Function.update heap.cells destination
        (some ⟨old ++ elements, references⟩) := by
  by_cases same : source = destination
  · have none : elements = [] := apart same
    refine ⟨heap, ?_, rfl, ?_⟩
    · rw [appendElements_succ _ _ (read_eq_some sourceCell), none]
      rfl
    · rw [none, List.append_nil, ← destinationCell, Function.update_eq_self]
  · exact appendElements_of_distinct same sourceCell destinationCell (Nat.zero_le _) (by omega)

theorem append_of_found {destination references : Nat} {old : List Json}
    (found : self.configMap[id]? = some destination)
    (apart : source = destination → elements = [])
    (sourceCell : heap.cells source = some ⟨elements, held⟩)
    (destinationCell : heap.cells destination = some ⟨old, references⟩) :
    ∃ after, append id source self heap = some (self, after) ∧
      after.next = heap.next + 1 ∧
      after.cells = Function.update heap.cells destination
        (some ⟨old ++ elements, references⟩) := by
  have destinationOld : destination ≠ heap.next := Nat.ne_of_lt (Heap.lt_next destinationCell)
  have sourceKept : (heap.allocate old).2.cells source = some ⟨elements, held⟩ := by
    rw [Heap.cells_allocate_of_lt heap old (Heap.lt_next sourceCell), sourceCell]
  have destinationKept :
      (heap.allocate old).2.cells destination = some ⟨old, references⟩ := by
    rw [Heap.cells_allocate_of_lt heap old (Heap.lt_next destinationCell), destinationCell]
  obtain ⟨middle, appended, next, cells⟩ :=
    appendElements_of_apart apart sourceKept destinationKept
  have backup : middle.cells heap.next = some ⟨old, 1⟩ := by
    rw [cells, Function.update_of_ne destinationOld.symm, Heap.cells_allocate_self]
  obtain ⟨after, released, nextAfter, cellsAfter⟩ := Heap.decref_eq_some_of_last backup
  refine ⟨after, ?_, ?_, ?_⟩
  · unfold append deepCopy
    rw [found]
    simp only [read_eq_some destinationCell, read_eq_some sourceKept, Option.map_some,
      Option.bind_eq_bind, Option.bind_some, Heap.allocate_fst]
    rw [appended, Option.bind_some, released]
    rfl
  · rw [nextAfter, next, Heap.allocate_next]
  · have noBackup : Function.update heap.cells heap.next none = heap.cells :=
      Function.update_eq_self_iff.mpr (heap.unused heap.next (Nat.le_refl _)).symm
    rw [cellsAfter, cells, Heap.allocate_cells,
      Function.update_comm destinationOld, Function.update_idem, noBackup]

theorem append_of_aliased {destination references : Nat} {old : List Json}
    (found : self.configMap[id]? = some destination)
    (destinationCell : heap.cells destination = some ⟨old, references⟩) (nonempty : old ≠ []) :
    append id destination self heap = none := by
  have kept : (heap.allocate old).2.cells destination = some ⟨old, references⟩ := by
    rw [Heap.cells_allocate_of_lt heap old (Heap.lt_next destinationCell), destinationCell]
  unfold append deepCopy
  rw [found]
  simp only [read_eq_some destinationCell, read_eq_some kept, Option.map_some,
    Option.bind_eq_bind, Option.bind_some]
  rw [appendElements_of_aliased _ kept (List.length_pos_iff.mpr nonempty)]
  rfl

theorem append_of_missing (missing : self.configMap[id]? = none)
    (sourceCell : heap.cells source = some ⟨elements, held⟩) :
    append id source self heap =
      some (⟨self.configMap.insert id heap.next⟩, (heap.allocate elements).2) := by
  unfold append deepCopy
  rw [missing]
  simp only [read_eq_some sourceCell, Option.map_some, Option.bind_eq_bind,
    Option.bind_some, Heap.allocate_fst]
  rfl

end

end GatewayConfig

end SoftwareContainers
