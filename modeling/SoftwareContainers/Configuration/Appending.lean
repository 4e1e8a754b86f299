import SoftwareContainers.Base.Map
import SoftwareContainers.Configuration.GatewayConfig

namespace SoftwareContainers

open Effect

/-! What appending to a configuration changes, and what it leaves alone. -/

namespace GatewayConfig

def value (self : GatewayConfig) (heap : JsonHeap) : PlainConfig :=
  self.configMap.map fun _ address => (heap.read address).getD []

abbrev Holds (self : GatewayConfig) (id : String) (address : Nat) : Prop :=
  self.configMap[id]? = some address

/-- Every array is on the heap, and belongs to one id. -/
structure Live (config : GatewayConfig) (heap : JsonHeap) : Prop where
  found : ∀ id address, config.Holds id address → ∃ cell, heap.cells address = some cell
  injective : ∀ id other address, config.Holds id address → config.Holds other address →
    id = other

/-- No array that is read is one that is written, unless it is empty. -/
structure Appendable (items : List (String × Nat)) (config : GatewayConfig)
    (heap : JsonHeap) : Prop where
  live : config.Live heap
  distinct : items.Pairwise fun first second => first.1 ≠ second.1
  sources : ∀ item ∈ items, ∃ cell, heap.cells item.2 = some cell
  apart : ∀ id address, config.Holds id address → ∀ item ∈ items,
    item.2 = address → item.1 = id ∧ heap.read address = some []

structure Appended (items : List (String × Nat)) (config : GatewayConfig) (heap : JsonHeap)
    (configAfter : GatewayConfig) (after : JsonHeap) : Prop where
  live : configAfter.Live after
  kept : ∀ id address, config.Holds id address → configAfter.Holds id address
  origin : ∀ id address, configAfter.Holds id address → config.Holds id address ∨
    heap.next ≤ address ∧ ∃ elements, after.cells address = some ⟨elements, 1⟩
  next : heap.next ≤ after.next
  counts : ∀ address cell, heap.cells address = some cell →
    ∃ elements, after.cells address = some ⟨elements, cell.references⟩
  frame : ∀ address, address < heap.next →
    (∀ item ∈ items, config.Holds item.1 address → heap.read item.2 = some []) →
    after.cells address = heap.cells address
  value : configAfter.value after =
    items.foldl (fun plain item => plain.append item.1 ((heap.read item.2).getD []))
      (config.value heap)

theorem getElem?_value (self : GatewayConfig) (heap : JsonHeap) (id : String) :
    (self.value heap)[id]? =
      self.configMap[id]?.map fun address => (heap.read address).getD [] :=
  Std.ExtTreeMap.getElem?_map

theorem config_eq_value {self : GatewayConfig} {heap : JsonHeap} (live : self.Live heap)
    (id : String) : self.config id heap = (self.value heap)[id]? := by
  rw [getElem?_value, config]
  cases holds : self.configMap[id]? with
  | none => rfl
  | some address =>
      obtain ⟨cell, isCell⟩ := live.found id address holds
      rw [Option.bind_some, Option.map_some, read_eq_some isCell]
      rfl

theorem not_holds_new (id : String) (address : Nat) : ¬ new.Holds id address := by
  simp [Holds, new]

theorem live_new (heap : JsonHeap) : new.Live heap where
  found id address holds := absurd holds (not_holds_new id address)
  injective id _ address holds := absurd holds (not_holds_new id address)

theorem value_new (heap : JsonHeap) : new.value heap = ∅ := by
  apply Std.ExtTreeMap.ext_getElem?
  intro id
  rw [getElem?_value]
  simp [new]

theorem holds_insert {self : GatewayConfig} {id other : String} {fresh address : Nat}
    (holds : Holds ⟨self.configMap.insert id fresh⟩ other address) :
    id = other ∧ fresh = address ∨ self.Holds other address := by
  rw [Holds, getElem?_insert] at holds
  split at holds
  · next same => exact .inl ⟨same, Option.some.inj holds⟩
  · exact .inr holds

theorem Appended.refl {self : GatewayConfig} {heap : JsonHeap} (live : self.Live heap) :
    Appended [] self heap self heap where
  live := live
  kept _ _ holds := holds
  origin _ _ holds := .inl holds
  next := Nat.le_refl _
  counts _ cell found := ⟨cell.value, found⟩
  frame _ _ _ := rfl
  value := rfl

section

variable {id : String} {source : Nat} {self : GatewayConfig} {heap : JsonHeap}

theorem appended_of_missing {cell : Cell (List Json)} (live : self.Live heap)
    (missing : self.configMap[id]? = none) (sourceCell : heap.cells source = some cell) :
    Appended [(id, source)] self heap ⟨self.configMap.insert id heap.next⟩
      (heap.allocate cell.value).2 := by
  have old : ∀ address, address < heap.next →
      (heap.allocate cell.value).2.cells address = heap.cells address :=
    fun _ below => Heap.cells_allocate_of_lt heap cell.value below
  have isNew := Heap.cells_allocate_self heap cell.value
  have below : ∀ other address, self.Holds other address → address < heap.next := by
    intro other address holds
    obtain ⟨_, found⟩ := live.found other address holds
    exact Heap.lt_next found
  refine ⟨⟨?_, ?_⟩, ?_, ?_, by simp, ?_, fun address isBelow _ => old address isBelow, ?_⟩
  · intro other address holds
    rcases holds_insert holds with ⟨_, rfl⟩ | holds
    · exact ⟨_, isNew⟩
    · rw [old address (below other address holds)]
      exact live.found other address holds
  · intro first second address holdsFirst holdsSecond
    rcases holds_insert holdsFirst with ⟨rfl, rfl⟩ | first' <;>
      rcases holds_insert holdsSecond with ⟨rfl, isFresh⟩ | second'
    · rfl
    · exact absurd (below _ _ second') (Nat.lt_irrefl _)
    · exact absurd (below _ _ first') (isFresh ▸ Nat.lt_irrefl _)
    · exact live.injective first second address first' second'
  · intro other address holds
    rw [Holds, getElem?_insert_of_ne]
    · exact holds
    · rintro rfl
      cases missing.symm.trans holds
  · intro other address holds
    rcases holds_insert holds with ⟨_, rfl⟩ | holds
    · exact .inr ⟨Nat.le_refl _, _, isNew⟩
    · exact .inl holds
  · intro address other found
    exact ⟨other.value, (old address (Heap.lt_next found)).trans found⟩
  · apply Std.ExtTreeMap.ext_getElem?
    intro other
    have readSource : heap.read source = some cell.value := read_eq_some sourceCell
    have nothing : (self.value heap).getD id [] = [] := by
      rw [Std.ExtTreeMap.getD_eq_getD_getElem?, getElem?_value, missing]
      rfl
    simp only [List.foldl_cons, List.foldl_nil, PlainConfig.append, readSource, nothing,
      getElem?_value, getElem?_insert, Option.getD_some, List.nil_append]
    split
    · rw [Option.map_some, read_eq_some isNew]
      rfl
    · cases holds : self.configMap[other]? with
      | none => rfl
      | some address =>
          rw [Option.map_some, Option.map_some, Heap.read, Heap.read,
            old address (below other address holds)]

theorem appended_of_found {cell sourceCell : Cell (List Json)} {destination : Nat}
    {after : JsonHeap} (live : self.Live heap)
    (found : self.configMap[id]? = some destination)
    (isCell : heap.cells destination = some cell)
    (isSource : heap.cells source = some sourceCell)
    (next : after.next = heap.next + 1)
    (cells : after.cells = Function.update heap.cells destination
      (some ⟨cell.value ++ sourceCell.value, cell.references⟩)) :
    Appended [(id, source)] self heap self after := by
  have others : ∀ address, address ≠ destination →
      after.cells address = heap.cells address := by
    intro address different
    rw [cells, Function.update_of_ne different]
  have written : after.cells destination =
      some ⟨cell.value ++ sourceCell.value, cell.references⟩ := by
    rw [cells, Function.update_self]
  have counts : ∀ address other, heap.cells address = some other →
      ∃ elements, after.cells address = some ⟨elements, other.references⟩ := by
    intro address other isOther
    by_cases same : address = destination
    · subst same
      cases isCell.symm.trans isOther
      exact ⟨_, written⟩
    · exact ⟨other.value, (others address same).trans isOther⟩
  refine ⟨⟨?_, live.injective⟩, fun _ _ holds => holds, fun _ _ holds => .inl holds,
    by omega, counts, ?_, ?_⟩
  · intro other address holds
    obtain ⟨otherCell, isOther⟩ := live.found other address holds
    obtain ⟨elements, isAfter⟩ := counts address otherCell isOther
    exact ⟨_, isAfter⟩
  · intro address _ untouched
    by_cases same : address = destination
    · subst same
      have nothing := untouched (id, source) (.head _) found
      have empty : sourceCell.value = [] :=
        Option.some.inj ((read_eq_some isSource).symm.trans nothing)
      rw [written, isCell, empty, List.append_nil]
    · exact others address same
  · apply Std.ExtTreeMap.ext_getElem?
    intro other
    have readSource : heap.read source = some sourceCell.value := read_eq_some isSource
    have readCell : heap.read destination = some cell.value := read_eq_some isCell
    have previous : (self.value heap).getD id [] = cell.value := by
      rw [Std.ExtTreeMap.getD_eq_getD_getElem?, getElem?_value, found, Option.map_some,
        readCell]
      rfl
    simp only [List.foldl_cons, List.foldl_nil, PlainConfig.append, readSource, previous,
      getElem?_value, getElem?_insert, Option.getD_some]
    by_cases same : id = other
    · subst same
      rw [if_pos rfl, found, Option.map_some, read_eq_some written]
      rfl
    · rw [if_neg same]
      cases holds : self.configMap[other]? with
      | none => rfl
      | some address =>
          have different : address ≠ destination := by
            rintro rfl
            exact same (live.injective id other address found holds)
          rw [Option.map_some, Option.map_some, Heap.read, Heap.read,
            others address different]

theorem append_appended {cell : Cell (List Json)} (live : self.Live heap)
    (sourceCell : heap.cells source = some cell)
    (apart : ∀ destination, self.Holds id destination → source = destination →
      heap.read destination = some []) :
    ∃ selfAfter after, append id source self heap = some (selfAfter, after) ∧
      Appended [(id, source)] self heap selfAfter after := by
  cases found : self.configMap[id]? with
  | none =>
      exact ⟨_, _, append_of_missing found sourceCell,
        appended_of_missing live found sourceCell⟩
  | some destination =>
      obtain ⟨destinationCell, isDestination⟩ := live.found id destination found
      have nothing : source = destination → cell.value = [] := by
        intro same
        have empty := apart destination found same
        rw [← same] at empty
        exact Option.some.inj ((read_eq_some sourceCell).symm.trans empty)
      obtain ⟨after, appended, next, cells⟩ :=
        append_of_found found nothing sourceCell isDestination
      exact ⟨self, after, appended,
        appended_of_found live found isDestination sourceCell next cells⟩

end

section

variable {item : String × Nat} {rest : List (String × Nat)} {self middle : GatewayConfig}
  {heap between : JsonHeap}

theorem Appended.source_kept (appendable : Appendable (item :: rest) self heap)
    (appended : Appended [item] self heap middle between) {later : String × Nat}
    (member : later ∈ rest) : between.cells later.2 = heap.cells later.2 := by
  obtain ⟨_, found⟩ := appendable.sources later (.tail _ member)
  refine appended.frame later.2 (Heap.lt_next found) fun first isFirst holds => ?_
  cases List.mem_singleton.mp isFirst
  obtain ⟨same, _⟩ := appendable.apart item.1 later.2 holds later (.tail _ member) rfl
  exact absurd same.symm ((List.pairwise_cons.mp appendable.distinct).1 later member)

theorem Appended.appendable (appendable : Appendable (item :: rest) self heap)
    (appended : Appended [item] self heap middle between) :
    Appendable rest middle between := by
  refine ⟨appended.live, (List.pairwise_cons.mp appendable.distinct).2, ?_, ?_⟩
  · intro later member
    rw [appended.source_kept appendable member]
    exact appendable.sources later (.tail _ member)
  · intro id address holds later member same
    obtain ⟨_, found⟩ := appendable.sources later (.tail _ member)
    have kept := appended.source_kept appendable member
    rcases appended.origin id address holds with before | ⟨fresh, _⟩
    · obtain ⟨sameId, empty⟩ :=
        appendable.apart id address before later (.tail _ member) same
      rw [Heap.read, ← same, kept, same]
      exact ⟨sameId, empty⟩
    · have := Heap.lt_next found
      omega

theorem Appended.trans {configAfter : GatewayConfig} {after : JsonHeap}
    (appendable : Appendable (item :: rest) self heap)
    (first : Appended [item] self heap middle between)
    (second : Appended rest middle between configAfter after) :
    Appended (item :: rest) self heap configAfter after := by
  have kept : ∀ later ∈ rest, between.read later.2 = heap.read later.2 := by
    intro later member
    rw [Heap.read, first.source_kept appendable member, Heap.read]
  refine ⟨second.live, fun id address holds => second.kept id address
    (first.kept id address holds), ?_, Nat.le_trans first.next second.next, ?_, ?_, ?_⟩
  · intro id address holds
    rcases second.origin id address holds with early | ⟨late, elements, found⟩
    · rcases first.origin id address early with before | ⟨fresh, elements, found⟩
      · exact .inl before
      · obtain ⟨more, isMore⟩ := second.counts address _ found
        exact .inr ⟨fresh, more, isMore⟩
    · exact .inr ⟨Nat.le_trans first.next late, elements, found⟩
  · intro address cell found
    obtain ⟨elements, isMiddle⟩ := first.counts address cell found
    exact second.counts address ⟨elements, cell.references⟩ isMiddle
  · intro address below untouched
    rw [second.frame address (Nat.lt_of_lt_of_le below first.next), first.frame address below]
    · intro only isOnly holds
      cases List.mem_singleton.mp isOnly
      exact untouched item (.head _) holds
    · intro later member holds
      rw [kept later member]
      apply untouched later (.tail _ member)
      rcases first.origin later.1 address holds with before | ⟨fresh, _⟩
      · exact before
      · omega
  · rw [second.value, first.value, List.foldl_ext _ _ _ fun plain later member => by
      rw [kept later member]]
    rfl

theorem appendItems_appended {items : List (String × Nat)} {self : GatewayConfig}
    {heap : JsonHeap} (appendable : Appendable items self heap) :
    ∃ configAfter after, appendItems items self heap = some (configAfter, after) ∧
      Appended items self heap configAfter after := by
  induction items generalizing self heap with
  | nil => exact ⟨self, heap, rfl, .refl appendable.live⟩
  | cons item rest ih =>
      obtain ⟨cell, sourceCell⟩ := appendable.sources item (.head _)
      obtain ⟨middle, between, appended, first⟩ := append_appended
        appendable.live sourceCell fun destination holds same =>
          (appendable.apart item.1 destination holds item (.head _) same).2
      obtain ⟨configAfter, after, ended, second⟩ := ih (first.appendable appendable)
      refine ⟨configAfter, after, ?_, first.trans appendable second⟩
      rw [appendItems, appended]
      exact ended

theorem appendItems_append (first second : List (String × Nat)) (self : GatewayConfig)
    (heap : JsonHeap) :
    appendItems (first ++ second) self heap =
      (appendItems first self heap).bind fun ended => appendItems second ended.1 ended.2 := by
  induction first generalizing self heap with
  | nil => rfl
  | cons item rest ih =>
      rw [List.cons_append, appendItems, appendItems, Option.bind_eq_bind, Option.bind_assoc]
      exact congrArg _ (funext fun ended => ih ended.1 ended.2)

/-- There is an array that would be appended to itself, and it is not empty. -/
def Aliased (self : GatewayConfig) (heap : JsonHeap) (item : String × Nat) : Prop :=
  self.Holds item.1 item.2 ∧ heap.read item.2 ≠ some []

/-- The first array that is appended to itself is where the loop stays. -/
theorem appendItems_of_aliased {items : List (String × Nat)} {self : GatewayConfig}
    {heap : JsonHeap} (live : self.Live heap)
    (distinct : items.Pairwise fun first second => first.1 ≠ second.1)
    (sources : ∀ item ∈ items, ∃ cell, heap.cells item.2 = some cell)
    (oneId : ∀ id, ∀ item ∈ items, self.Holds id item.2 → item.1 = id)
    (aliased : ∃ item ∈ items, self.Aliased heap item) :
    appendItems items self heap = none := by
  classical
  obtain ⟨item, isFirst⟩ := Option.isSome_iff_exists.mp
    (List.find?_isSome.mpr (aliased.imp fun _ holds => ⟨holds.1, decide_eq_true holds.2⟩))
  obtain ⟨isAliased, front, back, rfl, unaliased⟩ := List.find?_eq_some_iff_append.mp isFirst
  obtain ⟨holds, nonempty⟩ := of_decide_eq_true isAliased
  obtain ⟨frontDistinct, _, across⟩ := List.pairwise_append.mp distinct
  have appendable : Appendable front self heap := by
    refine ⟨live, frontDistinct, fun later member => sources later (by simp [member]), ?_⟩
    intro id address isHeld later member same
    subst same
    have sameId := oneId id later (by simp [member]) isHeld
    refine ⟨sameId, ?_⟩
    by_contra more
    have none := unaliased later member
    rw [Bool.not_eq_true', decide_eq_false_iff_not] at none
    exact none ⟨sameId ▸ isHeld, more⟩
  obtain ⟨middle, between, ended, appended⟩ := appendItems_appended appendable
  obtain ⟨cell, found⟩ := sources item (by simp)
  have kept : between.cells item.2 = heap.cells item.2 := by
    refine appended.frame item.2 (Heap.lt_next found) fun later member isHeld => ?_
    exact absurd (live.injective _ _ _ isHeld holds) (across later member item (.head _))
  rw [appendItems_append, ended, Option.bind_some, appendItems,
    append_of_aliased (appended.kept _ _ holds) (kept.trans found) ?_]
  · rfl
  · rintro empty
    exact nonempty ((read_eq_some found).trans (congrArg some empty))

end

/-! The whole of another configuration. -/

theorem mem_toList {self : GatewayConfig} {id : String} {address : Nat} :
    (id, address) ∈ self.configMap.toList ↔ self.Holds id address :=
  Std.ExtTreeMap.mem_toList_iff_getElem?_eq_some

theorem pairwise_toList (self : GatewayConfig) :
    self.configMap.toList.Pairwise fun first second => first.1 ≠ second.1 :=
  Std.ExtTreeMap.distinct_keys_toList.imp fun different same =>
    different (Std.LawfulEqOrd.compare_eq_iff_eq.mpr same)

theorem foldl_toList_value (plain : PlainConfig) (source : GatewayConfig)
    (heap : JsonHeap) :
    source.configMap.toList.foldl
        (fun plain item => plain.append item.1 ((heap.read item.2).getD [])) plain =
      plain.appendAll (source.value heap) := by
  rw [PlainConfig.appendAll, value, Std.ExtTreeMap.toList_map, List.foldl_map]

theorem appendAll_appended {source self : GatewayConfig} {heap : JsonHeap}
    (live : self.Live heap) (sourceLive : source.Live heap)
    (apart : ∀ id address, self.Holds id address → ∀ other, source.Holds other address →
      other = id ∧ heap.read address = some []) :
    ∃ configAfter after, appendAll source self heap = some (configAfter, after) ∧
      Appended source.configMap.toList self heap configAfter after := by
  refine appendItems_appended ⟨live, pairwise_toList source, ?_, ?_⟩
  · intro item member
    exact sourceLive.found item.1 item.2 (mem_toList.mp member)
  · intro id address holds item member same
    subst same
    exact apart id item.2 holds item.1 (mem_toList.mp member)

theorem copy_appended {source : GatewayConfig} {heap : JsonHeap}
    (sourceLive : source.Live heap) :
    ∃ configAfter after, copy source heap = some (configAfter, after) ∧
      Appended source.configMap.toList new heap configAfter after :=
  appendAll_appended (live_new heap) sourceLive
    fun id address holds => absurd holds (not_holds_new id address)

theorem nodup_addresses {self : GatewayConfig} {heap : JsonHeap} (live : self.Live heap) :
    (self.configMap.toList.map Prod.snd).Nodup := by
  refine List.pairwise_map.mpr ((pairwise_toList self).imp_of_mem ?_)
  intro first second memberFirst memberSecond different same
  apply different
  apply live.injective first.1 second.1 first.2 (mem_toList.mp memberFirst)
  rw [same]
  exact mem_toList.mp memberSecond

theorem mem_addresses {self : GatewayConfig} {address : Nat} :
    address ∈ self.configMap.toList.map Prod.snd ↔ ∃ id, self.Holds id address := by
  rw [List.mem_map]
  constructor
  · rintro ⟨item, member, rfl⟩
    exact ⟨item.1, mem_toList.mp member⟩
  · rintro ⟨id, holds⟩
    exact ⟨(id, address), mem_toList.mpr holds, rfl⟩

theorem found_of_mem_toList {self : GatewayConfig} {heap : JsonHeap}
    (live : self.Live heap) :
    ∀ item ∈ self.configMap.toList, ∃ cell, heap.cells item.2 = some cell :=
  fun item member => live.found item.1 item.2 (mem_toList.mp member)

theorem assign_eq_some {source : GatewayConfig} {heap : JsonHeap}
    (sourceLive : source.Live heap) :
    ∃ after, assign source heap = some (source, after) ∧ after.next = heap.next ∧
      ∀ address, after.cells address =
        if address ∈ source.configMap.toList.map Prod.snd then
          (heap.cells address).bind Cell.incref
        else heap.cells address := by
  obtain ⟨after, ended, next, cells⟩ := Heap.foldlM_change Prod.snd Cell.incref
    (nodup_addresses sourceLive) (found_of_mem_toList sourceLive)
  exact ⟨after, by rw [assign]; simp only [Heap.incref, ended]; rfl, next, cells⟩

theorem destructor_eq_some {self : GatewayConfig} {heap : JsonHeap}
    (live : self.Live heap) :
    ∃ after, self.destructor heap = some after ∧ after.next = heap.next ∧
      ∀ address, after.cells address =
        if address ∈ self.configMap.toList.map Prod.snd then
          (heap.cells address).bind Cell.decref
        else heap.cells address :=
  Heap.foldlM_change Prod.snd Cell.decref (nodup_addresses live) (found_of_mem_toList live)

end GatewayConfig

end SoftwareContainers
