import SoftwareContainers.Configuration.Appending

namespace SoftwareContainers

open Effect

/-! Configurations that share no array: those the stores hand out. -/

namespace GatewayConfig

/-- Every array was made after the first `base` ones and is held once. -/
structure Owned (base : Nat) (config : GatewayConfig) (heap : JsonHeap) : Prop where
  live : config.Live heap
  owned : ∀ id address, config.Holds id address →
    base ≤ address ∧ ∃ elements, heap.cells address = some ⟨elements, 1⟩

def Keeps (config : GatewayConfig) (heap after : JsonHeap) : Prop :=
  heap.next ≤ after.next ∧
    ∀ address, address < heap.next → (∀ id, ¬ config.Holds id address) →
      after.cells address = heap.cells address

theorem owned_new (base : Nat) (heap : JsonHeap) : Owned base new heap where
  live := live_new heap
  owned id address holds := absurd holds (not_holds_new id address)

theorem Live.below {config : GatewayConfig} {heap : JsonHeap} (live : config.Live heap)
    {id : String} {address : Nat} (holds : config.Holds id address) :
    address < heap.next := by
  obtain ⟨_, found⟩ := live.found id address holds
  exact Heap.lt_next found

theorem Live.of_kept {config : GatewayConfig} {heap after : JsonHeap} (live : config.Live heap)
    (kept : ∀ id address, config.Holds id address →
      after.cells address = heap.cells address) : config.Live after where
  found id address holds := by
    rw [kept id address holds]
    exact live.found id address holds
  injective := live.injective

theorem Owned.of_kept {base : Nat} {config : GatewayConfig} {heap after : JsonHeap}
    (owned : Owned base config heap)
    (kept : ∀ id address, config.Holds id address →
      after.cells address = heap.cells address) : Owned base config after where
  live := owned.live.of_kept kept
  owned id address holds := by
    rw [kept id address holds]
    exact owned.owned id address holds

theorem Owned.mono {conf : GatewayConfig} {base : Nat} {heap : JsonHeap}
    (owned : Owned base conf heap) {lower : Nat}
    (below : lower ≤ base) : Owned lower conf heap where
  live := owned.live
  owned id address holds :=
    ⟨Nat.le_trans below (owned.owned id address holds).1, (owned.owned id address holds).2⟩

theorem value_of_kept {config : GatewayConfig} {heap after : JsonHeap}
    (kept : ∀ id address, config.Holds id address →
      after.cells address = heap.cells address) :
    config.value after = config.value heap := by
  apply Std.ExtTreeMap.ext_getElem?
  intro id
  rw [getElem?_value, getElem?_value]
  cases holds : config.configMap[id]? with
  | none => rfl
  | some address =>
      rw [Option.map_some, Option.map_some, Heap.read, Heap.read, kept id address holds]

section

variable {base : Nat} {self source : GatewayConfig} {heap : JsonHeap}

theorem appended_owned (owned : Owned base self heap) (isBase : base ≤ heap.next)
    {items : List (String × Nat)} {selfAfter : GatewayConfig} {after : JsonHeap}
    (appended : Appended items self heap selfAfter after) :
    Owned base selfAfter after ∧ self.Keeps heap after := by
  refine ⟨⟨appended.live, fun id address holds => ?_⟩, appended.next,
    fun address below apart => appended.frame address below fun item _ holds =>
      absurd holds (apart item.1)⟩
  rcases appended.origin id address holds with before | ⟨fresh, found⟩
  · obtain ⟨isLate, elements, found⟩ := owned.owned id address before
    exact ⟨isLate, appended.counts address _ found⟩
  · exact ⟨Nat.le_trans isBase fresh, found⟩

theorem append_owned {id : String} {array : Nat} {elements : List Json} {held : Nat}
    (owned : Owned base self heap) (isBase : base ≤ heap.next)
    (isArray : heap.cells array = some ⟨elements, held⟩)
    (apart : ∀ id, ¬ self.Holds id array) :
    ∃ selfAfter after, append id array self heap = some (selfAfter, after) ∧
      Owned base selfAfter after ∧ self.Keeps heap after ∧
      selfAfter.value after = (self.value heap).append id elements := by
  obtain ⟨selfAfter, after, ended, appended⟩ := append_appended owned.live isArray
    fun destination holds same => absurd (same ▸ holds) (apart id)
  obtain ⟨ownedAfter, keeps⟩ := appended_owned owned isBase appended
  refine ⟨selfAfter, after, ended, ownedAfter, keeps, ?_⟩
  rw [appended.value, List.foldl_cons, List.foldl_nil, read_eq_some isArray]
  rfl

theorem appendAll_owned (owned : Owned base self heap) (isBase : base ≤ heap.next)
    (sourceLive : source.Live heap)
    (apart : ∀ id address, source.Holds id address → ∀ id, ¬ self.Holds id address) :
    ∃ selfAfter after, appendAll source self heap = some (selfAfter, after) ∧
      Owned base selfAfter after ∧ self.Keeps heap after ∧
      (∀ id address, selfAfter.Holds id address →
        self.Holds id address ∨ heap.next ≤ address) ∧
      selfAfter.value after = (self.value heap).appendAll (source.value heap) := by
  obtain ⟨selfAfter, after, ended, appended⟩ := appendAll_appended owned.live sourceLive
    fun id address holds other holdsSource =>
      absurd holds (apart other address holdsSource id)
  obtain ⟨ownedAfter, keeps⟩ := appended_owned owned isBase appended
  refine ⟨selfAfter, after, ended, ownedAfter, keeps, ?_, ?_⟩
  · exact fun id address holds => (appended.origin id address holds).imp_right And.left
  · rw [appended.value, foldl_toList_value]

theorem copy_owned (sourceLive : source.Live heap) :
    ∃ copied after, copy source heap = some (copied, after) ∧
      Owned heap.next copied after ∧ heap.next ≤ after.next ∧
      (∀ address, address < heap.next → after.cells address = heap.cells address) ∧
      copied.value after = source.value heap := by
  obtain ⟨copied, after, ended, owned, keeps, _, value⟩ :=
    appendAll_owned (owned_new heap.next heap) (Nat.le_refl _) sourceLive
      fun _ address _ id => not_holds_new id address
  refine ⟨copied, after, ended, owned, keeps.1, fun address below =>
    keeps.2 address below fun id => not_holds_new id address, ?_⟩
  rw [value, value_new, PlainConfig.appendAll_empty]

theorem destructor_owned (owned : Owned base self heap) :
    ∃ after, self.destructor heap = some after ∧ self.Keeps heap after := by
  obtain ⟨after, ended, next, cells⟩ := destructor_eq_some owned.live
  refine ⟨after, ended, Nat.le_of_eq next.symm, fun address _ apart => ?_⟩
  rw [cells, if_neg]
  rw [mem_addresses]
  exact fun holds => holds.elim apart

end

end GatewayConfig

end SoftwareContainers
