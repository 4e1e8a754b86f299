import Mathlib.Data.List.Nodup

namespace Keyed

/-! Lists of elements with keys, in which the first element with a key is changed or a new
one is added. -/

variable {α κ : Type} [DecidableEq κ]

def upsert (key : α → κ) (wanted : κ) (change : α → α) (new : α) : List α → List α
  | [] => [new]
  | first :: rest =>
      if key first = wanted then change first :: rest
      else first :: upsert key wanted change new rest

section

variable {key : α → κ} {wanted : κ} {change : α → α} {new : α} {elements : List α}

theorem map_key_upsert (sameKey : ∀ element, key (change element) = key element)
    (isNew : key new = wanted) (elements : List α) :
    (upsert key wanted change new elements).map key =
      if wanted ∈ elements.map key then elements.map key else elements.map key ++ [wanted] := by
  induction elements with
  | nil => simp [upsert, isNew]
  | cons first rest ih =>
      rw [upsert]
      by_cases same : key first = wanted
      · rw [if_pos same, if_pos (by simp [same]), List.map_cons, List.map_cons, sameKey]
      · have cons : wanted ∈ key first :: rest.map key ↔ wanted ∈ rest.map key := by
          simp [Ne.symm same]
        rw [if_neg same, List.map_cons, ih, List.map_cons]
        simp only [cons]
        split <;> rfl

theorem nodup_upsert (sameKey : ∀ element, key (change element) = key element)
    (isNew : key new = wanted) (nodup : (elements.map key).Nodup) :
    ((upsert key wanted change new elements).map key).Nodup := by
  rw [map_key_upsert sameKey isNew]
  split
  · exact nodup
  · rename_i missing
    apply List.Nodup.append nodup (List.nodup_singleton _)
    intro other before now
    rw [List.mem_singleton.mp now] at before
    exact missing before

theorem mem_map_key_upsert (sameKey : ∀ element, key (change element) = key element)
    (isNew : key new = wanted) {other : κ} :
    other ∈ (upsert key wanted change new elements).map key ↔
      other ∈ elements.map key ∨ other = wanted := by
  rw [map_key_upsert sameKey isNew]
  split
  · rename_i present
    refine ⟨.inl, ?_⟩
    rintro (before | rfl)
    · exact before
    · exact present
  · rw [List.mem_append, List.mem_singleton]

theorem mem_upsert {other : α} (nodup : (elements.map key).Nodup)
    (member : other ∈ upsert key wanted change new elements) :
    (other ∈ elements ∧ key other ≠ wanted) ∨
      (∃ stored ∈ elements, key stored = wanted ∧ other = change stored) ∨
      (wanted ∉ elements.map key ∧ other = new) := by
  induction elements with
  | nil =>
      rw [upsert, List.mem_singleton] at member
      exact .inr (.inr ⟨by simp, member⟩)
  | cons first rest ih =>
      rw [List.map_cons, List.nodup_cons] at nodup
      rw [upsert] at member
      by_cases same : key first = wanted
      · rw [if_pos same, List.mem_cons] at member
        rcases member with rfl | inRest
        · exact .inr (.inl ⟨first, List.mem_cons_self, same, rfl⟩)
        · refine .inl ⟨List.mem_cons_of_mem _ inRest, fun sameKey => nodup.1 ?_⟩
          rw [same, ← sameKey]
          exact List.mem_map_of_mem inRest
      · rw [if_neg same, List.mem_cons] at member
        rcases member with rfl | inRest
        · exact .inl ⟨List.mem_cons_self, same⟩
        · rcases ih nodup.2 inRest with ⟨stored, different⟩ |
            ⟨stored, isStored, hasKey, changed⟩ | ⟨missing, isNew⟩
          · exact .inl ⟨List.mem_cons_of_mem _ stored, different⟩
          · exact .inr (.inl ⟨stored, List.mem_cons_of_mem _ isStored, hasKey, changed⟩)
          · refine .inr (.inr ⟨?_, isNew⟩)
            rw [List.map_cons, List.mem_cons, not_or]
            exact ⟨Ne.symm same, missing⟩

theorem find?_eq_some_iff (nodup : (elements.map key).Nodup) {element : α} :
    elements.find? (fun element => key element = wanted) = some element ↔
      element ∈ elements ∧ key element = wanted := by
  constructor
  · intro isFound
    exact ⟨List.mem_of_find?_eq_some isFound, by simpa using List.find?_some isFound⟩
  · rintro ⟨member, hasKey⟩
    cases isFound : elements.find? fun element => key element = wanted with
    | none => exact absurd (decide_eq_true hasKey) (List.find?_eq_none.mp isFound element member)
    | some other =>
        have otherKey : key other = wanted := by simpa using List.find?_some isFound
        exact congrArg some (List.inj_on_of_nodup_map nodup (List.mem_of_find?_eq_some isFound)
          member (otherKey.trans hasKey.symm))

theorem forall_upsert {holds : α → Prop} (all : ∀ element ∈ elements, holds element)
    (changed : ∀ element, holds element → holds (change element)) (isNew : holds new) :
    ∀ element ∈ upsert key wanted change new elements, holds element := by
  induction elements with
  | nil => exact List.forall_mem_singleton.mpr isNew
  | cons first rest ih =>
      obtain ⟨firstHolds, others⟩ := List.forall_mem_cons.mp all
      rw [upsert]
      split
      · exact List.forall_mem_cons.mpr ⟨changed first firstHolds, others⟩
      · exact List.forall_mem_cons.mpr ⟨firstHolds, ih others⟩

end

end Keyed
