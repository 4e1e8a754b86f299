import Std.Data.ExtTreeMap

namespace SoftwareContainers

/-! Lookups in a `std::map` after it has been changed. -/

section

variable {κ ν : Type} [Ord κ] [Std.TransOrd κ] [Std.LawfulEqOrd κ] [DecidableEq κ]

theorem getElem?_insert (map : Std.ExtTreeMap κ ν) (key other : κ) (value : ν) :
    (map.insert key value)[other]? = if key = other then some value else map[other]? := by
  rw [Std.ExtTreeMap.getElem?_insert]
  by_cases same : key = other
  · rw [if_pos same, if_pos (Std.LawfulEqOrd.compare_eq_iff_eq.mpr same)]
  · rw [if_neg same, if_neg fun equal => same (Std.LawfulEqOrd.compare_eq_iff_eq.mp equal)]

theorem getElem?_insert_of_ne {key other : κ} (different : key ≠ other)
    (map : Std.ExtTreeMap κ ν) (value : ν) :
    (map.insert key value)[other]? = map[other]? := by
  rw [getElem?_insert, if_neg different]

theorem getElem?_erase (map : Std.ExtTreeMap κ ν) (key other : κ) :
    (map.erase key)[other]? = if key = other then none else map[other]? := by
  rw [Std.ExtTreeMap.getElem?_erase]
  by_cases same : key = other
  · rw [if_pos same, if_pos (Std.LawfulEqOrd.compare_eq_iff_eq.mpr same)]
  · rw [if_neg same, if_neg fun equal => same (Std.LawfulEqOrd.compare_eq_iff_eq.mp equal)]

theorem getElem?_foldl_insert_of_not_mem {items : List (κ × ν)} {key : κ}
    (missing : key ∉ items.map Prod.fst) (map : Std.ExtTreeMap κ ν) :
    (items.foldl (fun copy item => copy.insert item.1 item.2) map)[key]? = map[key]? := by
  induction items generalizing map with
  | nil => rfl
  | cons first rest ih =>
      rw [List.map_cons, List.mem_cons, not_or] at missing
      rw [List.foldl_cons, ih missing.2, getElem?_insert_of_ne (Ne.symm missing.1)]

theorem getElem?_foldl_insert_of_mem {items : List (κ × ν)} {key : κ} {value : ν}
    (distinct : (items.map Prod.fst).Nodup) (member : (key, value) ∈ items)
    (map : Std.ExtTreeMap κ ν) :
    (items.foldl (fun copy item => copy.insert item.1 item.2) map)[key]? = some value := by
  induction items generalizing map with
  | nil => cases member
  | cons first rest ih =>
      rw [List.map_cons, List.nodup_cons] at distinct
      rw [List.foldl_cons]
      rcases List.mem_cons.mp member with rfl | inRest
      · rw [getElem?_foldl_insert_of_not_mem distinct.1, getElem?_insert, if_pos rfl]
      · exact ih distinct.2 inRest _

omit [DecidableEq κ] in
theorem nodup_map_fst_toList (map : Std.ExtTreeMap κ ν) : (map.toList.map Prod.fst).Nodup :=
  List.pairwise_map.mpr (Std.ExtTreeMap.distinct_keys_toList.imp fun different same =>
    different (Std.LawfulEqOrd.compare_eq_iff_eq.mpr same))

theorem foldl_insert_toList (map : Std.ExtTreeMap κ ν) :
    map.toList.foldl (fun copy item => copy.insert item.1 item.2) ∅ = map := by
  refine Std.ExtTreeMap.ext_getElem? fun key => ?_
  cases found : map[key]? with
  | some value =>
      exact getElem?_foldl_insert_of_mem (nodup_map_fst_toList map)
        (Std.ExtTreeMap.mem_toList_iff_getElem?_eq_some.mpr found) ∅
  | none =>
      rw [getElem?_foldl_insert_of_not_mem ?_]
      · exact Std.ExtTreeMap.getElem?_empty
      · rintro member
        obtain ⟨⟨other, value⟩, isItem, rfl⟩ := List.mem_map.mp member
        cases found.symm.trans (Std.ExtTreeMap.mem_toList_iff_getElem?_eq_some.mp isItem)

end

end SoftwareContainers
