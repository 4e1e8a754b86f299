import Mathlib.Data.List.Induction
import SoftwareContainers.Base.Fault

namespace SoftwareContainers

/-! Operations of `std::string`. -/

/-- `std::string::pop_back`, undefined on an empty string. -/
def popBack (text : String) : Except Fault String :=
  if text.isEmpty then .error .undefined
  else .ok (String.ofList text.toList.dropLast)

theorem popBack_append_singleton (text : String) (last : Char) :
    popBack (text ++ String.singleton last) = .ok text := by
  have nonempty : (text ++ String.singleton last).isEmpty = false := by
    simp
  rw [popBack, nonempty]
  simp

theorem utf8ByteSize_of_ascii {text : List Char}
    (ascii : ∀ character ∈ text, character.toNat < 128) :
    (String.ofList text).utf8ByteSize = text.length := by
  induction text using List.reverseRecOn with
  | nil => rfl
  | append_singleton front last ih =>
      have small : last.utf8Size = 1 := by
        have bound := ascii last (by simp)
        rw [Char.utf8Size, if_pos]
        exact UInt32.le_iff_toNat_le.mpr (Nat.le_of_lt_succ bound)
      have pushed : String.ofList (front ++ [last]) = (String.ofList front).push last := by
        rw [String.ofList_append, ← String.singleton_eq_ofList, String.append_singleton]
      rw [pushed, String.utf8ByteSize_push, small, List.length_append,
        ih fun character member => ascii character (List.mem_append_left _ member)]
      rfl

def commaSeparated : List String → String := ",".intercalate

theorem join_map_append_comma (first : String) (rest : List String) :
    String.join ((first :: rest).map (· ++ ",")) =
      commaSeparated (first :: rest) ++ "," := by
  induction rest generalizing first with
  | nil => simp [commaSeparated]
  | cons second rest ih =>
      rw [List.map_cons, String.join_cons, ih second, commaSeparated,
        String.intercalate_cons_cons]
      simp only [String.append_assoc]

theorem append_cons_inj_of_free {separator : Char} {first second rest others : List Char}
    (firstFree : separator ∉ first) (secondFree : separator ∉ second)
    (same : first ++ separator :: rest = second ++ separator :: others) :
    first = second ∧ rest = others := by
  induction first generalizing second with
  | nil =>
      cases second with
      | nil => exact ⟨rfl, (List.cons.inj same).2⟩
      | cons head tail => exact absurd ((List.cons.inj same).1 ▸ List.mem_cons_self) secondFree
  | cons head tail ih =>
      cases second with
      | nil => exact absurd ((List.cons.inj same).1 ▸ List.mem_cons_self) firstFree
      | cons other others =>
          obtain ⟨rfl, sameTail⟩ := List.cons.inj same
          obtain ⟨rfl, sameRest⟩ := ih (fun member => firstFree (List.mem_cons_of_mem _ member))
            (fun member => secondFree (List.mem_cons_of_mem _ member)) sameTail
          exact ⟨rfl, sameRest⟩

theorem join_map_append_comma_injective {first second : List String}
    (firstFree : ∀ text ∈ first, ',' ∉ text.toList)
    (secondFree : ∀ text ∈ second, ',' ∉ text.toList)
    (same : String.join (first.map (· ++ ",")) = String.join (second.map (· ++ ","))) :
    first = second := by
  induction first generalizing second with
  | nil =>
      cases second with
      | nil => rfl
      | cons text rest => simp [String.join_cons] at same
  | cons text rest ih =>
      cases second with
      | nil => simp [String.join_cons] at same
      | cons other others =>
          rw [List.forall_mem_cons] at firstFree secondFree
          rw [List.map_cons, List.map_cons, String.join_cons, String.join_cons] at same
          have characters := congrArg String.toList same
          simp only [String.toList_append, List.append_assoc] at characters
          obtain ⟨sameText, sameRest⟩ :=
            append_cons_inj_of_free firstFree.1 secondFree.1 characters
          rw [String.toList_injective sameText,
            ih firstFree.2 secondFree.2 (String.toList_injective sameRest)]

end SoftwareContainers
