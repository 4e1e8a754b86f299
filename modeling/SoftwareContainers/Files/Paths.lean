import SoftwareContainers.Base.Path
import SoftwareContainers.FileSystem.Disk

namespace SoftwareContainers

open FileSystem

/-! What the paths that are put together lead to. -/

theorem names_slash (first second : List Char) :
    names (String.ofList (first ++ '/' :: second)) =
      names (String.ofList first) ++ names (String.ofList second) := by
  simp [names, List.splitOn_append_cons_self]

theorem names_leadingSlashes (path : List Char) :
    names (String.ofList (path.dropWhile (· == '/'))) = names (String.ofList path) := by
  induction path with
  | nil => rfl
  | cons head rest ih =>
      by_cases slash : head = '/'
      · subst slash
        rw [List.dropWhile_cons_of_pos rfl, ih]
        exact (names_slash [] rest).symm
      · rw [List.dropWhile_cons_of_neg (by simpa using slash)]

theorem names_trailingSlashes (path : List Char) :
    names (String.ofList (dropTrailingSlashes path)) = names (String.ofList path) := by
  induction path using List.reverseRecOn with
  | nil => rfl
  | append_singleton front last ih =>
      by_cases slash : last = '/'
      · subst slash
        rw [names_slash front [], ← ih, dropTrailingSlashes, List.reverse_append,
          List.reverse_singleton, List.singleton_append, List.dropWhile_cons_of_pos rfl]
        exact (List.append_nil _).symm
      · rw [dropTrailingSlashes, List.reverse_append, List.reverse_singleton,
          List.singleton_append, List.dropWhile_cons_of_neg (by simpa using slash),
          List.reverse_cons, List.reverse_reverse]

def textBelow (names : List String) : List Char :=
  names.flatMap fun name => '/' :: name.toList

/-- A name as a directory holds it has a character, and none is a slash. -/
def IsFileName (name : String) : Prop := name ≠ "" ∧ '/' ∉ name.toList

instance (name : String) : Decidable (IsFileName name) := inferInstanceAs (Decidable (_ ∧ _))

theorem names_of_isFileName {name : String} (isName : IsFileName name) :
    names name = [name] := by
  rw [names, List.splitOn_eq_singleton isName.2, List.filter_cons_of_pos]
  · simp
  · simpa using isName.1

theorem names_textBelow {rest : List String} (areNames : ∀ name ∈ rest, IsFileName name)
    (path : List Char) :
    names (String.ofList (path ++ textBelow rest)) = names (String.ofList path) ++ rest := by
  induction rest generalizing path with
  | nil => simp [textBelow]
  | cons name rest ih =>
      have isName := areNames name List.mem_cons_self
      have below := ih (fun other member => areNames other (List.mem_cons_of_mem _ member))
        name.toList
      rw [String.ofList_toList, names_of_isFileName isName] at below
      rw [textBelow, List.flatMap_cons, List.cons_append, names_slash, ← textBelow, below]
      rfl

end SoftwareContainers
