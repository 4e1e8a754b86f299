import Mathlib.Data.List.Basic

namespace SoftwareContainers

/-! Paths as text: `Glib::build_filename`, `Glib::path_get_basename` and POSIX
`dirname`. -/

def dropTrailingSlashes (path : List Char) : List Char :=
  (path.reverse.dropWhile (· == '/')).reverse

/-- The separators where the two parts meet become one. -/
def buildPath (first second : String) : String :=
  if first = "" then second
  else if second = "" then first
  else
    String.ofList (dropTrailingSlashes first.toList ++
      '/' :: second.toList.dropWhile (· == '/'))

def baseName (path : String) : String :=
  let trimmed := dropTrailingSlashes path.toList
  if path = "" then "."
  else if trimmed = [] then "/"
  else String.ofList (trimmed.reverse.takeWhile (· != '/')).reverse

def parentPath (path : String) : String :=
  let trimmed := dropTrailingSlashes path.toList
  if path = "" then "."
  else if trimmed = [] then "/"
  else if '/' ∈ trimmed then
    match dropTrailingSlashes (trimmed.reverse.dropWhile (· != '/')).reverse with
    | [] => "/"
    | parent => String.ofList parent
  else "."

theorem length_dropTrailingSlashes_le (path : List Char) :
    (dropTrailingSlashes path).length ≤ path.length := by
  rw [dropTrailingSlashes, List.length_reverse]
  exact Nat.le_trans (List.dropWhile_sublist _).length_le (Nat.le_of_eq List.length_reverse)

theorem length_front_lt {trimmed : List Char} (slash : '/' ∈ trimmed) :
    (dropTrailingSlashes (trimmed.reverse.dropWhile (· != '/')).reverse).length <
      trimmed.length := by
  rw [dropTrailingSlashes, List.length_reverse, List.reverse_reverse]
  have le : (trimmed.reverse.dropWhile (· != '/')).length ≤ trimmed.length :=
    Nat.le_trans (List.dropWhile_sublist _).length_le (Nat.le_of_eq List.length_reverse)
  cases rest : trimmed.reverse.dropWhile (· != '/') with
  | nil => exact List.length_pos_of_mem slash
  | cons head tail =>
      have isSlash := List.head?_dropWhile_not (· != '/') trimmed.reverse
      rw [rest] at isSlash le
      obtain rfl : head = '/' := by simpa using isSlash
      rw [List.dropWhile_cons_of_pos rfl]
      exact Nat.lt_of_le_of_lt (List.dropWhile_sublist _).length_le le

theorem parentPath_shorter (path : String) :
    parentPath path = "/" ∨ parentPath path = "." ∨ (parentPath path).length < path.length := by
  have le := length_dropTrailingSlashes_le path.toList
  unfold parentPath
  split
  · exact .inr (.inl rfl)
  · dsimp only
    split
    · exact .inl rfl
    · split
      · rename_i slash
        have lt := length_front_lt slash
        split
        · exact .inl rfl
        · refine .inr (.inr ?_)
          rw [String.length_ofList]
          exact Nat.lt_of_lt_of_le lt le
      · exact .inr (.inl rfl)

example : parentPath "/gateways/wayland-0" = "/gateways" := by decide

end SoftwareContainers
