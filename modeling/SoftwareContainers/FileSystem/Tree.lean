import Std.Data.ExtTreeMap
import Mathlib.Data.List.Nodup
import Mathlib.Data.List.Range
import Mathlib.Data.List.Perm.Subperm

namespace FileSystem

/-! Trees of files, and how a path is resolved in them: `.` and `..`, symbolic links,
repeated and trailing slashes.  `δ` is what a regular file holds. -/

inductive Entry (δ : Type) where
  | directory
  | regular (content : δ)
  | link (target : String)
  | special
  deriving DecidableEq, Repr

def Entry.shape {δ : Type} : Entry δ → Entry Unit
  | .directory => .directory
  | .regular _ => .regular ()
  | .link target => .link target
  | .special => .special

/-- The names that lead to an entry from the root, without links. -/
abbrev Place := List String

/-- A name that a directory may hold; the two others are resolved without being looked up. -/
def IsName (name : String) : Prop := name ≠ "." ∧ name ≠ ".."

instance (name : String) : Decidable (IsName name) := inferInstanceAs (Decidable (_ ∧ _))

structure FileTree (δ : Type) where
  entries : Std.ExtTreeMap Place (Entry δ)
  root : entries[([] : Place)]? = some .directory
  named : ∀ {place : Place} {name : String}, place ++ [name] ∈ entries → IsName name
  parents : ∀ {place : Place} {name : String}, place ++ [name] ∈ entries →
    entries[place]? = some .directory

inductive Errno where
  | noEntry
  | notDirectory
  | tooManyLinks
  deriving DecidableEq, Repr

namespace FileTree

variable {δ : Type} {tree : FileTree δ} {place directory : Place} {name : String}

def find (tree : FileTree δ) (place : Place) : Option (Entry δ) := tree.entries[place]?

def IsDirectory (tree : FileTree δ) (place : Place) : Prop := tree.find place = some .directory

instance (tree : FileTree δ) (place : Place) : Decidable (tree.IsDirectory place) :=
  match found : tree.find place with
  | some .directory => isTrue found
  | none | some (.regular _) | some (.link _) | some .special =>
      isFalse fun isDirectory => nomatch found.symm.trans isDirectory

def shape (tree : FileTree δ) (place : Place) : Option (Entry Unit) :=
  (tree.find place).map Entry.shape

theorem shape_of_find {entry : Entry δ} (found : tree.find place = some entry) :
    tree.shape place = some entry.shape := by
  rw [shape, found, Option.map_some]

theorem isDirectory_iff_shape : tree.IsDirectory place ↔ tree.shape place = some .directory := by
  rw [IsDirectory, shape]
  cases tree.find place with
  | none => simp
  | some entry => cases entry <;> simp [Entry.shape]

theorem find_link_iff_shape {target : String} :
    tree.find place = some (.link target) ↔ tree.shape place = some (.link target) := by
  rw [shape]
  cases tree.find place with
  | none => simp
  | some entry => cases entry <;> simp [Entry.shape]

theorem find_eq_none_iff_shape : tree.find place = none ↔ tree.shape place = none := by
  rw [shape, Option.map_eq_none_iff]

theorem ext {first second : FileTree δ} (same : ∀ place, first.find place = second.find place) :
    first = second := by
  obtain ⟨firstEntries, _, _⟩ := first
  obtain ⟨secondEntries, _, _⟩ := second
  obtain rfl : firstEntries = secondEntries := Std.ExtTreeMap.ext_getElem? same
  rfl

theorem mem_entries : place ∈ tree.entries ↔ tree.find place ≠ none := by
  rw [find, Std.ExtTreeMap.mem_iff_isSome_getElem?, Option.isSome_iff_ne_none]

theorem size_ne_zero (tree : FileTree δ) : tree.entries.size ≠ 0 := by
  intro zero
  have root := tree.root
  rw [Std.ExtTreeMap.eq_empty_iff_size_eq_zero.mpr zero] at root
  simp at root

theorem isDirectory_parent (found : tree.find (directory ++ [name]) ≠ none) :
    tree.IsDirectory directory :=
  tree.parents (mem_entries.mpr found)

theorem isName_of_find (found : tree.find (directory ++ [name]) ≠ none) : IsName name :=
  tree.named (mem_entries.mpr found)

def isEmpty (tree : FileTree δ) (place : Place) : Bool :=
  tree.entries.keys.all fun other => other = [] || other.dropLast ≠ place

theorem isEmpty_iff :
    tree.isEmpty place = true ↔ ∀ name, tree.find (place ++ [name]) = none := by
  rw [isEmpty, List.all_eq_true]
  constructor
  · intro none name
    by_contra found
    have notBelow := none _ (Std.ExtTreeMap.mem_keys.mpr (mem_entries.mpr found))
    simp at notBelow
  · intro none other member
    rcases List.eq_nil_or_concat other with rfl | ⟨front, name, rfl⟩
    · rfl
    · have found := mem_entries.mp (Std.ExtTreeMap.mem_keys.mp member)
      rw [List.concat_eq_append] at found ⊢
      have different : front ≠ place := fun same => found (same ▸ none name)
      simp [different]

theorem isEmpty_of_not_directory (notDirectory : ¬ tree.IsDirectory place) :
    tree.isEmpty place = true := by
  rw [isEmpty_iff]
  intro name
  by_contra found
  exact notDirectory (isDirectory_parent found)

def children (tree : FileTree δ) (place : Place) : List String :=
  tree.entries.keys.filterMap fun other =>
    if other.dropLast = place then other.getLast? else none

theorem mem_children : name ∈ tree.children place ↔ tree.find (place ++ [name]) ≠ none := by
  rw [← mem_entries, ← Std.ExtTreeMap.mem_keys, children, List.mem_filterMap]
  constructor
  · rintro ⟨other, member, same⟩
    rcases List.eq_nil_or_concat other with rfl | ⟨front, last, rfl⟩
    · simp at same
    · rw [List.concat_eq_append] at member same
      rw [List.dropLast_concat, List.getLast?_concat] at same
      split at same
      · rename_i isPlace
        obtain rfl := Option.some.inj same
        exact isPlace ▸ member
      · cases same
  · intro member
    exact ⟨place ++ [name], member, by simp⟩

theorem nodup_children (tree : FileTree δ) (place : Place) : (tree.children place).Nodup := by
  refine (Std.ExtTreeMap.nodup_keys).filterMap fun first second name isFirst isSecond => ?_
  rcases List.eq_nil_or_concat first with rfl | ⟨front, last, rfl⟩
  · simp at isFirst
  · rcases List.eq_nil_or_concat second with rfl | ⟨other, final, rfl⟩
    · simp at isSecond
    · simp at isFirst isSecond
      obtain ⟨rfl, rfl⟩ := isFirst
      obtain ⟨rfl, rfl⟩ := isSecond
      rfl

theorem isDirectory_of_find_append {rest : List String}
    (found : tree.find (place ++ name :: rest) ≠ none) : tree.IsDirectory place := by
  induction rest using List.reverseRecOn with
  | nil => exact isDirectory_parent found
  | append_singleton front last ih =>
      refine ih ?_
      rw [← List.cons_append, ← List.append_assoc] at found
      rw [isDirectory_parent found]
      exact nofun

theorem length_lt_size (found : tree.find place ≠ none) : place.length < tree.entries.size := by
  have each : ∀ other ∈ (List.range (place.length + 1)).map place.take,
      other ∈ tree.entries.keys := by
    intro other member
    obtain ⟨length, _, rfl⟩ := List.mem_map.mp member
    rw [Std.ExtTreeMap.mem_keys, mem_entries]
    have whole := List.take_append_drop length place
    cases rest : place.drop length with
    | nil =>
        rw [rest, List.append_nil] at whole
        rw [whole]
        exact found
    | cons name rest =>
        rw [‹place.drop length = _›] at whole
        rw [← whole] at found
        rw [isDirectory_of_find_append found]
        exact nofun
  have distinct : ((List.range (place.length + 1)).map place.take).Nodup := by
    refine List.nodup_range.map_on fun first isFirst second isSecond same => ?_
    have lengths := congrArg List.length same
    rw [List.mem_range] at isFirst isSecond
    rw [List.length_take, List.length_take] at lengths
    omega
  have le := (List.Nodup.subperm distinct each).length_le
  rw [List.length_map, List.length_range, Std.ExtTreeMap.length_keys] at le
  exact le

/-! Writing. -/

def bare : FileTree δ where
  entries := .insert ∅ [] .directory
  root := by simp
  named := by
    intro place name member
    rw [Std.ExtTreeMap.mem_insert, Std.LawfulEqOrd.compare_eq_iff_eq] at member
    simp at member
  parents := by
    intro place name member
    rw [Std.ExtTreeMap.mem_insert, Std.LawfulEqOrd.compare_eq_iff_eq] at member
    simp at member

theorem getElem?_insert (entries : Std.ExtTreeMap Place (Entry δ)) (key other : Place)
    (entry : Entry δ) :
    (entries.insert key entry)[other]? = if key = other then some entry else entries[other]? := by
  rw [Std.ExtTreeMap.getElem?_insert]
  simp only [Std.LawfulEqOrd.compare_eq_iff_eq]

theorem getElem?_erase (entries : Std.ExtTreeMap Place (Entry δ)) (key other : Place) :
    (entries.erase key)[other]? = if key = other then none else entries[other]? := by
  rw [Std.ExtTreeMap.getElem?_erase]
  simp only [Std.LawfulEqOrd.compare_eq_iff_eq]

def put (tree : FileTree δ) (directory : Place) (name : String) (entry : Entry δ)
    (isName : IsName name) (isDirectory : tree.IsDirectory directory)
    (free : ¬ tree.IsDirectory (directory ++ [name])) : FileTree δ where
  entries := tree.entries.insert (directory ++ [name]) entry
  root := by
    rw [getElem?_insert, if_neg (by simp)]
    exact tree.root
  named := by
    intro place other member
    rw [Std.ExtTreeMap.mem_insert, Std.LawfulEqOrd.compare_eq_iff_eq] at member
    rcases member with same | member
    · obtain rfl : name = other := (List.cons.inj (List.append_inj_right' same rfl)).1
      exact isName
    · exact tree.named member
  parents := by
    intro place other member
    have different : directory ++ [name] ≠ place := by
      rintro rfl
      rw [Std.ExtTreeMap.mem_insert, Std.LawfulEqOrd.compare_eq_iff_eq] at member
      rcases member with same | member
      · simp at same
      · exact free (tree.parents member)
    rw [getElem?_insert, if_neg different]
    rw [Std.ExtTreeMap.mem_insert, Std.LawfulEqOrd.compare_eq_iff_eq] at member
    rcases member with same | member
    · obtain rfl : directory = place := List.append_inj_left' same rfl
      exact isDirectory
    · exact tree.parents member

theorem find_put (entry : Entry δ) (isName : IsName name)
    (isDirectory : tree.IsDirectory directory)
    (free : ¬ tree.IsDirectory (directory ++ [name])) (place : Place) :
    (tree.put directory name entry isName isDirectory free).find place =
      if directory ++ [name] = place then some entry else tree.find place :=
  getElem?_insert tree.entries _ _ _

def erase (tree : FileTree δ) (directory : Place) (name : String)
    (leaf : tree.isEmpty (directory ++ [name]) = true) : FileTree δ where
  entries := tree.entries.erase (directory ++ [name])
  root := by
    rw [getElem?_erase, if_neg (by simp)]
    exact tree.root
  named := fun member => tree.named (Std.ExtTreeMap.mem_of_mem_erase member)
  parents := by
    intro place other member
    have member := Std.ExtTreeMap.mem_of_mem_erase member
    have different : directory ++ [name] ≠ place := by
      rintro rfl
      exact mem_entries.mp member (isEmpty_iff.mp leaf other)
    rw [getElem?_erase, if_neg different]
    exact tree.parents member

theorem find_erase (leaf : tree.isEmpty (directory ++ [name]) = true) (place : Place) :
    (tree.erase directory name leaf).find place =
      if directory ++ [name] = place then none else tree.find place :=
  getElem?_erase tree.entries _ _

theorem erase_put {entry : Entry δ} {isName : IsName name}
    {isDirectory : tree.IsDirectory directory}
    {free : ¬ tree.IsDirectory (directory ++ [name])}
    (absent : tree.find (directory ++ [name]) = none)
    (leaf : (tree.put directory name entry isName isDirectory free).isEmpty
      (directory ++ [name]) = true) :
    (tree.put directory name entry isName isDirectory free).erase directory name leaf = tree := by
  apply ext
  intro place
  rw [find_erase, find_put]
  by_cases same : directory ++ [name] = place
  · rw [if_pos same, ← same, absent]
  · rw [if_neg same, if_neg same]

end FileTree

end FileSystem
