import SoftwareContainers.FileSystem.Tree

namespace FileSystem

/-! How the text of a path is resolved. -/

def isAbsolute (text : String) : Bool := text.toList.head? = some '/'

/-- The names between the slashes. -/
def names (text : String) : List String :=
  ((text.toList.splitOn '/').filter (· ≠ [])).map String.ofList

def endsWithSlash (text : String) : Bool := text.toList.getLast? = some '/'

/-- What is resolved: a slash at the end asks for a directory. -/
def parts (text : String) : List String :=
  names text ++ if endsWithSlash text then ["."] else []

def start (place : Place) (text : String) : Place := if isAbsolute text then [] else place

namespace FileTree

variable {δ : Type}

/-- Go along the names; what is done at a link is left open. -/
def along (tree : FileTree δ) (onLink : Place → String → List String → Except Errno Place) :
    Place → List String → Except Errno Place
  | place, [] => .ok place
  | place, name :: rest =>
      match tree.find place with
      | some .directory =>
          if name = "." then along tree onLink place rest
          else if name = ".." then along tree onLink place.dropLast rest
          else
            match tree.find (place ++ [name]) with
            | none => .error .noEntry
            | some (.link target) => onLink place target rest
            | some _ => along tree onLink (place ++ [name]) rest
      | _ => .error .notDirectory

/-- Resolve the names, following at most so many links. -/
def follow (tree : FileTree δ) : Nat → Place → List String → Except Errno Place
  | 0 => along tree fun _ _ _ => .error .tooManyLinks
  | links + 1 => along tree fun place target rest =>
      follow tree links (start place target) (parts target ++ rest)

end FileTree

/-- The names lead from one place to another, over at most so many links. -/
inductive Leads {δ : Type} (tree : FileTree δ) : Nat → Place → List String → Place → Prop
  | here (links : Nat) (place : Place) : Leads tree links place [] place
  | dot {links : Nat} {place goal : Place} {rest : List String}
      (isDirectory : tree.IsDirectory place) (leads : Leads tree links place rest goal) :
      Leads tree links place ("." :: rest) goal
  | up {links : Nat} {place goal : Place} {rest : List String}
      (isDirectory : tree.IsDirectory place) (leads : Leads tree links place.dropLast rest goal) :
      Leads tree links place (".." :: rest) goal
  | entry {links : Nat} {place goal : Place} {name : String} {rest : List String}
      {entry : Entry δ} (isDirectory : tree.IsDirectory place) (isName : IsName name)
      (found : tree.find (place ++ [name]) = some entry) (noLink : ∀ target, entry ≠ .link target)
      (leads : Leads tree links (place ++ [name]) rest goal) :
      Leads tree links place (name :: rest) goal
  | link {links : Nat} {place goal : Place} {name target : String} {rest : List String}
      (isDirectory : tree.IsDirectory place) (isName : IsName name)
      (found : tree.find (place ++ [name]) = some (.link target))
      (leads : Leads tree links (start place target) (parts target ++ rest) goal) :
      Leads tree (links + 1) place (name :: rest) goal

namespace FileTree

variable {δ : Type} {tree : FileTree δ} {place directory goal : Place} {name : String}
  {first second rest : List String} {links : Nat}

@[simp] theorem follow_nil : tree.follow links place [] = .ok place := by
  cases links <;> rfl

theorem follow_of_not_directory (notDirectory : ¬ tree.IsDirectory place) :
    tree.follow links place (name :: rest) = .error .notDirectory := by
  cases links <;>
  · rw [follow, along]
    split
    · contradiction
    · rfl

theorem follow_dot (isDirectory : tree.IsDirectory place) :
    tree.follow links place ("." :: rest) = tree.follow links place rest := by
  have found : tree.find place = some .directory := isDirectory
  cases links <;> simp [follow, along, found]

theorem follow_up (isDirectory : tree.IsDirectory place) :
    tree.follow links place (".." :: rest) = tree.follow links place.dropLast rest := by
  have found : tree.find place = some .directory := isDirectory
  cases links <;> simp [follow, along, found]

theorem follow_name (isDirectory : tree.IsDirectory place) (isName : IsName name) :
    tree.follow links place (name :: rest) =
      match tree.find (place ++ [name]) with
      | none => .error .noEntry
      | some (.link target) =>
          match links with
          | 0 => .error .tooManyLinks
          | links + 1 => tree.follow links (start place target) (parts target ++ rest)
      | some _ => tree.follow links (place ++ [name]) rest := by
  have found : tree.find place = some .directory := isDirectory
  cases links <;> simp [follow, along, found, isName.1, isName.2]

theorem leads_of_follow_of_links
    (below : ∀ fewer, links = fewer + 1 → ∀ place names,
      tree.follow fewer place names = .ok goal → Leads tree fewer place names goal)
    (resolved : tree.follow links place first = .ok goal) :
    Leads tree links place first goal := by
  induction first generalizing place with
  | nil =>
      rw [follow_nil] at resolved
      cases resolved
      exact .here _ _
  | cons name rest ih =>
      by_cases isDirectory : tree.IsDirectory place
      · by_cases dot : name = "."
        · subst dot
          rw [follow_dot isDirectory] at resolved
          exact .dot isDirectory (ih resolved)
        · by_cases up : name = ".."
          · subst up
            rw [follow_up isDirectory] at resolved
            exact .up isDirectory (ih resolved)
          · have isName : IsName name := ⟨dot, up⟩
            rw [follow_name isDirectory isName] at resolved
            cases found : tree.find (place ++ [name]) with
            | none =>
                rw [found] at resolved
                cases resolved
            | some entry =>
                rw [found] at resolved
                cases entry with
                | link target =>
                    cases links with
                    | zero => cases resolved
                    | succ fewer =>
                        exact .link isDirectory isName found (below fewer rfl _ _ resolved)
                | _ => exact .entry isDirectory isName found nofun (ih resolved)
      · rw [follow_of_not_directory isDirectory] at resolved
        cases resolved

theorem leads_of_follow (resolved : tree.follow links place first = .ok goal) :
    Leads tree links place first goal := by
  induction links generalizing place first with
  | zero => exact leads_of_follow_of_links (fun _ none => nomatch none) resolved
  | succ links ih =>
      refine leads_of_follow_of_links (fun fewer same place names resolved => ?_) resolved
      obtain rfl : links = fewer := Nat.succ.inj same
      exact ih resolved

theorem follow_of_leads (leads : Leads tree links place first goal) :
    tree.follow links place first = .ok goal := by
  induction leads with
  | here => exact follow_nil
  | dot isDirectory _ ih => rw [follow_dot isDirectory, ih]
  | up isDirectory _ ih => rw [follow_up isDirectory, ih]
  | @entry links place goal name rest entry isDirectory isName found noLink _ ih =>
      rw [follow_name isDirectory isName, found]
      cases entry with
      | link target => exact absurd rfl (noLink target)
      | _ => exact ih
  | link isDirectory isName found _ ih =>
      rw [follow_name isDirectory isName, found]
      exact ih

def Within (small large : FileTree δ) : Prop :=
  ∀ place entry, small.find place = some entry → large.find place = some entry

theorem Within.refl (tree : FileTree δ) : tree.Within tree := fun _ _ found => found

theorem Within.trans {small middle large : FileTree δ} (early : small.Within middle)
    (late : middle.Within large) : small.Within large :=
  fun place entry found => late place entry (early place entry found)

/-- What is in one tree is in another one, but for what the files hold. -/
def Grows (small large : FileTree δ) : Prop :=
  ∀ place shape, small.shape place = some shape → large.shape place = some shape

theorem Grows.refl (tree : FileTree δ) : tree.Grows tree := fun _ _ found => found

theorem Grows.trans {small middle large : FileTree δ} (early : small.Grows middle)
    (late : middle.Grows large) : small.Grows large :=
  fun place shape found => late place shape (early place shape found)

theorem Grows.isDirectory {small large : FileTree δ} (grows : small.Grows large)
    (isDirectory : small.IsDirectory place) : large.IsDirectory place :=
  isDirectory_iff_shape.mpr (grows _ _ (isDirectory_iff_shape.mp isDirectory))

theorem Grows.link {small large : FileTree δ} {target : String} (grows : small.Grows large)
    (found : small.find place = some (.link target)) :
    large.find place = some (.link target) :=
  find_link_iff_shape.mpr (grows _ _ (find_link_iff_shape.mp found))

theorem Within.grows {small large : FileTree δ} (within : small.Within large) :
    small.Grows large := by
  intro place shape found
  obtain ⟨entry, isEntry, rfl⟩ := Option.map_eq_some_iff.mp found
  exact shape_of_find (within place entry isEntry)

theorem within_put {entry : Entry δ} {isName : IsName name}
    {isDirectory : tree.IsDirectory directory}
    {free : ¬ tree.IsDirectory (directory ++ [name])}
    (absent : tree.find (directory ++ [name]) = none) :
    tree.Within (tree.put directory name entry isName isDirectory free) := by
  intro place other found
  rw [find_put]
  by_cases same : directory ++ [name] = place
  · rw [← same, absent] at found
    cases found
  · rw [if_neg same, found]

theorem erase_within (leaf : tree.isEmpty (directory ++ [name]) = true) :
    (tree.erase directory name leaf).Within tree := by
  intro place other found
  rw [find_erase] at found
  by_cases same : directory ++ [name] = place
  · rw [if_pos same] at found
    cases found
  · rwa [if_neg same] at found

end FileTree

namespace Leads

variable {δ : Type} {tree small large : FileTree δ} {place directory middle goal : Place}
  {name : String} {first second rest : List String} {links more : Nat}

theorem grows (leads : Leads small links place first goal) (grows : small.Grows large) :
    Leads large links place first goal := by
  induction leads with
  | here links place => exact .here links place
  | dot isDirectory _ ih => exact .dot (grows.isDirectory isDirectory) ih
  | up isDirectory _ ih => exact .up (grows.isDirectory isDirectory) ih
  | @entry links place goal name rest entry isDirectory isName found noLink _ ih =>
      obtain ⟨other, present, same⟩ :=
        Option.map_eq_some_iff.mp (grows _ _ (FileTree.shape_of_find found))
      refine .entry (grows.isDirectory isDirectory) isName present (fun target isLink => ?_) ih
      rw [isLink] at same
      cases entry with
      | link _ => exact noLink _ rfl
      | _ => cases same
  | link isDirectory isName found _ ih =>
      exact .link (grows.isDirectory isDirectory) isName (grows.link found) ih

theorem within (leads : Leads small links place first goal) (within : small.Within large) :
    Leads large links place first goal :=
  leads.grows within.grows

theorem mono (leads : Leads tree links place first goal) (le : links ≤ more) :
    Leads tree more place first goal := by
  induction leads generalizing more with
  | here links place => exact .here more place
  | dot isDirectory _ ih => exact .dot isDirectory (ih le)
  | up isDirectory _ ih => exact .up isDirectory (ih le)
  | entry isDirectory isName found noLink _ ih =>
      exact .entry isDirectory isName found noLink (ih le)
  | link isDirectory isName found _ ih =>
      obtain ⟨fewer, rfl⟩ := Nat.exists_eq_add_of_le' le
      exact .link isDirectory isName found (ih (Nat.le_add_left _ _))

theorem append (early : Leads tree links place first middle)
    (late : Leads tree 0 middle second goal) : Leads tree links place (first ++ second) goal := by
  induction early with
  | here links place => exact late.mono (Nat.zero_le links)
  | dot isDirectory _ ih => exact .dot isDirectory (ih late)
  | up isDirectory _ ih => exact .up isDirectory (ih late)
  | entry isDirectory isName found noLink _ ih =>
      exact .entry isDirectory isName found noLink (ih late)
  | link isDirectory isName found _ ih =>
      have leads := ih late
      rw [List.append_assoc] at leads
      exact .link isDirectory isName found leads

theorem append_of_direct (early : Leads tree 0 place first middle)
    (late : Leads tree links middle second goal) :
    Leads tree links place (first ++ second) goal := by
  generalize none : 0 = fewer at early
  induction early with
  | here => exact late
  | dot isDirectory _ ih => exact .dot isDirectory (ih late none)
  | up isDirectory _ ih => exact .up isDirectory (ih late none)
  | entry isDirectory isName found noLink _ ih =>
      exact .entry isDirectory isName found noLink (ih late none)
  | link => exact absurd none (Nat.zero_ne_add_one _)

theorem split (leads : Leads tree links place (first ++ second) goal) :
    ∃ middle fewer, fewer ≤ links ∧ Leads tree links place first middle ∧
      Leads tree fewer middle second goal := by
  generalize same : first ++ second = all at leads
  induction leads generalizing first with
  | here links place =>
      obtain ⟨rfl, rfl⟩ := List.append_eq_nil_iff.mp same
      exact ⟨place, links, Nat.le_refl _, .here links place, .here links place⟩
  | @dot links place goal rest isDirectory leads ih =>
      cases first with
      | nil =>
          obtain rfl : second = "." :: rest := same
          exact ⟨place, links, Nat.le_refl _, .here links place, .dot isDirectory leads⟩
      | cons head tail =>
          obtain ⟨rfl, rfl⟩ := List.cons.inj same
          obtain ⟨middle, fewer, le, early, late⟩ := ih rfl
          exact ⟨middle, fewer, le, .dot isDirectory early, late⟩
  | @up links place goal rest isDirectory leads ih =>
      cases first with
      | nil =>
          obtain rfl : second = ".." :: rest := same
          exact ⟨place, links, Nat.le_refl _, .here links place, .up isDirectory leads⟩
      | cons head tail =>
          obtain ⟨rfl, rfl⟩ := List.cons.inj same
          obtain ⟨middle, fewer, le, early, late⟩ := ih rfl
          exact ⟨middle, fewer, le, .up isDirectory early, late⟩
  | @entry links place goal name rest entry isDirectory isName found noLink leads ih =>
      cases first with
      | nil =>
          obtain rfl : second = name :: rest := same
          exact ⟨place, links, Nat.le_refl _, .here links place,
            .entry isDirectory isName found noLink leads⟩
      | cons head tail =>
          obtain ⟨rfl, rfl⟩ := List.cons.inj same
          obtain ⟨middle, fewer, le, early, late⟩ := ih rfl
          exact ⟨middle, fewer, le, .entry isDirectory isName found noLink early, late⟩
  | @link links place goal name target rest isDirectory isName found leads ih =>
      cases first with
      | nil =>
          obtain rfl : second = name :: rest := same
          exact ⟨place, links + 1, Nat.le_refl _, .here (links + 1) place,
            .link isDirectory isName found leads⟩
      | cons head tail =>
          obtain ⟨rfl, rfl⟩ := List.cons.inj same
          obtain ⟨middle, fewer, le, early, late⟩ := ih (List.append_assoc _ _ _)
          exact ⟨middle, fewer, Nat.le_succ_of_le le,
            .link isDirectory isName found early, late⟩

theorem dot_eq (leads : Leads tree links place ["."] goal) : goal = place := by
  have resolved := FileTree.follow_of_leads leads
  by_cases isDirectory : tree.IsDirectory place
  · rw [FileTree.follow_dot isDirectory, FileTree.follow_nil] at resolved
    exact (Except.ok.inj resolved).symm
  · rw [FileTree.follow_of_not_directory isDirectory] at resolved
    cases resolved

theorem follow_missing (leads : Leads tree links place first directory)
    (isDirectory : tree.IsDirectory directory) (isName : IsName name)
    (absent : tree.find (directory ++ [name]) = none) :
    tree.follow links place (first ++ [name]) = .error .noEntry := by
  induction leads with
  | here links place =>
      rw [List.nil_append, FileTree.follow_name isDirectory isName, absent]
  | dot isPlace _ ih => rw [List.cons_append, FileTree.follow_dot isPlace, ih isDirectory absent]
  | up isPlace _ ih => rw [List.cons_append, FileTree.follow_up isPlace, ih isDirectory absent]
  | @entry links place goal other rest entry isPlace isOther found noLink _ ih =>
      rw [List.cons_append, FileTree.follow_name isPlace isOther, found]
      cases entry with
      | link target => exact absurd rfl (noLink target)
      | _ => exact ih isDirectory absent
  | link isPlace isOther found _ ih =>
      have missing := ih isDirectory absent
      rw [List.append_assoc] at missing
      rw [List.cons_append, FileTree.follow_name isPlace isOther, found]
      exact missing

theorem unique {other : Place} (leads : Leads tree links place first goal)
    (again : Leads tree links place first other) : goal = other :=
  Except.ok.inj ((FileTree.follow_of_leads leads).symm.trans (FileTree.follow_of_leads again))

end Leads

end FileSystem
