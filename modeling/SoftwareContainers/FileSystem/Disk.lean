import SoftwareContainers.Effect.Act
import SoftwareContainers.FileSystem.Resolve

namespace FileSystem

open Effect Effect.Act

/-! The calls that read and change a tree. -/

/-- A path as the kernel takes it: from where the names lead, and whether a slash at the
end asks for a directory. -/
structure Location where
  place : Place
  names : List String
  slash : Bool
  deriving DecidableEq, Repr

abbrev MAXSYMLINKS := 40

/-- The empty path leads nowhere. -/
def locate (place : Place) (text : String) : Option Location :=
  if text = "" then none else some ⟨start place text, names text, endsWithSlash text⟩

namespace Location

def child (location : Location) (name : String) : Location :=
  ⟨location.place, location.names ++ [name], false⟩

def withoutSlash (location : Location) : Location := { location with slash := false }

end Location

namespace FileTree

variable {δ : Type} {tree after : FileTree δ} {location : Location} {directory place : Place}
  {name : String}

def resolve (tree : FileTree δ) (location : Location) : Except Errno Place :=
  tree.follow MAXSYMLINKS location.place
    (location.names ++ if location.slash then ["."] else [])

/-- The directory an entry is in or will be in, and its name there. -/
def spot (tree : FileTree δ) (location : Location) : Option (Place × String) :=
  match location.names.getLast? with
  | none => none
  | some name =>
      if name = "." ∨ name = ".." then none
      else
        match tree.follow MAXSYMLINKS location.place location.names.dropLast with
        | .error _ => none
        | .ok directory => if tree.IsDirectory directory then some (directory, name) else none

/-- The entry itself, where links are not followed. -/
def lstat (tree : FileTree δ) (location : Location) : Option (Entry δ) :=
  match tree.spot location with
  | none => none
  | some (directory, name) => tree.find (directory ++ [name])

def mkdir (tree : FileTree δ) (location : Location) : Option (FileTree δ) :=
  match tree.spot location with
  | none => none
  | some (directory, name) =>
      if free : IsName name ∧ tree.IsDirectory directory ∧
          (tree.find (directory ++ [name])).isNone then
        some (tree.put directory name .directory free.1 free.2.1 fun isDirectory => by
          rw [isDirectory] at free
          exact nomatch free.2.2)
      else none

/-- `remove`: an entry is unlinked, or an empty directory is removed. -/
def remove (tree : FileTree δ) (location : Location) : Option (FileTree δ) :=
  match tree.spot location with
  | none => none
  | some (directory, name) =>
      if (tree.find (directory ++ [name])).isNone then none
      else if leaf : tree.isEmpty (directory ++ [name]) = true then
        some (tree.erase directory name leaf)
      else none

theorem spot_eq_some (spot : tree.spot location = some (directory, name)) :
    ∃ front, location.names = front ++ [name] ∧ IsName name ∧
      Leads tree MAXSYMLINKS location.place front directory ∧ tree.IsDirectory directory := by
  rcases List.eq_nil_or_concat location.names with empty | ⟨front, last, same⟩
  · rw [FileTree.spot, empty] at spot
    cases spot
  · rw [List.concat_eq_append] at same
    rw [FileTree.spot, same, List.getLast?_concat, List.dropLast_concat] at spot
    dsimp only at spot
    split at spot
    · cases spot
    · rename_i isName
      cases resolved : tree.follow MAXSYMLINKS location.place front with
      | error error =>
          rw [resolved] at spot
          cases spot
      | ok goal =>
          rw [resolved] at spot
          dsimp only at spot
          split at spot
          · rename_i isDirectory
            cases spot
            exact ⟨front, same, not_or.mp isName, leads_of_follow resolved, isDirectory⟩
          · cases spot

theorem spot_of_leads {front : List String} (same : location.names = front ++ [name])
    (isName : IsName name) (leads : Leads tree MAXSYMLINKS location.place front directory)
    (isDirectory : tree.IsDirectory directory) :
    tree.spot location = some (directory, name) := by
  rw [spot, same, List.getLast?_concat, List.dropLast_concat, follow_of_leads leads]
  dsimp only
  rw [if_neg (not_or.mpr isName), if_pos isDirectory]

theorem mkdir_eq_some (made : tree.mkdir location = some after) :
    ∃ directory name isName isDirectory free, tree.spot location = some (directory, name) ∧
      tree.find (directory ++ [name]) = none ∧
      after = tree.put directory name .directory isName isDirectory free := by
  rw [mkdir] at made
  split at made
  · cases made
  · rename_i directory name spot
    split at made
    · rename_i free
      cases made
      exact ⟨directory, name, free.1, free.2.1, _, spot,
        Option.isNone_iff_eq_none.mp free.2.2, rfl⟩
    · cases made

theorem remove_eq_some (removed : tree.remove location = some after) :
    ∃ directory name leaf, tree.spot location = some (directory, name) ∧
      tree.find (directory ++ [name]) ≠ none ∧ after = tree.erase directory name leaf := by
  rw [remove] at removed
  split at removed
  · cases removed
  · rename_i directory name spot
    split at removed
    · cases removed
    · rename_i found
      split at removed
      · rename_i leaf
        cases removed
        exact ⟨directory, name, leaf, spot, fun none => found (Option.isNone_iff_eq_none.mpr none),
          rfl⟩
      · cases removed

theorem remove_within (removed : tree.remove location = some after) : after.Within tree := by
  obtain ⟨directory, name, leaf, _, _, rfl⟩ := remove_eq_some removed
  exact erase_within leaf

theorem remove_of_leaf (spot : tree.spot location = some (directory, name))
    (found : tree.find (directory ++ [name]) ≠ none)
    (leaf : tree.isEmpty (directory ++ [name]) = true) :
    tree.remove location = some (tree.erase directory name leaf) := by
  rw [remove, spot]
  dsimp only
  rw [if_neg fun none => found (Option.isNone_iff_eq_none.mp none), dif_pos leaf]

/-- A new directory is where its path leads, and nothing is in it. -/
structure Made (tree after : FileTree δ) (location : Location) (place : Place) : Prop where
  leads : Leads after MAXSYMLINKS location.place location.names place
  isDirectory : after.IsDirectory place
  empty : after.isEmpty place = true
  undone : after.remove location = some tree

theorem made_of_mkdir (made : tree.mkdir location = some after) :
    ∃ place, Made tree after location place := by
  obtain ⟨directory, name, isName, isDirectory, free, spot, absent, rfl⟩ := mkdir_eq_some made
  obtain ⟨front, same, _, leads, _⟩ := spot_eq_some spot
  generalize put : tree.put directory name .directory isName isDirectory free = after
  have within : tree.Within after := put ▸ within_put absent
  have found : after.find (directory ++ [name]) = some .directory := by
    rw [← put, find_put, if_pos rfl]
  have leaf : after.isEmpty (directory ++ [name]) = true := by
    rw [isEmpty_iff]
    intro other
    rw [← put, find_put, if_neg (by simp)]
    by_contra present
    exact free (isDirectory_parent present)
  have spotAfter : after.spot location = some (directory, name) :=
    spot_of_leads same isName (leads.within within) (within _ _ isDirectory)
  refine ⟨directory ++ [name], ?_, found, leaf, ?_⟩
  · rw [same]
    exact (leads.within within).append
      (.entry (within _ _ isDirectory) isName found nofun (.here 0 _))
  · subst put
    rw [remove, spotAfter]
    dsimp only
    rw [if_neg (by rw [found]; exact Bool.false_ne_true), dif_pos leaf, erase_put absent]

theorem resolve_of_leads (leads : Leads tree MAXSYMLINKS location.place location.names place)
    (isDirectory : tree.IsDirectory place) : tree.resolve location = .ok place := by
  rw [resolve]
  split
  · exact follow_of_leads (leads.append (.dot isDirectory (.here 0 place)))
  · rw [List.append_nil]
    exact follow_of_leads leads

theorem resolve_child (leads : Leads tree MAXSYMLINKS location.place
    (location.names ++ [name]) place) : tree.resolve (location.child name) = .ok place := by
  rw [resolve]
  change tree.follow MAXSYMLINKS location.place (location.names ++ [name] ++ []) = _
  rw [List.append_nil]
  exact follow_of_leads leads

/-- Where a path leads, its names lead. -/
theorem leads_of_resolve (resolved : tree.resolve location = .ok place) :
    Leads tree MAXSYMLINKS location.place location.names place := by
  rw [resolve] at resolved
  split at resolved
  · obtain ⟨middle, fewer, _, early, late⟩ := (leads_of_follow resolved).split
    rwa [late.dot_eq]
  · rw [List.append_nil] at resolved
    exact leads_of_follow resolved

theorem leads_of_resolve_child (resolved : tree.resolve location = .ok directory)
    (child : tree.resolve (location.child name) = .ok place) :
    Leads tree MAXSYMLINKS directory [name] place := by
  obtain ⟨middle, fewer, le, early, late⟩ := (leads_of_resolve child).split
  obtain rfl : middle = directory := early.unique (leads_of_resolve resolved)
  exact late.mono le

theorem spot_child (resolved : tree.resolve location = .ok directory) {other : Place}
    {last : String} (spot : tree.spot (location.child name) = some (other, last)) :
    other = directory ∧ last = name := by
  obtain ⟨front, same, _, leads, _⟩ := spot_eq_some spot
  obtain ⟨rfl, last⟩ := List.append_inj' (same : location.names ++ [name] = front ++ [last]) rfl
  exact ⟨leads.unique (leads_of_resolve resolved), (List.cons.inj last).1.symm⟩

theorem resolve_within {small large : FileTree δ} (within : small.Within large)
    (resolved : small.resolve location = .ok place) : large.resolve location = .ok place :=
  follow_of_leads ((leads_of_follow resolved).within within)

theorem resolve_grows {small large : FileTree δ} (grows : small.Grows large)
    (resolved : small.resolve location = .ok place) : large.resolve location = .ok place :=
  follow_of_leads ((leads_of_follow resolved).grows grows)

theorem spot_within {small large : FileTree δ} (within : small.Within large)
    (spot : small.spot location = some (directory, name)) :
    large.spot location = some (directory, name) := by
  obtain ⟨front, same, isName, leads, isDirectory⟩ := spot_eq_some spot
  exact spot_of_leads same isName (leads.within within) (within _ _ isDirectory)

theorem resolve_child_of_missing
    (leads : Leads tree MAXSYMLINKS location.place location.names place)
    (isDirectory : tree.IsDirectory place) (isName : IsName name)
    (absent : tree.find (place ++ [name]) = none) :
    tree.resolve (location.child name) = .error .noEntry := by
  rw [resolve]
  change tree.follow MAXSYMLINKS location.place (location.names ++ [name] ++ []) = _
  rw [List.append_nil]
  exact leads.follow_missing isDirectory isName absent

end FileTree

/-! The calls as a program makes them: each may also fail for another reason. -/

inductive DiskCall where
  | readdir (directory : Place)
  | mkdir (location : Location)
  | remove (location : Location)
  | copy (source target : Location)

/-- The directory is read, or may not be (`EACCES`), or reading it fails. -/
inductive Listing where
  | listed (names : List String)
  | denied
  | failed

/-- `copy` answers how much arrives in the target, if that can be opened, the other calls
whether they go through. -/
abbrev DiskCall.Answer : DiskCall → Type
  | .readdir _ => Listing
  | .mkdir _ | .remove _ => Bool
  | .copy _ _ => Option Nat

abbrev Disk : Interface := ⟨DiskCall, DiskCall.Answer⟩

namespace Disk

variable {δ ε : Type}

abbrev call {ε σ : Type} (call : DiskCall) : Act Disk ε σ call.Answer := ask (I := Disk) call

def isDirectory (location : Option Location) : Act Disk ε (FileTree δ) Bool := do
  let tree ← get
  match location.map tree.resolve with
  | some (.ok place) => return decide (tree.IsDirectory place)
  | _ => return false

def present (location : Option Location) : Act Disk ε (FileTree δ) Bool := do
  let tree ← get
  match location.map tree.resolve with
  | some (.ok _) => return true
  | _ => return false

def change (after : FileTree δ → Option (FileTree δ)) : Act Disk ε (FileTree δ) Bool := do
  match after (← get) with
  | some after =>
      set after
      return true
  | none => return false

def mkdir (location : Location) : Act Disk ε (FileTree δ) Bool := do
  if ← call (.mkdir location) then
    change (·.mkdir location)
  else
    return false

def remove (location : Location) : Act Disk ε (FileTree δ) Bool := do
  if ← call (.remove location) then
    change (·.remove location)
  else
    return false

end Disk

end FileSystem
