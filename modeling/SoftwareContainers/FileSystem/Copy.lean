import SoftwareContainers.FileSystem.Disk

namespace FileSystem

open Effect Effect.Act

/-! Writing a file, and copying one to another. -/

namespace FileTree

section

variable {δ : Type}

def store (tree : FileTree δ) (directory : Place) (name : String) (content : δ) :
    Option (FileTree δ) :=
  if fits : IsName name ∧ tree.IsDirectory directory ∧
      ¬ tree.IsDirectory (directory ++ [name]) then
    some (tree.put directory name (.regular content) fits.1 fits.2.1 fits.2.2)
  else none

/-- Where `O_CREAT` makes a file: at the end of the links that lead nowhere. -/
def newSpot (tree : FileTree δ) : Nat → Place → List String → Option (Place × String)
  | links, place, names =>
      match names.getLast? with
      | none => none
      | some name =>
          match tree.follow MAXSYMLINKS place names.dropLast with
          | .error _ => none
          | .ok directory =>
              match links, tree.find (directory ++ [name]) with
              | _, none => some (directory, name)
              | links + 1, some (.link target) =>
                  tree.newSpot links (start directory target) (parts target)
              | _, _ => none

/-- `open` with `O_TRUNC` and `O_CREAT`, and what is written then. -/
def write (tree : FileTree δ) (location : Location) (content : δ) : Option (FileTree δ) :=
  match tree.resolve location with
  | .ok place =>
      match tree.find place with
      | some (.regular _) => tree.store place.dropLast (place.getLast?.getD "") content
      | _ => none
  | .error .noEntry =>
      if location.slash = true then none
      else
        match tree.newSpot MAXSYMLINKS location.place location.names with
        | some (directory, name) => tree.store directory name content
        | none => none
  | .error _ => none

/-- What a file holds; nothing can be read from others. -/
def contentAt {β : Type} (tree : FileTree (List β)) (location : Location) : List β :=
  match tree.resolve location with
  | .ok place =>
      match tree.find place with
      | some (.regular content) => content
      | _ => []
  | .error _ => []

end

section

variable {δ : Type} {tree after : FileTree δ} {location : Location} {directory place : Place}
  {name : String} {content : δ} {entry : Entry δ}

def Differs (tree after : FileTree δ) (place : Place) (entry : Entry δ) : Prop :=
  ∀ other, after.find other = if place = other then some entry else tree.find other

theorem store_eq_some (stored : tree.store directory name content = some after) :
    ¬ tree.IsDirectory (directory ++ [name]) ∧
      tree.Differs after (directory ++ [name]) (.regular content) := by
  rw [store] at stored
  split at stored
  · rename_i fits
    cases stored
    exact ⟨fits.2.2, find_put _ _ _ _⟩
  · cases stored

theorem store_isSome (content : δ) (isName : IsName name) (isDirectory : tree.IsDirectory directory)
    (free : ¬ tree.IsDirectory (directory ++ [name])) :
    ∃ after, tree.store directory name content = some after :=
  ⟨_, dif_pos ⟨isName, isDirectory, free⟩⟩

theorem find_newSpot {links : Nat} {names : List String}
    (spot : tree.newSpot links place names = some (directory, name)) :
    tree.find (directory ++ [name]) = none := by
  induction links generalizing place names with
  | zero =>
      rw [newSpot] at spot
      split at spot
      · cases spot
      · split at spot
        · cases spot
        · split at spot
          · rename_i absent
            cases spot
            exact absent
          · rename_i same _
            cases same
          · cases spot
  | succ links ih =>
      rw [newSpot] at spot
      split at spot
      · cases spot
      · split at spot
        · cases spot
        · split at spot
          · rename_i absent
            cases spot
            exact absent
          · rename_i same _
            cases same
            exact ih spot
          · cases spot

theorem write_eq_some (written : tree.write location content = some after) :
    ∃ place, ((∃ before, tree.find place = some (.regular before)) ∨ tree.find place = none) ∧
      tree.Differs after place (.regular content) := by
  rw [write] at written
  split at written
  · rename_i place resolved
    split at written
    · rename_i before found
      rcases List.eq_nil_or_concat place with rfl | ⟨directory, name, rfl⟩
      · cases found.symm.trans tree.root
      · rw [List.concat_eq_append] at found written
        rw [List.dropLast_concat, List.getLast?_concat] at written
        exact ⟨_, .inl ⟨before, found⟩, (store_eq_some written).2⟩
    · cases written
  · split at written
    · cases written
    · split at written
      · rename_i spot
        exact ⟨_, .inr (find_newSpot spot), (store_eq_some written).2⟩
      · cases written
  · cases written

theorem Differs.grows (differs : tree.Differs after place entry)
    (fits : tree.find place = none ∨ tree.shape place = some entry.shape) :
    tree.Grows after := by
  intro other shape found
  rw [FileTree.shape, differs other]
  split
  · rename_i same
    subst same
    rcases fits with absent | present
    · rw [FileTree.shape, absent] at found
      cases found
    · rw [← found, present]
      rfl
  · exact found

theorem write_grows (written : tree.write location content = some after) : tree.Grows after := by
  obtain ⟨place, fits, differs⟩ := write_eq_some written
  refine differs.grows ?_
  rcases fits with ⟨before, found⟩ | absent
  · exact .inr ((shape_of_find found).trans rfl)
  · exact .inl absent

theorem mkdir_differs (made : tree.mkdir location = some after) :
    ∃ place, tree.find place = none ∧ tree.Differs after place .directory := by
  obtain ⟨directory, name, isName, isDirectory, free, _, absent, rfl⟩ := mkdir_eq_some made
  exact ⟨directory ++ [name], absent, find_put _ _ _ _⟩

theorem mkdir_grows (made : tree.mkdir location = some after) : tree.Grows after := by
  obtain ⟨place, absent, differs⟩ := mkdir_differs made
  exact differs.grows (.inl absent)

theorem write_of_regular (resolved : tree.resolve location = .ok place)
    {before : δ} (found : tree.find place = some (.regular before)) :
    ∃ after, tree.write location content = some after ∧
      tree.Differs after place (.regular content) := by
  rcases List.eq_nil_or_concat place with rfl | ⟨directory, name, rfl⟩
  · cases found.symm.trans tree.root
  · rw [List.concat_eq_append] at resolved found ⊢
    have present : tree.find (directory ++ [name]) ≠ none := found ▸ nofun
    have noDirectory : ¬ tree.IsDirectory (directory ++ [name]) := by
      intro isDirectory
      cases found.symm.trans isDirectory
    obtain ⟨after, stored⟩ := store_isSome content (isName_of_find present)
      (isDirectory_parent present) noDirectory
    refine ⟨after, ?_, (store_eq_some stored).2⟩
    rw [write, resolved]
    dsimp only
    rw [found]
    dsimp only
    rw [List.dropLast_concat, List.getLast?_concat]
    exact stored

theorem newSpot_of_leads {links : Nat} {front : List String}
    (leads : Leads tree MAXSYMLINKS place front directory)
    (absent : tree.find (directory ++ [name]) = none) :
    tree.newSpot links place (front ++ [name]) = some (directory, name) := by
  cases links <;>
  · rw [newSpot, List.getLast?_concat]
    dsimp only
    rw [List.dropLast_concat, follow_of_leads leads]
    dsimp only
    rw [absent]

theorem resolve_of_missing {front : List String} (noSlash : location.slash = false)
    (same : location.names = front ++ [name])
    (leads : Leads tree MAXSYMLINKS location.place front directory)
    (isDirectory : tree.IsDirectory directory) (isName : IsName name)
    (absent : tree.find (directory ++ [name]) = none) :
    tree.resolve location = .error .noEntry := by
  rw [resolve, noSlash, same, if_neg Bool.false_ne_true, List.append_nil]
  exact leads.follow_missing isDirectory isName absent

theorem write_of_missing {front : List String} (noSlash : location.slash = false)
    (same : location.names = front ++ [name])
    (leads : Leads tree MAXSYMLINKS location.place front directory)
    (isDirectory : tree.IsDirectory directory) (isName : IsName name)
    (absent : tree.find (directory ++ [name]) = none) :
    ∃ after, tree.write location content = some after ∧
      tree.Differs after (directory ++ [name]) (.regular content) := by
  have missing := resolve_of_missing noSlash same leads isDirectory isName absent
  obtain ⟨after, stored⟩ := store_isSome content isName isDirectory
    fun isDirectory => by cases absent.symm.trans isDirectory
  refine ⟨after, ?_, (store_eq_some stored).2⟩
  rw [write, missing]
  dsimp only
  rw [noSlash, if_neg Bool.false_ne_true, same, newSpot_of_leads leads absent]
  exact stored

theorem mkdir_of_missing {front : List String} (same : location.names = front ++ [name])
    (leads : Leads tree MAXSYMLINKS location.place front directory)
    (isDirectory : tree.IsDirectory directory) (isName : IsName name)
    (absent : tree.find (directory ++ [name]) = none) :
    ∃ after, tree.mkdir location = some after ∧
      tree.Differs after (directory ++ [name]) .directory := by
  have noDirectory : ¬ tree.IsDirectory (directory ++ [name]) := fun isDirectory => by
    cases absent.symm.trans isDirectory
  refine ⟨tree.put directory name .directory isName isDirectory noDirectory, ?_,
    find_put _ _ _ _⟩
  rw [mkdir, spot_of_leads same isName leads isDirectory]
  dsimp only
  rw [dif_pos ⟨isName, isDirectory, Option.isNone_iff_eq_none.mpr absent⟩]

theorem mkdir_of_resolved (resolved : tree.resolve location = .ok place) :
    tree.mkdir location = none := by
  cases made : tree.mkdir location with
  | none => rfl
  | some after =>
      obtain ⟨directory, name, _, _, _, spot, absent, _⟩ := mkdir_eq_some made
      obtain ⟨front, same, isName, leads, isDirectory⟩ := spot_eq_some spot
      have missing := leads.follow_missing isDirectory isName absent
      rw [← same, follow_of_leads (leads_of_resolve resolved)] at missing
      cases missing

end

end FileTree

namespace Disk

variable {β ε : Type}

/-- A file that is copied to itself is emptied before it is read. -/
def copied (tree : FileTree (List β)) (source target : Location) : List β :=
  match tree.resolve source, tree.resolve target with
  | .ok read, .ok written => if read = written then [] else tree.contentAt source
  | _, _ => tree.contentAt source

/-- Copy what arrives of one file to another; nothing happens when the other one cannot
be opened. -/
def copy (source target : Location) : Act Disk ε (FileTree (List β)) Bool := do
  match ← call (.copy source target) with
  | none => return false
  | some arrives => change fun tree => tree.write target ((copied tree source target).take arrives)

/-! What is there after a call, whatever it answers. -/

section

variable {δ : Type} (oracle : Oracle Disk)

theorem run_mkdir (location : Location) (world : World Disk (FileTree δ)) :
    ∃ made after, (mkdir location : Act Disk ε (FileTree δ) Bool).run oracle world =
        (.ok made, after) ∧
      after.state = (if oracle world.history (.mkdir location) = true then
        (world.state.mkdir location).getD world.state else world.state) ∧
      after.history = world.history ++
        [⟨.mkdir location, oracle world.history (.mkdir location)⟩] := by
  obtain ⟨tree, history⟩ := world
  rw [mkdir, run_ask_bind]
  cases oracle history (.mkdir location) with
  | false => exact ⟨false, _, rfl, rfl, rfl⟩
  | true =>
      rw [if_pos rfl, if_pos rfl, change, run_get_bind]
      cases tree.mkdir location with
      | none => exact ⟨false, _, rfl, rfl, rfl⟩
      | some after => exact ⟨true, _, rfl, rfl, rfl⟩

theorem run_copy (source target : Location) (world : World Disk (FileTree (List β))) :
    ∃ written after, (copy source target : Act Disk ε (FileTree (List β)) Bool).run oracle
        world = (.ok written, after) ∧
      after.state = ((oracle world.history (.copy source target)).bind fun arrives =>
        world.state.write target
          ((copied world.state source target).take arrives)).getD world.state ∧
      after.history = world.history ++
        [⟨.copy source target, oracle world.history (.copy source target)⟩] := by
  obtain ⟨tree, history⟩ := world
  rw [copy, run_ask_bind]
  cases oracle history (.copy source target) with
  | none => exact ⟨false, _, rfl, rfl, rfl⟩
  | some arrives =>
      dsimp only
      rw [change, run_get_bind, Option.bind_some]
      cases tree.write target ((copied tree source target).take arrives) with
      | none => exact ⟨false, _, rfl, rfl, rfl⟩
      | some after => exact ⟨true, _, rfl, rfl, rfl⟩

end

end Disk

end FileSystem
