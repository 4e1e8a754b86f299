import SoftwareContainers.Files.Overlay

namespace SoftwareContainers

open Effect Effect.Act FileSystem FileSystem.FileTree

/-! What a copy has visited is as in the tree it is made of. An overlay is written back when
every entry fits. -/

namespace OverlaySyncCleanupHandler

variable {β : Type}

/-- What a copy holds; what cannot be read becomes an empty file. -/
def imageOf : Entry (List β) → Entry (List β)
  | .directory => .directory
  | .regular content => .regular content
  | .link target => .link target
  | .special => .regular []

variable {tree : FileTree (List β)} {workingDirectory : Place}
  {handler : OverlaySyncCleanupHandler} {source target : Location} {lower upper : Place}
  {oracle : Oracle Disk} {history : History Disk} {rest : List String} {entry : Entry (List β)}

theorem imageOf_eq {location : Location} {place : Place}
    (resolved : tree.resolve location = .ok place) (found : tree.find place = some entry)
    (notDirectory : entry ≠ .directory) (noLink : ∀ target, entry ≠ .link target) :
    imageOf entry = .regular (tree.contentAt location) := by
  rw [contentAt, resolved]
  dsimp only
  rw [found]
  cases entry with
  | directory => exact absurd rfl notDirectory
  | link target => exact absurd rfl (noLink target)
  | _ => rfl

theorem regular_of_shape {place : Place} (shape : tree.shape place = some (.regular ())) :
    ∃ content, tree.find place = some (.regular content) := by
  obtain ⟨entry, found, same⟩ := Option.map_eq_some_iff.mp shape
  cases entry with
  | regular content => exact ⟨content, found⟩
  | _ => cases same

theorem outside_of_apart (apart : ¬ upper <+: lower ∧ ¬ lower <+: upper)
    (rest : List String) : ¬ lower <+: upper ++ rest := by
  intro inside
  rcases List.prefix_or_prefix_of_prefix inside (List.prefix_append upper rest) with below | below
  · exact apart.2 below
  · exact apart.1 below

/-- There is something at the end of the path, or nothing yet in a directory that is there:
a path with a slash at its end is that of a directory. -/
def Ready (tree : FileTree (List β)) (target : Location) (lower upper : Place) : Prop :=
  (tree.resolve target = .ok lower ∧ tree.find lower ≠ none) ∨
    ∃ directory name, tree.spot target = some (directory, name) ∧ lower = directory ++ [name] ∧
      tree.find lower = none ∧ (target.slash = true → tree.IsDirectory upper)

/-- What a copy is made of, and where it goes. -/
structure Roots (tree : FileTree (List β)) (workingDirectory : Place) (src dst : String)
    (source target : Location) (lower upper : Place) : Prop where
  isSource : locate workingDirectory src = some source
  isTarget : locate workingDirectory dst = some target
  upperThere : tree.resolve source.withoutSlash = .ok upper ∧ tree.find upper ≠ none
  lowerReady : Ready tree target lower upper
  noSlash : endsWithSlash src = false
  apart : ¬ upper <+: lower ∧ ¬ lower <+: upper
  names : ∀ rest name, tree.find (upper ++ rest ++ [name]) ≠ none → IsFileName name

theorem roots_of_overlaid
    (overlaid : Overlaid tree workingDirectory handler source target lower upper) :
    Roots tree workingDirectory handler.src handler.dst source target lower upper where
  isSource := overlaid.isSource
  isTarget := overlaid.isTarget
  upperThere := ⟨overlaid.upperThere.1, by
    rw [overlaid.upperThere.2]
    exact Option.some_ne_none _⟩
  lowerReady := .inl ⟨overlaid.lowerThere.1, by
    rw [overlaid.lowerThere.2]
    exact Option.some_ne_none _⟩
  noSlash := overlaid.noSlash
  apart := overlaid.apart
  names := overlaid.names

theorem Roots.walkable {src dst : String}
    (roots : Roots tree workingDirectory src dst source target lower upper)
    (noLinks : NoLinks tree upper) : tree.Walkable source.withoutSlash upper :=
  ⟨roots.upperThere.1, roots.upperThere.2, noLinks⟩

/-- No entry is in the way of its copy. -/
def Compatible (tree : FileTree (List β)) (lower upper : Place) : Prop :=
  ∀ rest entry, tree.find (upper ++ rest) = some entry →
    tree.find (lower ++ rest) = none ∨
      tree.shape (lower ++ rest) = some (imageOf entry).shape

/-- A call that was made for one of the entries. -/
def CalledFor (upper : Place) (source target : Location) (done : Set (List String)) :
    Event Disk → Prop
  | ⟨.readdir place, _⟩ => upper <+: place
  | ⟨.mkdir location, _⟩ => ∃ rest ∈ done, location = target.below rest
  | ⟨.copy read written, _⟩ =>
      ∃ rest ∈ done, read = source.below rest ∧ written = target.below rest
  | ⟨.remove _, _⟩ => False

structure Synced (tree : FileTree (List β)) (lower upper : Place) (source target : Location)
    (history : History Disk) (done : Set (List String))
    (world : World Disk (FileTree (List β))) : Prop where
  found : ∀ rest ∈ done, tree.find (upper ++ rest) ≠ none
  closed : ∀ front name, front ++ [name] ∈ done → front ∈ done
  new : ∀ rest ∈ done, ∀ entry, tree.find (upper ++ rest) = some entry →
    world.state.find (lower ++ rest) = some (imageOf entry)
  old : ∀ rest, rest ∉ done → world.state.find (lower ++ rest) = tree.find (lower ++ rest)
  outside : ∀ place, ¬ lower <+: place → world.state.find place = tree.find place
  calls : ∃ recorded, world.history = history ++ recorded ∧
    ∀ event ∈ recorded, CalledFor upper source target done event

variable {done : Set (List String)} {world : World Disk (FileTree (List β))}

theorem shape_imageOf_ne_link (noLink : ∀ target, entry ≠ .link target) (target : String) :
    imageOf entry ≠ .link target := by
  cases entry with
  | link other => exact absurd rfl (noLink other)
  | _ => exact nofun

theorem CalledFor.mono {more : Set (List String)} (within : done ⊆ more) {event : Event Disk}
    (called : CalledFor upper source target done event) :
    CalledFor upper source target more event := by
  obtain ⟨call, answer⟩ := event
  cases call with
  | readdir place => exact called
  | mkdir location =>
      obtain ⟨rest, isDone, same⟩ := called
      exact ⟨rest, within isDone, same⟩
  | copy read written =>
      obtain ⟨rest, isDone, same⟩ := called
      exact ⟨rest, within isDone, same⟩
  | remove location => exact called

namespace Synced

theorem fits (synced : Synced tree lower upper source target history done world)
    (compatible : Compatible tree lower upper) (found : tree.find (upper ++ rest) = some entry) :
    world.state.find (lower ++ rest) = none ∨
      world.state.shape (lower ++ rest) = some (imageOf entry).shape := by
  by_cases isDone : rest ∈ done
  · exact .inr (shape_of_find (synced.new rest isDone entry found))
  · rw [FileTree.shape, synced.old rest isDone]
    exact compatible rest entry found

theorem grows (synced : Synced tree lower upper source target history done world)
    (compatible : Compatible tree lower upper) : tree.Grows world.state := by
  intro place shape present
  by_cases below : lower <+: place
  · obtain ⟨rest, rfl⟩ := below
    by_cases isDone : rest ∈ done
    · obtain ⟨entry, found⟩ := Option.ne_none_iff_exists'.mp (synced.found rest isDone)
      rw [shape_of_find (synced.new rest isDone entry found)]
      rcases compatible rest entry found with absent | same
      · rw [find_eq_none_iff_shape.mp absent] at present
        cases present
      · exact same.symm.trans present
    · rw [FileTree.shape, synced.old rest isDone]
      exact present
  · rw [FileTree.shape, synced.outside place below]
    exact present

section

variable {src dst : String}
  (roots : Roots tree workingDirectory src dst source target lower upper)
  (noLinks : NoLinks tree upper)
  (synced : Synced tree lower upper source.withoutSlash target history done world)
  (compatible : Compatible tree lower upper)

include roots noLinks synced compatible

theorem resolve_lower (present : world.state.find lower ≠ none) :
    world.state.resolve target = .ok lower := by
  have grows := synced.grows compatible
  rcases roots.lowerReady with ⟨resolved, _⟩ | ⟨directory, name, spot, rfl, absent, ofDirectory⟩
  · exact resolve_grows grows resolved
  · have isDone : [] ∈ done := by
      by_contra notDone
      have same := synced.old [] notDone
      rw [List.append_nil] at same
      exact present (same.trans absent)
    obtain ⟨entry, found⟩ := Option.ne_none_iff_exists'.mp (synced.found [] isDone)
    have made := synced.new [] isDone entry found
    rw [List.append_nil] at made
    obtain ⟨front, same, isName, leads, isDirectory⟩ := spot_eq_some spot
    have through : Leads world.state MAXSYMLINKS target.place target.names
        (directory ++ [name]) := by
      rw [same]
      exact (leads.grows grows).append (.entry (grows.isDirectory isDirectory) isName made
        (shape_imageOf_ne_link fun target isLink => noLinks [] target (isLink ▸ found)) (.here 0 _))
    by_cases slash : target.slash = true
    · rw [List.append_nil] at found
      obtain rfl : entry = .directory := Option.some.inj (found.symm.trans (ofDirectory slash))
      exact resolve_of_leads through made
    · rw [resolve, if_neg slash, List.append_nil]
      exact follow_of_leads through

theorem resolve_done (isDone : rest ∈ done) :
    world.state.resolve (target.below rest) = .ok (lower ++ rest) := by
  induction rest using List.reverseRecOn with
  | nil =>
      obtain ⟨entry, found⟩ := Option.ne_none_iff_exists'.mp (synced.found [] isDone)
      have made := synced.new [] isDone entry found
      rw [List.append_nil] at made ⊢
      exact synced.resolve_lower roots noLinks compatible (made ▸ Option.some_ne_none _)
  | append_singleton front name ih =>
      obtain ⟨entry, found⟩ := Option.ne_none_iff_exists'.mp (synced.found _ isDone)
      exact resolve_below_concat (ih (synced.closed front name isDone))
        (synced.new _ isDone entry found)
        (shape_imageOf_ne_link fun target isLink => noLinks _ target (isLink ▸ found))

end

theorem insert (synced : Synced tree lower upper source target history done world)
    (found : tree.find (upper ++ rest) = some entry)
    (parents : ∀ front name, rest = front ++ [name] → front ∈ done)
    {after : World Disk (FileTree (List β))} {event : Event Disk}
    (state : world.state.Differs after.state (lower ++ rest) (imageOf entry))
    (recorded : after.history = world.history ++ [event])
    (called : CalledFor upper source target (Insert.insert rest done) event) :
    Synced tree lower upper source target history (Insert.insert rest done) after := by
  have more : done ⊆ Insert.insert rest done := Set.subset_insert rest done
  constructor
  · rintro other (rfl | isDone)
    · exact found ▸ Option.some_ne_none entry
    · exact synced.found other isDone
  · rintro front name (same | isDone)
    · exact more (parents front name same.symm)
    · exact more (synced.closed front name isDone)
  · intro other isDone otherEntry otherFound
    rw [state]
    by_cases same : rest = other
    · subst same
      rw [if_pos rfl, Option.some.inj (found.symm.trans otherFound)]
    · rw [if_neg fun equal => same (List.append_cancel_left equal)]
      exact synced.new other (isDone.resolve_left (Ne.symm same)) otherEntry otherFound
  · intro other notDone
    rw [state, if_neg fun equal => notDone (.inl (List.append_cancel_left equal).symm)]
    exact synced.old other fun isDone => notDone (more isDone)
  · intro place outside
    rw [state, if_neg]
    · exact synced.outside place outside
    · rintro rfl
      exact outside (List.prefix_append lower rest)
  · obtain ⟨earlier, isEarlier, calls⟩ := synced.calls
    refine ⟨earlier ++ [event], by rw [recorded, isEarlier, List.append_assoc], ?_⟩
    rw [List.forall_mem_append, List.forall_mem_singleton]
    exact ⟨fun other member => CalledFor.mono more (calls other member), called⟩

section

variable {src dst : String}
  (roots : Roots tree workingDirectory src dst source target lower upper)
  (noLinks : NoLinks tree upper)
  (synced : Synced tree lower upper source.withoutSlash target history done world)
  (compatible : Compatible tree lower upper)
  (parents : ∀ front name, rest = front ++ [name] → front ∈ done)

include roots noLinks synced compatible parents

theorem resolve_present (found : world.state.find (lower ++ rest) = some entry)
    (noLink : ∀ target, entry ≠ .link target) :
    world.state.resolve (target.below rest) = .ok (lower ++ rest) := by
  rcases List.eq_nil_or_concat rest with rfl | ⟨front, name, rfl⟩
  · rw [List.append_nil] at found ⊢
    exact synced.resolve_lower roots noLinks compatible (found ▸ Option.some_ne_none _)
  · rw [List.concat_eq_append] at found parents ⊢
    exact resolve_below_concat
      (synced.resolve_done roots noLinks compatible (parents front name rfl)) found noLink

theorem directory_of_absent (found : tree.find (upper ++ rest) ≠ none)
    (absent : world.state.find (lower ++ rest) = none) :
    ∃ directory front name, lower ++ rest = directory ++ [name] ∧ IsName name ∧
      (target.below rest).names = front ++ [name] ∧
      ((target.below rest).slash = true → tree.IsDirectory (upper ++ rest)) ∧
      Leads world.state MAXSYMLINKS (target.below rest).place front directory ∧
      world.state.IsDirectory directory := by
  rcases List.eq_nil_or_concat rest with rfl | ⟨front, name, rfl⟩
  · have grows := synced.grows compatible
    rw [List.append_nil] at absent ⊢
    rw [List.append_nil]
    rcases roots.lowerReady with ⟨_, present⟩ | ⟨directory, name, spot, same, _, ofDirectory⟩
    · exact absurd absent (grows.find_ne_none present)
    · obtain ⟨front, names, isName, leads, isDirectory⟩ := spot_eq_some spot
      exact ⟨directory, front, name, same, isName, names, ofDirectory, leads.grows grows,
        grows.isDirectory isDirectory⟩
  · rw [List.concat_eq_append] at found parents ⊢
    have isDone := parents front name rfl
    rw [← List.append_assoc] at found
    rw [Location.below_concat]
    exact ⟨lower ++ front, (target.below front).names, name, (List.append_assoc ..).symm,
      isName_of_find found, rfl, fun slash => absurd slash Bool.false_ne_true,
      leads_of_resolve (synced.resolve_done roots noLinks compatible isDone),
      synced.new front isDone .directory (isDirectory_parent found)⟩

theorem visit_directory (goes : ∀ history location, oracle history (.mkdir location) = true)
    (found : tree.find (upper ++ rest) = some .directory) :
    ∃ after, (copyEntry (source.withoutSlash.below rest) .directory
        (some (target.below rest))).run oracle world = (.ok ⟨⟩, after) ∧
      Synced tree lower upper source.withoutSlash target history (Insert.insert rest done)
        after := by
  obtain ⟨made, after, ran, state, recorded⟩ := Disk.run_mkdir (ε := Fault) oracle
    (target.below rest) world
  refine ⟨after, ?_, synced.insert found parents ?_ recorded ⟨rest, .inl rfl, rfl⟩⟩
  · rw [copyEntry, run_bind_ok ran, run_pure]
  · rw [goes, if_pos rfl] at state
    rcases synced.fits compatible found with absent | shape
    · obtain ⟨directory, front, name, same, isName, names, _, leads, isDirectory⟩ :=
        synced.directory_of_absent roots noLinks compatible parents
          (found ▸ Option.some_ne_none _) absent
      rw [same] at absent ⊢
      obtain ⟨tree', isMade, differs⟩ := mkdir_of_missing names leads isDirectory isName absent
      rw [state, isMade]
      exact differs
    · have isDirectory := isDirectory_iff_shape.mpr shape
      rw [state, mkdir_of_resolved (synced.resolve_present roots noLinks compatible parents
        isDirectory nofun)]
      intro place
      split
      · rename_i same
        exact same ▸ isDirectory
      · rfl

theorem visit_file (faultless : ∀ history source target, ∃ arrives,
      oracle history (.copy source target) = some arrives ∧
        (tree.contentAt source).length ≤ arrives)
    (found : tree.find (upper ++ rest) = some entry) (notDirectory : entry ≠ .directory) :
    ∃ after, (copyEntry (source.withoutSlash.below rest) .file
        (some (target.below rest))).run oracle world = (.ok ⟨⟩, after) ∧
      Synced tree lower upper source.withoutSlash target history (Insert.insert rest done)
        after := by
  obtain ⟨written, after, ran, state, recorded⟩ := Disk.run_copy (ε := Fault) oracle
    (source.withoutSlash.below rest) (target.below rest) world
  refine ⟨after, ?_, synced.insert found parents ?_ recorded ⟨rest, .inl rfl, rfl, rfl⟩⟩
  · rw [copyEntry, run_bind_ok ran, run_pure]
  · obtain ⟨arrives, answered, whole⟩ := faultless world.history
      (source.withoutSlash.below rest) (target.below rest)
    have walkable := roots.walkable noLinks
    have present : tree.find (upper ++ rest) ≠ none := found ▸ Option.some_ne_none entry
    have resolved := walkable.resolve_below (.refl tree) present
    have resolvedNow := walkable.resolve_below (synced.grows compatible) present
    have outside := outside_of_apart roots.apart rest
    have noLink : ∀ target, entry ≠ .link target := fun target isLink =>
      noLinks rest target (isLink ▸ found)
    have image := imageOf_eq resolved found notDirectory noLink
    have sameContent : world.state.contentAt (source.withoutSlash.below rest) =
        tree.contentAt (source.withoutSlash.below rest) := by
      rw [contentAt, resolvedNow, contentAt, resolved]
      dsimp only
      rw [synced.outside _ outside]
    have copied (elsewhere : world.state.resolve (target.below rest) ≠ .ok (upper ++ rest)) :
        Disk.copied world.state (source.withoutSlash.below rest) (target.below rest) =
          tree.contentAt (source.withoutSlash.below rest) := by
      rw [Disk.copied, resolvedNow]
      split
      · rename_i read written isRead isWritten
        cases isRead
        rw [if_neg fun same : upper ++ rest = written => elsewhere (same ▸ isWritten), sameContent]
      · exact sameContent
    rw [answered, Option.bind_some] at state
    rw [image]
    rcases synced.fits compatible found with absent | shape
    · obtain ⟨directory, front, name, same, isName, names, ofDirectory, leads, isDirectory⟩ :=
        synced.directory_of_absent roots noLinks compatible parents present absent
      have noSlash : (target.below rest).slash = false := Bool.eq_false_iff.mpr fun slash =>
        notDirectory (Option.some.inj (found.symm.trans (ofDirectory slash)))
      rw [same] at absent ⊢
      have missing := resolve_of_missing noSlash names leads isDirectory isName absent
      rw [copied (missing ▸ nofun), List.take_of_length_le whole] at state
      obtain ⟨tree', isWritten, differs⟩ := write_of_missing noSlash names leads isDirectory
        isName absent
      rw [state, isWritten]
      exact differs
    · rw [image] at shape
      obtain ⟨before, isRegular⟩ := regular_of_shape shape
      have reached := synced.resolve_present roots noLinks compatible parents isRegular nofun
      have elsewhere : world.state.resolve (target.below rest) ≠ .ok (upper ++ rest) := by
        rw [reached]
        intro same
        have equal : lower ++ rest = upper ++ rest := Except.ok.inj same
        exact outside ⟨rest, equal⟩
      rw [copied elsewhere, List.take_of_length_le whole] at state
      obtain ⟨tree', isWritten, differs⟩ := write_of_regular reached isRegular
      rw [state, isWritten]
      exact differs

end

end Synced

theorem isFileName_of_found
    (names : ∀ rest name, tree.find (upper ++ rest ++ [name]) ≠ none → IsFileName name)
    (found : tree.find (upper ++ rest) ≠ none) : ∀ name ∈ rest, IsFileName name := by
  induction rest using List.reverseRecOn with
  | nil => exact List.forall_mem_nil _
  | append_singleton front name ih =>
      rw [← List.append_assoc] at found
      rw [List.forall_mem_append, List.forall_mem_singleton]
      exact ⟨ih (isDirectory_parent found ▸ Option.some_ne_none _), names front name found⟩

theorem compatible_of_fits (noLinks : NoLinks tree upper) (fits : Fits tree lower upper) :
    Compatible tree lower upper := by
  intro rest entry found
  obtain ⟨notSpecial, fit⟩ := fits rest entry found
  cases entry with
  | special => exact absurd rfl notSpecial
  | link target => exact absurd found (noLinks rest target)
  | _ => exact fit

section

variable {src dst : String}
  (roots : Roots tree workingDirectory src dst source target lower upper)

include roots

theorem copy_eq : (RecursiveCopy.copy workingDirectory src dst :
      Act Disk Fault (FileTree (List β)) Bool) =
    nftw false (copyFile workingDirectory src dst) source := by
  rw [RecursiveCopy.copy, roots.isSource]

theorem copyFile_eq (found : tree.find (upper ++ rest) ≠ none) (flag : TypeFlag) :
    (copyFile workingDirectory src dst (source.withoutSlash.below rest) flag :
        Act Disk Fault (FileTree (List β)) PUnit) =
      copyEntry (source.withoutSlash.below rest) flag (some (target.below rest)) := by
  have isSource := roots.isSource
  rw [locate] at isSource
  split at isSource
  · cases isSource
  · rename_i nonempty
    have sameNames : source.withoutSlash.names = names src :=
      (congrArg Location.names (Option.some.inj isSource)).symm
    rw [copyFile, RecursiveCopy.names_below, sameNames, List.drop_left,
      RecursiveCopy.locate_dstPath nonempty roots.noSlash roots.isTarget
        (isFileName_of_found roots.names found)]

theorem visits_grows : Visits tree source.withoutSlash upper
    (copyFile workingDirectory src dst) oracle fun _ world => tree.Grows world.state where
  grows := fun grows => grows
  unread := fun _ _ grows => grows
  visited := by
    intro done world rest entry grows found _
    rw [copyFile_eq roots (found ▸ Option.some_ne_none entry)]
    obtain ⟨after, ran, added⟩ := run_copyEntry_added oracle
      (source.withoutSlash.below rest) entry.flag (some (target.below rest)) world
    exact ⟨after, ran, grows.trans added.grows⟩

theorem visits_synced (noLinks : NoLinks tree upper) (reliable : Reliable tree upper oracle)
    (compatible : Compatible tree lower upper) : Visits tree source.withoutSlash upper
    (copyFile workingDirectory src dst) oracle
    (Synced tree lower upper source.withoutSlash target history) where
  grows := fun synced => synced.grows compatible
  unread := by
    intro done world rest listed synced
    obtain ⟨recorded, isRecorded, calls⟩ := synced.calls
    refine { synced with calls := ⟨recorded ++ [⟨.readdir (upper ++ rest), listed⟩], ?_, ?_⟩ }
    · rw [isRecorded, List.append_assoc]
    · rw [List.forall_mem_append, List.forall_mem_singleton]
      exact ⟨calls, List.prefix_append upper rest⟩
  visited := by
    intro done world rest entry synced found parents
    rw [copyFile_eq roots (found ▸ Option.some_ne_none entry)]
    cases entry with
    | directory =>
        exact synced.visit_directory roots noLinks compatible parents reliable.mkdir found
    | link target => exact absurd found (noLinks rest target)
    | regular content =>
        exact synced.visit_file roots noLinks compatible parents reliable.copy found nofun
    | special =>
        exact synced.visit_file roots noLinks compatible parents reliable.copy found nofun

theorem copy_grows (history : History Disk) (noLinks : NoLinks tree upper)
    (faultless : Faultless tree upper oracle) :
    ∃ after, (RecursiveCopy.copy workingDirectory src dst).run oracle ⟨tree, history⟩ =
        (.ok true, after) ∧ tree.Grows after.state := by
  rw [copy_eq roots]
  obtain ⟨after, ⟨_, fails⟩ | walked⟩ := run_nftw (roots.walkable noLinks)
    faultless.lists.listsOrFails (visits_grows roots)
    (rfl : (⟨tree, history⟩ : World Disk (FileTree (List β))).state = tree) (.refl tree)
  · exact absurd fails faultless.lists.not_fails
  · exact ⟨after, walked⟩

/-- The walk stops at a directory that cannot be listed, or everything has been copied. -/
theorem copy_stops_or_synced (history : History Disk) (noLinks : NoLinks tree upper)
    (reliable : Reliable tree upper oracle) (compatible : Compatible tree lower upper) :
    ∃ after, ((RecursiveCopy.copy workingDirectory src dst).run oracle ⟨tree, history⟩ =
        (.ok false, after) ∧ Fails tree upper oracle) ∨
      (RecursiveCopy.copy workingDirectory src dst).run oracle ⟨tree, history⟩ =
        (.ok true, after) ∧
      Synced tree lower upper source.withoutSlash target history
        { rest | tree.find (upper ++ rest) ≠ none } after := by
  rw [copy_eq roots]
  refine run_nftw (roots.walkable noLinks) reliable.lists
    (visits_synced roots noLinks reliable compatible) rfl ?_
  exact ⟨fun _ none => none.elim, fun _ _ none => none.elim, fun _ none => none.elim,
    fun _ _ => rfl, fun _ _ => rfl, [], (List.append_nil _).symm, List.forall_mem_nil _⟩

theorem copy_synced (history : History Disk) (noLinks : NoLinks tree upper)
    (faultless : Faultless tree upper oracle) (compatible : Compatible tree lower upper) :
    ∃ after, (RecursiveCopy.copy workingDirectory src dst).run oracle ⟨tree, history⟩ =
        (.ok true, after) ∧
      Synced tree lower upper source.withoutSlash target history
        { rest | tree.find (upper ++ rest) ≠ none } after := by
  obtain ⟨after, ⟨_, fails⟩ | synced⟩ :=
    copy_stops_or_synced roots history noLinks faultless.reliable compatible
  · exact absurd fails faultless.lists.not_fails
  · exact ⟨after, synced⟩

/-- Where everything fits, what has been copied is what was shown. -/
theorem writesBack_of_synced (noLinks : NoLinks tree upper) (fits : Fits tree lower upper)
    (compatible : Compatible tree lower upper)
    (synced : Synced tree lower upper source.withoutSlash target history
      { rest | tree.find (upper ++ rest) ≠ none } world) :
    WritesBack tree lower upper history world := by
  constructor
  · intro rest
    cases found : tree.find (upper ++ rest) with
    | none =>
        rw [merged_of_lower fits noLinks found]
        exact synced.old rest fun isDone => isDone found
    | some entry =>
        have isDone : tree.find (upper ++ rest) ≠ none := found ▸ Option.some_ne_none entry
        rw [merged_of_upper found, synced.new rest isDone entry found]
        cases entry with
        | special => exact absurd rfl (fits rest _ found).1
        | link target => exact absurd found (noLinks rest target)
        | _ => rfl
  · exact synced.outside
  · obtain ⟨recorded, isRecorded, calls⟩ := synced.calls
    refine ⟨recorded, isRecorded, fun event member => ?_⟩
    have called := calls event member
    have intoLower : ∀ rest, tree.find (upper ++ rest) ≠ none → ∀ place,
        world.state.resolve (target.below rest) = .ok place → lower <+: place := by
      intro rest isDone place resolved
      rw [synced.resolve_done roots noLinks compatible isDone] at resolved
      exact ⟨rest, Except.ok.inj resolved⟩
    obtain ⟨call, answer⟩ := event
    cases call with
    | readdir place => exact called
    | mkdir location =>
        obtain ⟨rest, isDone, rfl⟩ := called
        exact intoLower rest isDone
    | copy read written =>
        obtain ⟨rest, isDone, rfl, rfl⟩ := called
        refine ⟨fun place resolved => ?_, intoLower rest isDone⟩
        rw [(roots.walkable noLinks).resolve_below (synced.grows compatible) isDone] at resolved
        exact ⟨rest, Except.ok.inj resolved⟩
    | remove location => exact called

end

theorem compatible_of_kept (kept : Kept tree lower upper) : Compatible tree lower upper := by
  intro rest entry found
  rcases (kept rest entry found).2 with absent | ⟨notSpecial, shape⟩
  · exact .inl absent
  · cases entry with
    | special => exact absurd rfl notSpecial
    | _ => exact .inr shape

theorem fits_of_writesBack
    (overlaid : Overlaid tree workingDirectory handler source target lower upper)
    (noLinks : NoLinks tree upper) (faultless : Faultless tree upper oracle)
    (sound : ∀ after, (handler.clean workingDirectory).run oracle ⟨tree, history⟩ =
      (.ok true, after) → WritesBack tree lower upper history after) :
    Fits tree lower upper := by
  have roots := roots_of_overlaid overlaid
  obtain ⟨after, ran, _⟩ := copy_grows roots history noLinks faultless
  have writesBack := sound after ran
  have added : Added tree after.state := by
    have added : Added tree
        ((handler.clean workingDirectory).run oracle ⟨tree, history⟩).2.state := clean_added
    rwa [clean, ran] at added
  have kept := kept_of_writesBack added writesBack
  intro rest entry found
  refine ⟨?_, (kept rest entry found).2.imp_right And.right⟩
  rintro rfl
  obtain ⟨after', ran', synced⟩ := copy_synced roots history noLinks faultless
    (compatible_of_kept kept)
  obtain rfl : after = after' := congrArg Prod.snd (ran.symm.trans ran')
  have isDone : tree.find (upper ++ rest) ≠ none := found ▸ Option.some_ne_none _
  have shows := (writesBack.merged rest).trans (merged_of_upper found)
  cases shows.symm.trans (synced.new rest isDone _ found)

/-- Nothing is lost if there are no links, every call whose result is not looked at goes
through, and every entry fits. Whatever the kernel answers, the overlay is not written back if
links are new or something was removed, and where the other conditions hold the last one is
necessary. -/
theorem clean_writesBack
    (overlaid : Overlaid tree workingDirectory handler source target lower upper) :
    (NoLinks tree upper ∧ Reliable tree upper oracle ∧ Fits tree lower upper →
      ∀ after, (handler.clean workingDirectory).run oracle ⟨tree, history⟩ = (.ok true, after) →
        WritesBack tree lower upper history after) ∧
    (∀ after, (handler.clean workingDirectory).run oracle ⟨tree, history⟩ = (.ok true, after) →
      WritesBack tree lower upper history after → Kept tree lower upper) ∧
    (NoLinks tree upper → Faultless tree upper oracle →
      (∀ after, (handler.clean workingDirectory).run oracle ⟨tree, history⟩ = (.ok true, after) →
        WritesBack tree lower upper history after) → Fits tree lower upper) := by
  refine ⟨?_, fun after ran writesBack => ?_, fits_of_writesBack overlaid⟩
  · rintro ⟨noLinks, reliable, fits⟩ after ran
    have compatible := compatible_of_fits noLinks fits
    have roots := roots_of_overlaid overlaid
    obtain ⟨after', ⟨stopped, _⟩ | ⟨ran', synced⟩⟩ :=
      copy_stops_or_synced roots history noLinks reliable compatible
    · cases congrArg Prod.fst (ran.symm.trans stopped)
    obtain rfl : after = after' := congrArg Prod.snd (ran.symm.trans ran')
    exact writesBack_of_synced roots noLinks fits compatible synced
  · have added : Added tree
        ((handler.clean workingDirectory).run oracle ⟨tree, history⟩).2.state := clean_added
    rw [ran] at added
    exact kept_of_writesBack added writesBack

def obliging (tree : FileTree (List β)) : Oracle Disk
  | _, .readdir place => .listed (tree.children place)
  | _, .mkdir _ | _, .remove _ => true
  | _, .copy source _ => some (tree.contentAt source).length

theorem faultless_obliging (tree : FileTree (List β)) (upper : Place) :
    Faultless tree upper (obliging tree) where
  lists _ _ _ := ⟨_, rfl, tree.nodup_children _, fun _ _ => mem_children⟩
  mkdir _ _ := rfl
  copy _ _ _ := ⟨_, rfl, le_refl _⟩

theorem isName_upper : IsName "upper" := by decide

theorem isName_file : IsName "file" := by decide

def oneEntry (entry : Entry (List Nat)) : FileTree (List Nat) :=
  let lower := bare.put [] "lower" .directory (by decide) (by decide +kernel)
    (by decide +kernel)
  let upper := lower.put [] "upper" .directory isName_upper (by decide +kernel)
    (by decide +kernel)
  upper.put ["upper"] "file" entry isName_file (by decide +kernel) (by decide +kernel)

theorem find_oneEntry (entry : Entry (List Nat)) (rest : List String) :
    (oneEntry entry).find (["upper"] ++ rest) =
      if rest = ["file"] then some entry else if rest = [] then some .directory else none := by
  rw [oneEntry, find_put, find_put, find_put, find, bare, getElem?_insert]
  rcases rest with _ | ⟨name, _ | ⟨next, rest⟩⟩
  · simp
  · by_cases isFile : name = "file"
    · simp [isFile]
    · simp [isFile, Ne.symm isFile]
  · simp

theorem overlaid_of_oneEntry {tree : FileTree (List Nat)} (entry : Entry (List Nat))
    (same : ∀ rest, tree.find (["upper"] ++ rest) = (oneEntry entry).find (["upper"] ++ rest))
    (resolved : tree.resolve ⟨[], ["upper"], false⟩ = .ok ["upper"] ∧
      tree.resolve ⟨[], ["lower"], false⟩ = .ok ["lower"])
    (there : tree.IsDirectory ["upper"] ∧ tree.IsDirectory ["lower"]) :
    Overlaid tree [] ⟨"/upper", "/lower"⟩ ⟨[], ["upper"], false⟩ ⟨[], ["lower"], false⟩
      ["lower"] ["upper"] where
  isSource := by decide +kernel
  isTarget := by decide +kernel
  upperThere := ⟨resolved.1, there.1⟩
  lowerThere := ⟨resolved.2, there.2⟩
  noSlash := by decide +kernel
  apart := by decide
  names := by
    intro rest name found
    rw [List.append_assoc, same, find_oneEntry] at found
    split at found
    · rename_i isFile
      cases rest with
      | nil =>
          obtain rfl : name = "file" := by simpa using isFile
          decide
      | cons => simp at isFile
    · simp at found

/-- A new file is written back. -/
theorem clean_writesBack_newFile :
    ∃ after, (clean [] ⟨"/upper", "/lower"⟩).run (obliging (oneEntry (.regular [7])))
        ⟨oneEntry (.regular [7]), []⟩ = (.ok true, after) ∧
      WritesBack (oneEntry (.regular [7])) ["lower"] ["upper"] [] after := by
  have overlaid := overlaid_of_oneEntry (.regular [7]) (fun _ => rfl) (by decide +kernel)
    (by decide +kernel)
  have noLinks : NoLinks (oneEntry (.regular [7])) ["upper"] := by
    intro rest target
    rw [find_oneEntry]
    split
    · nofun
    · split <;> nofun
  have fits : Fits (oneEntry (.regular [7])) ["lower"] ["upper"] := by
    intro rest entry found
    rw [find_oneEntry] at found
    split at found
    · rename_i isFile
      cases found
      subst isFile
      exact ⟨nofun, .inl (by decide +kernel)⟩
    · split at found
      · rename_i isTop
        cases found
        subst isTop
        exact ⟨nofun, .inr (by decide +kernel)⟩
      · cases found
  have done : ((clean [] ⟨"/upper", "/lower"⟩).run (obliging (oneEntry (.regular [7])))
      ⟨oneEntry (.regular [7]), []⟩).1 = .ok true := by decide +kernel
  exact ⟨_, Prod.ext done rfl, (clean_writesBack overlaid).1
    ⟨noLinks, (faultless_obliging _ _).reliable, fits⟩ _ (Prod.ext done rfl)⟩

def whiteoutOverFile : FileTree (List Nat) :=
  (oneEntry .special).put ["lower"] "file" (.regular [7]) isName_file (by decide +kernel)
    (by decide +kernel)

theorem removed_file_comes_back :
    ¬ ∀ (tree : FileTree (List Nat)) (handler : OverlaySyncCleanupHandler)
      (source target : Location) (lower upper : Place) (oracle : Oracle Disk)
      (after : World Disk (FileTree (List Nat))),
      Overlaid tree [] handler source target lower upper →
        (handler.clean []).run oracle ⟨tree, []⟩ = (.ok true, after) →
          WritesBack tree lower upper [] after := by
  intro claim
  have same : ∀ rest, whiteoutOverFile.find (["upper"] ++ rest) =
      (oneEntry .special).find (["upper"] ++ rest) := fun rest => by
    rw [whiteoutOverFile, find_put, if_neg (by simp)]
  have overlaid := overlaid_of_oneEntry .special same (by decide +kernel) (by decide +kernel)
  have done : ((clean [] ⟨"/upper", "/lower"⟩).run (obliging whiteoutOverFile)
      ⟨whiteoutOverFile, []⟩).1 = .ok true := by decide +kernel
  have emptied : ((clean [] ⟨"/upper", "/lower"⟩).run (obliging whiteoutOverFile)
      ⟨whiteoutOverFile, []⟩).2.state.find (["lower"] ++ ["file"]) = some (.regular []) := by
    decide +kernel
  have hidden : merged whiteoutOverFile ["lower"] ["upper"] ["file"] = none := by decide +kernel
  generalize ran : (clean [] ⟨"/upper", "/lower"⟩).run (obliging whiteoutOverFile)
      ⟨whiteoutOverFile, []⟩ = ended at done emptied
  have writesBack := claim _ _ _ _ _ _ (obliging whiteoutOverFile) ended.2 overlaid
    (ran.trans (Prod.ext done rfl))
  cases emptied.symm.trans ((writesBack.merged ["file"]).trans hidden)

end OverlaySyncCleanupHandler

end SoftwareContainers
