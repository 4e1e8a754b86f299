import SoftwareContainers.Files.RecursiveCopy

namespace SoftwareContainers

open Effect Effect.Act FileSystem FileSystem.FileTree

/-! What an overlay shows, and what is written back of it. -/

/-- A whiteout hides what is below it. -/
def shown {δ : Type} : Entry δ → Option (Entry δ)
  | .special => none
  | entry => some entry

/-- What the upper directory has comes first. -/
def merged {δ : Type} (tree : FileTree δ) : Place → Place → List String → Option (Entry δ)
  | lower, upper, [] =>
      match tree.find upper with
      | some entry => shown entry
      | none => tree.find lower
  | lower, upper, name :: rest =>
      match tree.find upper with
      | some .directory => merged tree (lower ++ [name]) (upper ++ [name]) rest
      | some _ => none
      | none => tree.find (lower ++ name :: rest)

variable {β : Type}

def Inside (after : FileTree (List β)) (lower upper : Place) : Event Disk → Prop
  | ⟨.readdir place, _⟩ => upper <+: place
  | ⟨.mkdir location, _⟩ => ∀ place, after.resolve location = .ok place → lower <+: place
  | ⟨.copy source target, _⟩ =>
      (∀ place, after.resolve source = .ok place → upper <+: place) ∧
        ∀ place, after.resolve target = .ok place → lower <+: place
  | ⟨.remove _, _⟩ => False

/-- The lower tree is what the overlay has shown, and nothing else is touched. -/
structure WritesBack (before : FileTree (List β)) (lower upper : Place)
    (history : History Disk) (after : World Disk (FileTree (List β))) : Prop where
  merged : ∀ rest, after.state.find (lower ++ rest) = merged before lower upper rest
  outside : ∀ place, ¬ lower <+: place → after.state.find place = before.find place
  inside : ∃ recorded, after.history = history ++ recorded ∧
    ∀ event ∈ recorded, Inside after.state lower upper event

/-- The directories of an overlay. -/
structure Overlaid (tree : FileTree (List β)) (workingDirectory : Place)
    (handler : OverlaySyncCleanupHandler) (source target : Location) (lower upper : Place) :
    Prop where
  isSource : locate workingDirectory handler.src = some source
  isTarget : locate workingDirectory handler.dst = some target
  upperThere : tree.resolve source.withoutSlash = .ok upper ∧ tree.IsDirectory upper
  lowerThere : tree.resolve target = .ok lower ∧ tree.IsDirectory lower
  noSlash : endsWithSlash handler.src = false
  apart : ¬ upper <+: lower ∧ ¬ lower <+: upper
  names : ∀ rest name, tree.find (upper ++ rest ++ [name]) ≠ none → IsFileName name

def NoLinks (tree : FileTree (List β)) (upper : Place) : Prop :=
  ∀ rest target, tree.find (upper ++ rest) ≠ some (.link target)

/-- Every call goes through. -/
structure Faultless (tree : FileTree (List β)) (upper : Place) (oracle : Oracle Disk) :
    Prop where
  lists : Lists tree upper oracle
  mkdir : ∀ history location, oracle history (.mkdir location) = true
  copy : ∀ history source target, ∃ arrives,
    oracle history (.copy source target) = some arrives ∧
      (tree.contentAt source).length ≤ arrives

/-- Every call that is not reported goes through: only a directory may fail to be listed. -/
structure Reliable (tree : FileTree (List β)) (upper : Place) (oracle : Oracle Disk) :
    Prop where
  lists : ListsOrFails tree upper oracle
  mkdir : ∀ history location, oracle history (.mkdir location) = true
  copy : ∀ history source target, ∃ arrives,
    oracle history (.copy source target) = some arrives ∧
      (tree.contentAt source).length ≤ arrives

theorem Faultless.reliable {tree : FileTree (List β)} {upper : Place} {oracle : Oracle Disk}
    (faultless : Faultless tree upper oracle) : Reliable tree upper oracle where
  lists := faultless.lists.listsOrFails
  mkdir := faultless.mkdir
  copy := faultless.copy

/-- Nothing has been removed from the lower tree, and no entry is of another kind. -/
def Fits (tree : FileTree (List β)) (lower upper : Place) : Prop :=
  ∀ rest entry, tree.find (upper ++ rest) = some entry →
    entry ≠ .special ∧
      (tree.find (lower ++ rest) = none ∨ tree.shape (lower ++ rest) = some entry.shape)

/-- The lower tree has each link of the upper one, and nothing in it has been removed or has
become of another kind. -/
def Kept (tree : FileTree (List β)) (lower upper : Place) : Prop :=
  ∀ rest entry, tree.find (upper ++ rest) = some entry →
    (∀ target, entry = .link target → tree.find (lower ++ rest) = some (.link target)) ∧
      (tree.find (lower ++ rest) = none ∨
        entry ≠ .special ∧ tree.shape (lower ++ rest) = some entry.shape)

namespace OverlaySyncCleanupHandler

variable {tree : FileTree (List β)} {workingDirectory : Place}
  {handler : OverlaySyncCleanupHandler} {source target : Location} {lower upper : Place}
  {oracle : Oracle Disk} {history : History Disk} {rest : List String} {entry : Entry (List β)}

theorem merged_of_upper (found : tree.find (upper ++ rest) = some entry) :
    merged tree lower upper rest = shown entry := by
  induction rest generalizing lower upper with
  | nil =>
      rw [List.append_nil] at found
      rw [merged, found]
  | cons name rest ih =>
      have present : tree.find (upper ++ name :: rest) ≠ none := found ▸ Option.some_ne_none entry
      have isDirectory : tree.find upper = some .directory := isDirectory_of_find_append present
      rw [merged, isDirectory]
      exact ih (by rwa [← List.append_cons])

theorem merged_of_lower (fits : Fits tree lower upper) (noLinks : NoLinks tree upper)
    (absent : tree.find (upper ++ rest) = none) :
    merged tree lower upper rest = tree.find (lower ++ rest) := by
  induction rest generalizing lower upper with
  | nil =>
      rw [List.append_nil] at absent ⊢
      rw [merged, absent]
  | cons name rest ih =>
      rw [merged]
      cases found : tree.find upper with
      | none => rfl
      | some entry =>
          have kind := fits [] entry (by rwa [List.append_nil])
          rw [List.append_nil] at kind
          cases entry with
          | directory =>
              dsimp only
              rw [List.append_cons] at absent
              rw [ih _ _ absent, ← List.append_cons]
              · intro rest entry found
                rw [← List.append_cons] at found ⊢
                exact fits (name :: rest) entry found
              · intro rest target
                rw [← List.append_cons]
                exact noLinks (name :: rest) target
          | special => exact absurd rfl kind.1
          | link target => exact absurd (by rwa [List.append_nil]) (noLinks [] target)
          | regular content =>
              dsimp only
              by_contra present
              have isDirectory : tree.IsDirectory lower :=
                isDirectory_of_find_append (Ne.symm present)
              rcases kind.2 with none | shape
              · cases none.symm.trans isDirectory
              · rw [isDirectory_iff_shape.mp isDirectory] at shape
                cases shape

/-! Whatever there is, the walk removes nothing and changes no entry to another kind. -/

/-- Nothing is removed and no entry changes its kind, and links are not made. -/
structure Added (before after : FileTree (List β)) : Prop where
  grows : before.Grows after
  links : ∀ place target, after.find place = some (.link target) →
    before.find place = some (.link target)

theorem Added.refl (tree : FileTree (List β)) : Added tree tree :=
  ⟨.refl tree, fun _ _ found => found⟩

theorem Added.trans {first second third : FileTree (List β)} (early : Added first second)
    (late : Added second third) : Added first third :=
  ⟨early.grows.trans late.grows,
    fun place target found => early.links place target (late.links place target found)⟩

theorem added_of_differs {before after : FileTree (List β)} {place : Place}
    (grows : before.Grows after) (differs : before.Differs after place entry)
    (noLink : ∀ target, entry ≠ .link target) : Added before after := by
  refine ⟨grows, fun other target found => ?_⟩
  rw [differs] at found
  split at found
  · exact absurd (Option.some.inj found) (noLink target)
  · exact found

theorem added_mkdir (oracle : Oracle Disk) (target : Location)
    (world : World Disk (FileTree (List β))) :
    ∃ made after, (Disk.mkdir target : Act Disk Fault (FileTree (List β)) Bool).run oracle
      world = (.ok made, after) ∧ Added world.state after.state := by
  obtain ⟨made, after, ran, state, _⟩ := Disk.run_mkdir (ε := Fault) oracle
    target world
  refine ⟨made, after, ran, ?_⟩
  rw [state]
  split
  · cases result : world.state.mkdir target with
    | none => exact .refl _
    | some after =>
        obtain ⟨place, _, differs⟩ := mkdir_differs result
        exact added_of_differs (mkdir_grows result) differs nofun
  · exact .refl _

theorem added_copy (oracle : Oracle Disk) (source target : Location)
    (world : World Disk (FileTree (List β))) :
    ∃ written after, (Disk.copy source target : Act Disk Fault (FileTree (List β)) Bool).run
      oracle world = (.ok written, after) ∧ Added world.state after.state := by
  obtain ⟨written, after, ran, state, _⟩ := Disk.run_copy (ε := Fault) oracle
    source target world
  refine ⟨written, after, ran, ?_⟩
  rw [state]
  cases result : (oracle world.history (.copy source target)).bind fun arrives =>
      world.state.write target ((Disk.copied world.state source target).take arrives) with
  | none => exact .refl _
  | some after =>
      obtain ⟨arrives, _, written⟩ := Option.bind_eq_some_iff.mp result
      obtain ⟨place, _, differs⟩ := write_eq_some written
      exact added_of_differs (write_grows written) differs nofun

theorem run_copyEntry_added (oracle : Oracle Disk) (location : Location) (flag : TypeFlag)
    (target : Option Location) (world : World Disk (FileTree (List β))) :
    ∃ after, (copyEntry location flag target).run oracle world = (.ok ⟨⟩, after) ∧
      Added world.state after.state := by
  unfold copyEntry
  split
  · rename_i target
    obtain ⟨made, after, ran, added⟩ := added_mkdir oracle target world
    exact ⟨after, by rw [run_bind_ok ran, run_pure], added⟩
  · rename_i target
    obtain ⟨written, after, ran, added⟩ := added_copy oracle location target world
    exact ⟨after, by rw [run_bind_ok ran, run_pure], added⟩
  · exact ⟨world, rfl, .refl _⟩

theorem clean_added : Added tree
    ((handler.clean workingDirectory).run oracle ⟨tree, history⟩).2.state := by
  rw [clean, RecursiveCopy.copy]
  cases locate workingDirectory handler.src with
  | none => exact .refl tree
  | some location =>
      have everywhere : Closed (fun world : World Disk (FileTree (List β)) =>
          Added tree world.state) fun _ => True := fun _ _ _ _ _ _ _ _ _ => trivial
      have answers : Answers (fun _ => True) oracle := fun _ _ => trivial
      refine maintains_nftw (fun _ _ _ added => added) everywhere
        (fun location flag _ oracle _ world added => ?_) trivial oracle answers
        ⟨tree, history⟩ (.refl tree)
      obtain ⟨after, ran, more⟩ := run_copyEntry_added oracle location flag
        (locate workingDirectory (dstPathOf handler.src handler.dst
          (walkedPath handler.src (location.names.drop (names handler.src).length)))) world
      rw [copyFile, ran]
      exact added.trans more

theorem kept_of_writesBack {after : World Disk (FileTree (List β))}
    (added : Added tree after.state) (writesBack : WritesBack tree lower upper history after) :
    Kept tree lower upper := by
  intro rest entry found
  have shows : after.state.find (lower ++ rest) = shown entry :=
    (writesBack.merged rest).trans (merged_of_upper found)
  constructor
  · rintro target rfl
    exact added.links _ _ shows
  · cases shape : tree.shape (lower ++ rest) with
    | none => exact .inl (find_eq_none_iff_shape.mpr shape)
    | some kind =>
        have still := added.grows _ _ shape
        rw [FileTree.shape, shows] at still
        have notSpecial : entry ≠ .special := by
          rintro rfl
          cases still
        cases entry with
        | special => exact absurd rfl notSpecial
        | _ => exact .inr ⟨notSpecial, still.symm⟩

end OverlaySyncCleanupHandler

end SoftwareContainers
