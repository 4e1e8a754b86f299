import SoftwareContainers.Files.OverlaySync

namespace SoftwareContainers

open Effect Effect.Act FileSystem FileSystem.FileTree OverlaySyncCleanupHandler

/-! A recursive copy of a tree of directories and regular files. -/

namespace RecursiveCopy

variable {β : Type}

def OnlyFiles (tree : FileTree (List β)) (upper : Place) : Prop :=
  ∀ rest entry, tree.find (upper ++ rest) = some entry →
    entry = .directory ∨ ∃ content, entry = .regular content

/-- What is in both trees is a directory in both, or a regular file in both. -/
def Agreeing (tree : FileTree (List β)) (lower upper : Place) : Prop :=
  ∀ rest first second, tree.find (upper ++ rest) = some first →
    tree.find (lower ++ rest) = some second → first.shape = second.shape

/-- The one tree over the other. -/
def laidOver (tree : FileTree (List β)) (lower upper : Place) (rest : List String) :
    Option (Entry (List β)) :=
  match tree.find (upper ++ rest) with
  | some entry => some entry
  | none => tree.find (lower ++ rest)

variable {tree : FileTree (List β)} {workingDirectory : Place} {src dst : String}
  {source target : Location} {lower upper : Place} {oracle : Oracle Disk}
  {rest : List String} {entry : Entry (List β)}

theorem OnlyFiles.noLinks (onlyFiles : OnlyFiles tree upper) : NoLinks tree upper := by
  intro rest target found
  rcases onlyFiles rest _ found with isDirectory | ⟨content, isRegular⟩
  · cases isDirectory
  · cases isRegular

theorem OnlyFiles.imageOf_eq (onlyFiles : OnlyFiles tree upper)
    (found : tree.find (upper ++ rest) = some entry) : imageOf entry = entry := by
  rcases onlyFiles rest entry found with rfl | ⟨content, rfl⟩ <;> rfl

theorem OnlyFiles.compatible (onlyFiles : OnlyFiles tree upper)
    (agreeing : Agreeing tree lower upper) : Compatible tree lower upper := by
  intro rest entry found
  cases present : tree.find (lower ++ rest) with
  | none => exact .inl rfl
  | some other =>
      rw [shape_of_find present, onlyFiles.imageOf_eq found]
      exact .inr (congrArg some (agreeing rest entry other found present).symm)

/-- The copy returns true, what is copied is as it was, and so is everything that is not below
the other path. What is there is the one tree over the other. -/
theorem copy_laysOver (roots : Roots tree workingDirectory src dst source target lower upper)
    (onlyFiles : OnlyFiles tree upper) (agreeing : Agreeing tree lower upper)
    (faultless : Faultless tree upper oracle) (history : History Disk) :
    ∃ after, (copy workingDirectory src dst).run oracle ⟨tree, history⟩ = (.ok true, after) ∧
      (∀ rest, after.state.find (upper ++ rest) = tree.find (upper ++ rest)) ∧
      (∀ rest, after.state.find (lower ++ rest) = laidOver tree lower upper rest) ∧
      ∀ place, ¬ lower <+: place → after.state.find place = tree.find place := by
  obtain ⟨after, ran, synced⟩ := copy_synced roots history onlyFiles.noLinks faultless
    (onlyFiles.compatible agreeing)
  refine ⟨after, ran, fun rest => synced.outside _ (outside_of_apart roots.apart rest),
    fun rest => ?_, synced.outside⟩
  rw [laidOver]
  cases found : tree.find (upper ++ rest) with
  | none => exact synced.old rest fun isDone => isDone found
  | some entry =>
      have isDone : tree.find (upper ++ rest) ≠ none := found ▸ Option.some_ne_none entry
      rw [synced.new rest isDone entry found, onlyFiles.imageOf_eq found]

def shortOverLong : FileTree (List Nat) :=
  (oneEntry (.regular [7])).put ["lower"] "file" (.regular [1, 2, 3]) isName_file
    (by decide +kernel) (by decide +kernel)

theorem find_shortOverLong (rest : List String) : shortOverLong.find (["upper"] ++ rest) =
    (oneEntry (.regular [7])).find (["upper"] ++ rest) := by
  rw [shortOverLong, find_put, if_neg (by simp)]

theorem onlyFiles_shortOverLong : OnlyFiles shortOverLong ["upper"] := by
  intro rest entry found
  rw [find_shortOverLong, find_oneEntry] at found
  split at found
  · exact .inr ⟨[7], (Option.some.inj found).symm⟩
  · split at found
    · exact .inl (Option.some.inj found).symm
    · cases found

theorem agreeing_shortOverLong : Agreeing shortOverLong ["lower"] ["upper"] := by
  intro rest first second isFirst isSecond
  rw [find_shortOverLong, find_oneEntry] at isFirst
  split at isFirst
  · rename_i isFile
    subst isFile
    have isLong : shortOverLong.find (["lower"] ++ ["file"]) = some (.regular [1, 2, 3]) := by
      decide +kernel
    cases isFirst
    cases isLong.symm.trans isSecond
    rfl
  · split at isFirst
    · rename_i isTop
      subst isTop
      have isDirectory : shortOverLong.find (["lower"] ++ []) = some .directory := by
        decide +kernel
      cases isFirst
      cases isDirectory.symm.trans isSecond
      rfl
    · cases isFirst

/-- Nothing of the long file is left. -/
theorem copy_shortOverLong :
    ∃ after, (copy [] "/upper" "/lower").run (obliging shortOverLong) ⟨shortOverLong, []⟩ =
        (.ok true, after) ∧
      after.state.find (["lower"] ++ ["file"]) = some (.regular [7]) := by
  have overlaid := overlaid_of_oneEntry (.regular [7]) find_shortOverLong (by decide +kernel)
    (by decide +kernel)
  obtain ⟨after, ran, _, laid, _⟩ := copy_laysOver (roots_of_overlaid overlaid)
    onlyFiles_shortOverLong agreeing_shortOverLong (faultless_obliging _ _) []
  refine ⟨after, ran, (laid ["file"]).trans ?_⟩
  decide +kernel

end RecursiveCopy

end SoftwareContainers
