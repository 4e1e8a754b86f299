import SoftwareContainers.Container.MountTable
import SoftwareContainers.Container.UndoToolkit
import SoftwareContainers.Effect.Rely

namespace SoftwareContainers

open Effect Effect.Act FileSystem

/-! The mounts of the host while directories are removed. -/

structure Mounted where
  place : Place
  fstype : String
  deriving DecidableEq, Repr

namespace FileToolkitWithUndo

def unmountTop (target : Place) : List Mounted → List Mounted
  | [] => []
  | mounted :: rest =>
      if mounted.place = target then rest
      else if target <+: mounted.place then unmountTop target rest
      else mounted :: unmountTop target rest

def unmount (target : Place) (mounts : List Mounted) : List Mounted :=
  if mounts.any (·.place = target) then unmountTop target mounts else mounts

def mountsAfter (mounts : List Mounted) (event : Event Undo) : List Mounted :=
  match event with
  | ⟨.mount _ target fstype flags _, made⟩ =>
      if made && !changesMount flags then ⟨place target, fstype⟩ :: mounts else mounts
  | ⟨.umount2 path _, gone⟩ => if gone then unmount (place path) mounts else mounts
  | _ => mounts

def mountsOf (history : History Undo) : List Mounted := history.foldl mountsAfter []

/-- Nothing is mounted at the directory or below it. -/
def Free (mounts : List Mounted) (dir : String) : Prop :=
  ∀ mounted ∈ mounts, ¬ place dir <+: mounted.place

/-- What the last questions have found; whatever else is done may remove it. -/
def foundAfter (found : List String) (event : Event Undo) : List String :=
  match event with
  | ⟨.existsInFileSystem path, there⟩ => if there then path :: found else found
  | ⟨.isDirectory _, _⟩ => found
  | ⟨.mkdtemp _, _⟩ => found
  | _ => []

def foundIn (history : History Undo) : List String := history.foldl foundAfter []

/-- What is made was not there: nothing is mounted in it, and what has been found is not. -/
def New (before : History Undo) (event : Event Undo) : Prop :=
  match event with
  | ⟨.mkdir path, made⟩ => made = true → Free (mountsOf before) path
  | ⟨.mkdtemp _, dir⟩ => ∀ path ∈ dir, Free (mountsOf before) path ∧
      ∀ found ∈ foundIn before, ¬ place path <+: place found
  | _ => True

instance (mounts : List Mounted) (dir : String) : Decidable (Free mounts dir) :=
  inferInstanceAs (Decidable (∀ mounted ∈ mounts, ¬ _))

instance decidableNew : ∀ before event, Decidable (New before event)
  | _, ⟨.mkdir _, _⟩ => inferInstanceAs (Decidable (_ = true → Free _ _))
  | _, ⟨.mkdtemp _, _⟩ =>
      inferInstanceAs (Decidable (∀ path ∈ _, Free _ path ∧ ∀ found ∈ _, ¬ _))
  | _, ⟨.existsInFileSystem _, _⟩ | _, ⟨.isDirectory _, _⟩ | _, ⟨.touch _, _⟩
  | _, ⟨.unlink _, _⟩ | _, ⟨.mount _ _ _ _ _, _⟩ | _, ⟨.umount2 _ _, _⟩
  | _, ⟨.recursiveCopy _ _, _⟩ | _, ⟨.del _, _⟩ | _, ⟨.ensureContainerRunning, _⟩
  | _, ⟨.executeSync _, _⟩ => .isTrue trivial

/-- The place is one of the directories, or below one. -/
def In (dirs : List String) (other : Place) : Prop := ∃ dir ∈ dirs, place dir <+: other

instance (dirs : List String) (other : Place) : Decidable (In dirs other) :=
  inferInstanceAs (Decidable (∃ dir ∈ dirs, _))

def madeBy : Event Undo → List String
  | ⟨.mkdir path, made⟩ => if made then [path] else []
  | ⟨.mkdtemp _, dir⟩ => dir.toList
  | _ => []

def madeIn (history : History Undo) : List String := history.flatMap madeBy

/-- What is mounted in a directory that is there to be removed can be unmounted, in the second
try if not in the first. -/
def Unmounts (old : List String) (before : History Undo) (event : Event Undo) : Prop :=
  match event with
  | ⟨.umount2 path flag, gone⟩ =>
      flag = "MNT_FORCE" → gone = false → In (old ++ madeIn before) (place path) →
        ∀ mounted ∈ mountsOf before, mounted.place ≠ place path
  | _ => True

instance decidableUnmounts (old : List String) :
    ∀ before event, Decidable (Unmounts old before event)
  | _, ⟨.umount2 _ _, _⟩ =>
      inferInstanceAs (Decidable (_ = "MNT_FORCE" → _ = false → In _ _ → ∀ mounted ∈ _, _ ≠ _))
  | _, ⟨.existsInFileSystem _, _⟩ | _, ⟨.isDirectory _, _⟩ | _, ⟨.touch _, _⟩
  | _, ⟨.unlink _, _⟩ | _, ⟨.mount _ _ _ _ _, _⟩ | _, ⟨.mkdir _, _⟩ | _, ⟨.mkdtemp _, _⟩
  | _, ⟨.recursiveCopy _ _, _⟩ | _, ⟨.del _, _⟩ | _, ⟨.ensureContainerRunning, _⟩
  | _, ⟨.executeSync _, _⟩ => .isTrue trivial

/-- No entry of a directory of the host is removed where that is mounted. -/
def Spares (before : History Undo) (event : Event Undo) : Prop :=
  match event with
  | ⟨.del dir, (_, removed)⟩ =>
      ∀ mounted ∈ mountsOf before, mounted.fstype ≠ "tmpfs" → place dir <+: mounted.place →
        ∀ path ∈ removed, mounted.place <+: place path → place path = mounted.place
  | _ => True

instance decidableSpares : ∀ before event, Decidable (Spares before event)
  | _, ⟨.del _, (_, _)⟩ => inferInstanceAs (Decidable (∀ mounted ∈ _, _ ≠ _ → _ → ∀ path ∈ _, _ → _))
  | _, ⟨.existsInFileSystem _, _⟩ | _, ⟨.isDirectory _, _⟩ | _, ⟨.touch _, _⟩
  | _, ⟨.unlink _, _⟩ | _, ⟨.mount _ _ _ _ _, _⟩ | _, ⟨.mkdir _, _⟩ | _, ⟨.mkdtemp _, _⟩
  | _, ⟨.recursiveCopy _ _, _⟩ | _, ⟨.umount2 _ _, _⟩ | _, ⟨.ensureContainerRunning, _⟩
  | _, ⟨.executeSync _, _⟩ => .isTrue trivial

def mountedAt (mounts : List Mounted) (place : Place) : Nat :=
  mounts.countP (·.place = place)

def unmountedBy : CleanUpHandler → Option Place
  | .mount path => some (place path)
  | _ => none

def undoneAt (handlers : List CleanUpHandler) (place : Place) : Nat :=
  handlers.countP (unmountedBy · = some place)

section

variable {target other : Place} {mounts : List Mounted}

theorem unmountTop_sublist (target : Place) (mounts : List Mounted) :
    (unmountTop target mounts).Sublist mounts := by
  induction mounts with
  | nil => exact .refl _
  | cons mounted rest ih =>
      rw [unmountTop]
      split
      · exact List.sublist_cons_self mounted rest
      · split
        · exact ih.cons mounted
        · exact ih.cons_cons mounted

theorem unmount_sublist (target : Place) (mounts : List Mounted) :
    (unmount target mounts).Sublist mounts := by
  rw [unmount]
  split
  · exact unmountTop_sublist target mounts
  · exact .refl _

theorem mountedAt_unmount_le (target other : Place) (mounts : List Mounted) :
    mountedAt (unmount target mounts) other ≤ mountedAt mounts other :=
  (unmount_sublist target mounts).countP_le

theorem mountedAt_unmountTop (isMounted : ∃ mounted ∈ mounts, mounted.place = target) :
    mountedAt (unmountTop target mounts) target + 1 ≤ mountedAt mounts target := by
  induction mounts with
  | nil => simp at isMounted
  | cons mounted rest ih =>
      rw [unmountTop, mountedAt, mountedAt]
      by_cases same : mounted.place = target
      · rw [if_pos same, List.countP_cons_of_pos (by simpa using same)]
      · have later : ∃ mounted ∈ rest, mounted.place = target := by simpa [same] using isMounted
        rw [if_neg same, List.countP_cons_of_neg (by simpa using same)]
        split
        · exact ih later
        · rw [List.countP_cons_of_neg (by simpa using same)]
          exact ih later

theorem mountedAt_unmount (target : Place) (mounts : List Mounted) :
    mountedAt (unmount target mounts) target ≤ mountedAt mounts target - 1 := by
  rw [unmount]
  split
  · rename_i isMounted
    have there : ∃ mounted ∈ mounts, mounted.place = target := by simpa using isMounted
    have less := mountedAt_unmountTop there
    omega
  · rename_i none
    have zero : mountedAt mounts target = 0 := by
      rw [mountedAt, List.countP_eq_zero]
      simpa using none
    omega

end

/-- What is mounted in a directory that is kept has handlers that unmount it. -/
def Undone (world : World Undo FileToolkitWithUndo) : Prop :=
  ∀ dirs ∈ world.state.createDirList, ∀ other, In dirs other →
    mountedAt (mountsOf world.history) other ≤ undoneAt world.state.cleanupHandlers other

/-- The same within a call: some mounts are pending, and nothing else is mounted in the
directories that the call has made.  Some places are away from the directories, all of which
were there at the beginning or have been made since. -/
structure Held (old made : List String) (pending away : List Place)
    (world : World Undo FileToolkitWithUndo) : Prop where
  keptMade : ∀ dirs ∈ world.state.createDirList, dirs ⊆ old ++ madeIn world.history
  ownMade : made ⊆ old ++ madeIn world.history
  kept : ∀ dirs ∈ world.state.createDirList, ∀ other, In dirs other →
    mountedAt (mountsOf world.history) other ≤
      undoneAt world.state.cleanupHandlers other + pending.count other
  own : ∀ other, In made other →
    mountedAt (mountsOf world.history) other ≤ pending.count other
  away : ∀ other ∈ away, ∀ dirs ∈ world.state.createDirList, ¬ In dirs other

/-- What the undoing relies on. -/
def Relied (old : List String) (before : History Undo) (event : Event Undo) : Prop :=
  New before event ∧ Unmounts old before event

section

variable {old made made' : List String} {pending pending' away : List Place}
  {world : World Undo FileToolkitWithUndo} {event : Event Undo}

theorem mountsOf_concat (history : History Undo) (event : Event Undo) :
    mountsOf (history ++ [event]) = mountsAfter (mountsOf history) event := by
  rw [mountsOf, List.foldl_append]
  rfl

theorem foundIn_concat (history : History Undo) (event : Event Undo) :
    foundIn (history ++ [event]) = foundAfter (foundIn history) event := by
  rw [foundIn, List.foldl_append]
  rfl

theorem madeIn_concat (history : History Undo) (event : Event Undo) :
    madeIn (history ++ [event]) = madeIn history ++ madeBy event := by
  rw [madeIn, List.flatMap_append, List.flatMap_singleton]
  rfl

@[simp] theorem in_append (first second : List String) (other : Place) :
    In (first ++ second) other ↔ In first other ∨ In second other := by
  simp only [In, List.mem_append, or_and_right, exists_or]

@[simp] theorem in_singleton (dir : String) (other : Place) :
    In [dir] other ↔ place dir <+: other := by
  simp only [In, List.mem_singleton, exists_eq_left]

@[simp] theorem not_in_nil (other : Place) : ¬ In [] other := by
  simp only [In, List.not_mem_nil, false_and, exists_false, not_false_eq_true]

theorem In.mono {dirs dirs' : List String} {other : Place} (inside : In dirs other)
    (fewer : dirs ⊆ dirs') : In dirs' other := by
  obtain ⟨dir, member, below⟩ := inside
  exact ⟨dir, fewer member, below⟩

theorem Free.mountedAt {mounts : List Mounted} {dir : String} {other : Place}
    (free : Free mounts dir) (below : place dir <+: other) : mountedAt mounts other = 0 := by
  rw [FileToolkitWithUndo.mountedAt, List.countP_eq_zero]
  intro mounted isMounted same
  have there : mounted.place = other := by simpa using same
  exact free mounted isMounted (there ▸ below)

theorem Held.forget (held : Held old made pending away world) (fewer : made' ⊆ made) :
    Held old made' pending away world where
  keptMade := held.keptMade
  ownMade := List.Subset.trans fewer held.ownMade
  kept := held.kept
  away := held.away
  own other inside := held.own other (inside.mono fewer)

theorem Held.more (held : Held old made [] away world) : Held old made pending away world where
  keptMade := held.keptMade
  ownMade := held.ownMade
  kept dirs member other inside :=
    (held.kept dirs member other inside).trans (Nat.add_le_add_left (by simp) _)
  away := held.away
  own other inside := (held.own other inside).trans (by simp)

/-- What an event changes at a place does not depend on who undoes the rest. -/
theorem Held.record (held : Held old made pending away world)
    (change : ∀ other handled, In (old ++ madeIn world.history) other →
      mountedAt (mountsOf world.history) other ≤ handled + pending.count other →
        mountedAt (mountsAfter (mountsOf world.history) event) other ≤
          handled + pending'.count other) :
    Held old made pending' away { world with history := world.history ++ [event] } where
  keptMade dirs member := by
    rw [madeIn_concat, ← List.append_assoc]
    exact List.subset_append_of_subset_left _ (held.keptMade dirs member)
  ownMade := by
    rw [madeIn_concat, ← List.append_assoc]
    exact List.subset_append_of_subset_left _ held.ownMade
  kept dirs member other inside := by
    rw [mountsOf_concat]
    exact change other _ (inside.mono (held.keptMade dirs member))
      (held.kept dirs member other inside)
  own other inside := by
    rw [mountsOf_concat, ← Nat.zero_add (pending'.count other)]
    exact change other 0 (inside.mono held.ownMade)
      (by rw [Nat.zero_add]; exact held.own other inside)
  away := held.away

theorem Held.create {path : String} (held : Held old made pending away world)
    (free : Free (mountsOf world.history) path) (isMade : path ∈ madeIn world.history) :
    Held old (made ++ [path]) pending away world where
  keptMade := held.keptMade
  ownMade := List.append_subset.mpr ⟨held.ownMade,
    List.cons_subset.mpr ⟨List.mem_append_right _ isMade, List.nil_subset _⟩⟩
  kept := held.kept
  away := held.away
  own other inside := by
    rcases (in_append _ _ _).mp inside with inside | inside
    · exact held.own other inside
    · rw [free.mountedAt ((in_singleton _ _).mp inside)]
      exact Nat.zero_le _

theorem Held.mount {source target fstype data : String} {flags : List String}
    (held : Held old made pending away world) :
    Held old made (place target :: pending) away
      { world with history := world.history ++ [⟨.mount source target fstype flags data, true⟩] } := by
  refine held.record fun other handled _ most => ?_
  rw [mountsAfter, Bool.true_and, List.count_cons]
  split
  · rw [mountedAt, List.countP_cons, ← mountedAt]
    by_cases same : place target = other
    · simp only [same, decide_true, if_true, beq_self_eq_true]
      omega
    · simp only [same, decide_false, Bool.false_eq_true, if_false]
      omega
  · omega

theorem Held.unmount {path flag : String}
    (held : Held old made (place path :: pending) away world) :
    Held old made pending away
      { world with history := world.history ++ [⟨.umount2 path flag, true⟩] } := by
  refine held.record fun other handled _ most => ?_
  rw [mountsAfter, if_pos rfl]
  by_cases same : place path = other
  · subst same
    have one := mountedAt_unmount (place path) (mountsOf world.history)
    rw [List.count_cons_self] at most
    omega
  · rw [List.count_cons_of_ne (fun equal => same equal)] at most
    exact (mountedAt_unmount_le _ _ _).trans most

theorem Held.notMounted {path flag : String}
    (held : Held old made (place path :: pending) away world)
    (none : In (old ++ madeIn world.history) (place path) →
      ∀ mounted ∈ mountsOf world.history, mounted.place ≠ place path) :
    Held old made pending away
      { world with history := world.history ++ [⟨.umount2 path flag, false⟩] } := by
  refine held.record fun other handled among most => ?_
  rw [mountsAfter, if_neg Bool.false_ne_true]
  by_cases same : place path = other
  · have zero : mountedAt (mountsOf world.history) other = 0 := by
      rw [mountedAt, List.countP_eq_zero, ← same]
      simpa using none (same ▸ among)
    omega
  · rw [List.count_cons_of_ne (fun equal => same equal)] at most
    exact most

end

end FileToolkitWithUndo

end SoftwareContainers
