import SoftwareContainers.Container.UndoSpares

namespace SoftwareContainers

open Effect Effect.Act FileSystem

namespace FileToolkitWithUndo

/-! The calls that mount something, and runs of them. -/

/-- The place of the mount has been found, and so no directory is made there or above. -/
structure Found (old made own : List String) (away : List Place) (dst : String)
    (world : World Undo FileToolkitWithUndo) : Prop where
  held : Held old (made ++ own) [] away world
  found : dst ∈ foundIn world.history
  outside : ¬ In own (place dst)

section

variable {old made own : List String} {pending away : List Place} {dst : String}

theorem safe_mkdtemp (template : String) :
    Returns old (Found old made own away dst)
      (fun dir => Found old made (own ++ dir.toList) away dst) (call (.mkdtemp template)) := by
  refine secures_ask (I := Undo) (.mkdtemp template) fun world dir holds relied => ⟨trivial, ?_⟩
  cases dir with
  | none =>
      refine ⟨?_, ?_, ?_⟩
      · rw [Option.toList_none, List.append_nil]
        exact holds.held.plain rfl
      · rw [foundIn_concat]
        exact holds.found
      · rw [Option.toList_none, List.append_nil]
        exact holds.outside
  | some dir =>
      obtain ⟨free, new⟩ := relied.1 dir rfl
      refine ⟨?_, ?_, ?_⟩
      · rw [Option.toList_some, ← List.append_assoc]
        refine (holds.held.plain rfl).create ?_ ?_
        · rw [mountsOf_concat]
          exact free
        · rw [madeIn_concat]
          exact List.mem_append_right _ List.mem_cons_self
      · rw [foundIn_concat]
        exact holds.found
      · rw [Option.toList_some, in_append, in_singleton, not_or]
        exact ⟨holds.outside, new dst holds.found⟩

theorem safe_isDirectory_found (path : String) :
    Returns old (Found old made own away dst) (fun _ => Found old made own away dst)
      (call (.isDirectory path)) := by
  refine secures_ask (I := Undo) (.isDirectory path) fun world _ holds _ => ⟨trivial, ?_⟩
  refine ⟨holds.held.plain rfl, ?_, holds.outside⟩
  rw [foundIn_concat]
  exact holds.found

theorem safe_isOverlay (src : String) (writeBufferEnabled : Bool) :
    Returns old (Found old made own away dst)
      (fun overlay world => Found old made own away dst world ∧
        (overlay = true → writeBufferEnabled = true))
      (if writeBufferEnabled then call (.isDirectory src) else pure false) := by
  cases writeBufferEnabled with
  | false => exact secures_pure fun _ holds => ⟨holds, fun never => by cases never⟩
  | true =>
      exact (safe_isDirectory_found src).imp fun _ _ holds => ⟨holds, fun _ => rfl⟩

/-- Directories are made only for a write buffer. -/
theorem safe_firstBindMount (src dst root : String) (writeBufferEnabled : Bool) :
    Safe old (Found old made [] away dst)
      (Ends (fun result world =>
          Held old (made ++ result.2) (if result.1 then [place dst] else []) away world ∧
            ¬ In result.2 (place dst) ∧ (writeBufferEnabled = false → result.2 = []))
        (Held old made [] away))
      (firstBindMount src dst root writeBufferEnabled) := by
  refine returns_bind (safe_isOverlay src writeBufferEnabled) fun overlay => ?_
  refine secures_ite (fun isOverlay => ?_) fun _ => ?_
  · refine returns_bind (((safe_mkdtemp _).given (writeBufferEnabled = true)).starting
      fun _ holds => ⟨holds.1, holds.2 isOverlay⟩) fun upper => ?_
    cases upper with
    | none => exact secures_throw fun _ holds => by simpa [Ends] using holds.1.held
    | some upperDir =>
        refine returns_bind ((safe_mkdtemp _).given _) fun work => ?_
        cases work with
        | none =>
            refine returns_bind ((safe_destroyCreateDir (List.subset_append_right made _)).starting
              fun _ holds => holds.1.held) fun _ => ?_
            exact secures_throw fun _ held => held.forget (List.subset_append_left _ _)
        | some workDir =>
            refine returns_bind (((safe_mount _ _ _ _ _).given
              (¬ In [upperDir, workDir] (place dst) ∧ writeBufferEnabled = true)).starting
              fun _ holds => ⟨holds.1.held, holds.1.outside, holds.2⟩) fun mounted => ?_
            refine secures_pure fun _ after => ?_
            obtain ⟨held, outside, buffered⟩ := after
            exact ⟨held, outside, fun without => by simp [buffered] at without⟩
  · refine returns_bind (((safe_mount _ _ _ _ _).given (¬ In [] (place dst))).starting
      fun _ holds => ⟨holds.1.held, holds.1.outside⟩) fun mounted => ?_
    exact secures_pure fun _ after => ⟨after.1, after.2, fun _ => rfl⟩

theorem safe_existsInFileSystem (path : String) :
    Returns old (Held old made [] away)
      (fun there => if there then Found old made [] away path else Held old made [] away)
      (call (.existsInFileSystem path)) := by
  refine secures_ask (I := Undo) (.existsInFileSystem path) fun world there held _ =>
    ⟨trivial, ?_⟩
  cases there with
  | false => exact held.plain rfl
  | true =>
      refine ⟨?_, ?_, not_in_nil _⟩
      · rw [List.append_nil]
        exact held.plain rfl
      · rw [foundIn_concat]
        exact List.mem_cons_self

theorem safe_destroyNothing :
    Returns old (fun world => Held old made pending away world ∧ own = [])
      (fun _ => Held old made pending away) (destroyCreateDir own) := by
  by_cases none : own = []
  · subst none
    exact secures_pure fun _ holds => holds.1
  · have unreached : Returns old (Held old own [] away) (fun _ => Held old own [] away)
        (destroyCreateDir own) := safe_destroyCreateDir (List.Subset.refl own)
    exact (Secures.given unreached False).weaken (fun _ holds => (none holds.2).elim)
      fun _ _ never => never.2.elim

theorem safe_readOnlyMount (src dst : String) (readOnly writeBufferEnabled : Bool) :
    Returns old (fun world => Held old (made ++ own) pending away world ∧ ¬ In own (place dst) ∧
        (writeBufferEnabled = false → own = []))
      (fun done world => Held old (made ++ own) pending away world ∧ ¬ In own (place dst) ∧
        (done = false → own = []))
      (if readOnly && !writeBufferEnabled then
        call (.mount src dst "" ["MS_REMOUNT", "MS_RDONLY", "MS_BIND"] "")
      else pure true) := by
  refine secures_ite (fun isReadOnly => ?_) fun _ => ?_
  · have unbuffered : writeBufferEnabled = false := by
      simpa using (Bool.and_eq_true_iff.mp isReadOnly).2
    exact ((safe_remount src dst "" "" rfl).given _).imp fun _ _ after =>
      ⟨after.1, after.2.1, fun _ => after.2.2 unbuffered⟩
  · exact secures_pure fun _ holds => ⟨holds.1, holds.2.1, fun never => by cases never⟩

/-- Once it is done the mount is pending; a place of `away` stays away from what is kept. -/
theorem safe_bindMount (src dst root : String) (readOnly writeBufferEnabled : Bool)
    (only : ∀ other ∈ away, other = place dst) :
    Safe old (Held old made [] away)
      (Ends (fun _ => Held old made [place dst] away) (Held old made [] away))
      (bindMount src dst root readOnly writeBufferEnabled) := by
  refine safe_plain_bind rfl fun isThere => secures_ite (fun _ => ?_) fun _ => ?_
  · exact secures_pure fun _ held => held.more
  refine returns_bind (safe_existsInFileSystem dst) fun there => ?_
  cases there with
  | false => exact secures_pure fun _ held => held.more
  | true =>
  refine secures_ite (fun never => absurd never Bool.false_ne_true) fun _ => ?_
  refine secures_bind _ (safe_firstBindMount src dst root writeBufferEnabled)
    (fun result => ?_) fun _ _ held => held
  obtain ⟨mounted, own⟩ := result
  cases mounted with
  | false =>
      refine returns_bind ((safe_destroyCreateDir (List.subset_append_right made _)).starting
        fun _ holds => holds.1) fun _ => ?_
      exact secures_pure fun _ held => (held.forget (List.subset_append_left _ _)).more
  | true =>
      refine secures_ite (fun never => absurd never Bool.false_ne_true) fun _ => ?_
      refine returns_bind (safe_readOnlyMount src dst readOnly writeBufferEnabled)
        fun remounted => ?_
      cases remounted with
      | false =>
          -- Nothing was made, and so no directory is removed below the mount.
          refine returns_bind (safe_destroyNothing.starting fun _ holds => ⟨?_, holds.2.2 rfl⟩)
            fun _ => secures_pure fun _ held => held
          exact holds.1.forget (List.subset_append_left _ _)
      | true =>
          refine secures_ite (fun never => absurd never Bool.false_ne_true) fun _ => ?_
          refine returns_bind (safe_keepCreateDir.starting fun _ holds => ⟨holds.1, ?_⟩)
            fun _ => secures_pure fun _ held => held
          exact fun other isAway => only other isAway ▸ holds.2.1

/-! The mounts that get handlers. -/

theorem Undone.held {world : World Undo FileToolkitWithUndo} (undone : Undone world)
    (isMade : ∀ dirs ∈ world.state.createDirList, dirs ⊆ old ++ madeIn world.history) :
    Held old [] [] [] world where
  keptMade := isMade
  ownMade := List.nil_subset _
  kept := undone
  own other inside := (not_in_nil other inside).elim
  away _ isAway := (List.not_mem_nil isAway).elim

theorem safe_rollback :
    Safe old (Held old made [] []) (Ends (fun _ => Held old [] [] []) (Held old [] [] []))
      (do destroyCreateDir made; return false) :=
  returns_bind (safe_destroyCreateDir (List.Subset.refl made))
    fun _ => secures_pure fun _ held => held.forget (List.nil_subset _)

theorem safe_settle {handlers : List CleanUpHandler}
    (undone : handlers.filterMap unmountedBy = pending) :
    Safe old (Held old made pending []) (Ends (fun _ => Held old [] [] []) (Held old [] [] []))
      (do
        addHandlers handlers
        keepCreateDir made
        return true) := by
  -- Between the two the directories are not kept yet, but the handlers are there.
  have handled : Returns old (Held old made pending []) (fun _ world =>
      ∀ dirs ∈ world.state.createDirList ++ [made], dirs ⊆ old ++ madeIn world.history ∧
        ∀ other, In dirs other →
          mountedAt (mountsOf world.history) other ≤ undoneAt world.state.cleanupHandlers other)
      (addHandlers handlers) := by
    refine secures_modify fun world held dirs member => ?_
    rcases List.mem_append.mp member with member | member
    · refine ⟨held.keptMade dirs member, fun other inside => ?_⟩
      rw [undoneAt_append, undone]
      exact held.kept dirs member other inside
    · obtain rfl := List.mem_singleton.mp member
      refine ⟨held.ownMade, fun other inside => ?_⟩
      rw [undoneAt_append, undone]
      exact (held.own other inside).trans (Nat.le_add_left _ _)
  refine returns_bind handled fun _ => secures_bind (fun _ => Held old [] [] []) ?_
    (fun _ => secures_pure fun _ held => held) fun _ _ held => held
  exact secures_modify fun world settled => Undone.held
    (fun dirs member other inside => (settled dirs member).2 other inside)
    fun dirs member => (settled dirs member).1

theorem safe_mountOn (directories : List String) (source dst fstype data : String)
    {handlers : List CleanUpHandler} (undone : handlers.filterMap unmountedBy = [place dst]) :
    Safe old (Held old [] [] []) (Ends (fun _ => Held old [] [] []) (Held old [] [] []))
      (mountOn directories source dst fstype data handlers) := by
  refine secures_bind _ (safe_createDirectories directories []) (fun result => ?_)
    fun _ _ held => held
  obtain ⟨created, made⟩ := result
  refine secures_ite (fun _ => safe_rollback) fun _ => ?_
  refine returns_bind (safe_mount source dst fstype [] data) fun mounted => ?_
  cases mounted with
  | false => exact safe_rollback
  | true =>
      exact secures_ite (fun never => absurd never Bool.false_ne_true) fun _ =>
        safe_settle undone

theorem safe_moveMount (pathInContainer tempDirInContainer tempDirInContainerOnHost : String) :
    Returns old (Held old made pending away) (fun _ => Held old made pending away)
      (moveMount pathInContainer tempDirInContainer tempDirInContainerOnHost) := by
  refine safe_plain_bind rfl fun _ => ?_
  refine secures_ite (fun _ => secures_pure fun _ held => held) fun _ => ?_
  refine safe_plain_bind rfl fun isDir => safe_plain_bind rfl fun _ => ?_
  exact secures_ite (fun _ => secures_pure fun _ held => held) fun _ => safe_plain rfl

theorem safe_showInContainer (pathInContainer tempDirInContainerOnHost : String)
    (readonly : Bool) :
    Returns old (Held old made pending away) (fun _ => Held old made pending away)
      (showInContainer pathInContainer tempDirInContainerOnHost readonly) := by
  have moves : Returns old (Held old made pending away) (fun _ => Held old made pending away)
      (if buildPath "/gateways" (baseName pathInContainer) ≠ pathInContainer then
        moveMount pathInContainer (buildPath "/gateways" (baseName pathInContainer))
          tempDirInContainerOnHost
      else pure true) :=
    secures_ite (fun _ => safe_moveMount _ _ _) fun _ => secures_pure fun _ held => held
  refine returns_bind moves fun moved => ?_
  refine secures_ite (fun _ => secures_pure fun _ held => held) fun _ => ?_
  exact secures_ite (fun _ => safe_plain rfl) fun _ => secures_pure fun _ held => held

theorem safe_bindMountCore (places : Places) (pathInHost pathInContainer tempPath : String)
    (readonly : Bool) :
    Safe old (Held old made [] [])
      (Ends (fun _ => Held old made [place tempPath] []) (Held old made [] []))
      (bindMountCore places pathInHost pathInContainer tempPath readonly) := by
  refine safe_plain_bind rfl fun running => ?_
  refine secures_ite (fun _ => secures_pure fun _ held => held.more) fun _ => ?_
  split
  · exact secures_throw fun _ held => held
  · refine secures_ite (fun _ => secures_pure fun _ held => held.more) fun _ => ?_
    refine secures_bind _ (safe_bindMount pathInHost tempPath places.containerRoot readonly
      places.writeBufferEnabled fun _ isAway => (List.not_mem_nil isAway).elim)
      (fun mounted => ?_) fun _ _ held => held
    refine secures_ite (fun _ => secures_pure fun _ held => held) fun _ => ?_
    exact (safe_showInContainer _ _ _).imp fun _ _ held => held

theorem safe_pathInList (path : String) :
    Returns old (Held old made pending away) (fun _ => Held old made pending away)
      (pathInList path) :=
  secures_get_bind fun _ => secures_pure fun _ holds => holds.1

theorem safe_createMountTarget (pathIsDirectory : Bool) (tempPath : String) :
    Safe old (Held old [] [] []) (Ends (fun result => Held old result.2 [] []) (Held old [] [] []))
      (createMountTarget pathIsDirectory tempPath) := by
  refine secures_ite (fun _ => safe_createDirectoryWithin _ _ _) fun _ => ?_
  refine returns_bind (safe_pathInList tempPath) fun isListed => ?_
  refine secures_ite (fun _ => secures_pure fun _ held => held) fun _ => ?_
  exact safe_plain_bind rfl fun _ => secures_pure fun _ held => held

theorem safe_mountAtTarget (places : Places) (pathInHost pathInContainer tempPath : String)
    (pathIsDirectory readOnly : Bool) :
    Safe old (Held old [] [] []) (Ends (fun _ => Held old [] [] []) (Held old [] [] []))
      (mountAtTarget places pathInHost pathInContainer tempPath pathIsDirectory readOnly) := by
  refine secures_bind _ (safe_createMountTarget pathIsDirectory tempPath) (fun result => ?_)
    fun _ _ held => held
  obtain ⟨created, made⟩ := result
  refine secures_ite (fun _ => safe_rollback) fun _ => ?_
  refine secures_bind (Ends (fun _ => Held old made [place tempPath] []) (Held old [] [] [])) ?_
    (fun mounted => ?_) fun _ _ held => held
  · refine secures_tryCatch _ (safe_bindMountCore places pathInHost pathInContainer tempPath
      readOnly) (fun _ _ held => held) fun error => ?_
    refine returns_bind (safe_destroyCreateDir (List.Subset.refl made)) fun _ => ?_
    exact secures_throw fun _ held => held.forget (List.nil_subset _)
  · cases mounted with
    | false => exact returns_bind (safe_cleanMount tempPath) fun _ => safe_rollback
    | true =>
        refine secures_ite (fun never => absurd never Bool.false_ne_true) fun _ => ?_
        have keeps : Returns old (Held old made [place tempPath] [])
            (fun _ => Held old [] [place tempPath] []) (keepCreateDir made) :=
          safe_keepCreateDir.starting fun _ held => ⟨held, fun _ isAway =>
            (List.not_mem_nil isAway).elim⟩
        refine returns_bind keeps fun _ => returns_bind (safe_addHandlers ?_)
          fun _ => secures_pure fun _ held => held
        cases pathIsDirectory <;> rfl

theorem safe_bindMountInContainer (places : Places) (pathInHost pathInContainer : String)
    (readOnly : Bool) :
    Safe old (Held old [] [] []) (Ends (fun _ => Held old [] [] []) (Held old [] [] []))
      (bindMountInContainer places pathInHost pathInContainer readOnly) := by
  refine safe_plain_bind rfl fun isThere => ?_
  refine secures_ite (fun _ => secures_pure fun _ held => held) fun _ => ?_
  refine safe_plain_bind rfl fun isFree => ?_
  refine secures_ite (fun _ => secures_pure fun _ held => held) fun _ => ?_
  exact safe_plain_bind rfl fun isDir => safe_mountAtTarget _ _ _ _ _ _

/-! The destructor: all handlers first, and then all directories. -/

theorem safe_cleanHandlers (handlers : List CleanUpHandler) :
    Returns old (Held old made (handlers.filterMap unmountedBy) away)
      (fun _ => Held old made [] away) (cleanHandlers handlers) := by
  induction handlers with
  | nil => exact secures_pure fun _ held => held
  | cons handler rest ih =>
      cases handler with
      | mount path => exact returns_bind (safe_cleanMount path) fun _ => ih
      | file path => exact returns_bind (safe_plain rfl) fun _ => ih
      | overlaySync src dst => exact returns_bind (safe_plain rfl) fun _ => ih

theorem safe_destroyEach {lists : List (List String)} (mine : ∀ dirs ∈ lists, dirs ⊆ made) :
    Returns old (Held old made [] away) (fun _ => Held old made [] away) (destroyEach lists) := by
  induction lists with
  | nil => exact secures_pure fun _ held => held
  | cons dirs rest ih =>
      obtain ⟨first, mine⟩ := List.forall_mem_cons.mp mine
      exact returns_bind (safe_destroyCreateDir first) fun _ => ih mine

theorem Held.destroy {world : World Undo FileToolkitWithUndo} (held : Held old [] [] [] world) :
    Held old world.state.createDirList.flatten
      (world.state.cleanupHandlers.reverse.filterMap unmountedBy) [] world where
  keptMade := held.keptMade
  ownMade dir member := by
    obtain ⟨dirs, isKept, member⟩ := List.mem_flatten.mp member
    exact held.keptMade dirs isKept member
  kept dirs member other inside := (held.kept dirs member other inside).trans (by simp)
  own other inside := by
    obtain ⟨dir, member, below⟩ := inside
    obtain ⟨dirs, isKept, member⟩ := List.mem_flatten.mp member
    have most := held.kept dirs isKept other ⟨dir, member, below⟩
    rw [undoneAt_eq, List.count_nil, Nat.add_zero] at most
    rw [List.filterMap_reverse, List.count_reverse]
    exact most
  away := held.away

theorem safe_destructor :
    Returns old (Held old [] [] []) (fun _ => Held old [] [] []) destructor := by
  refine secures_get_bind fun self => ?_
  refine returns_bind ((safe_cleanHandlers self.cleanupHandlers.reverse).starting
    fun world holds => holds.2 ▸ holds.1.destroy) fun _ => ?_
  refine returns_bind (safe_destroyEach fun dirs member dir inside =>
    List.mem_flatten.mpr ⟨dirs, member, inside⟩) fun _ => ?_
  exact secures_set fun world _ => Undone.held (fun _ member => (List.not_mem_nil member).elim)
    fun _ member => (List.not_mem_nil member).elim

end

/-- What is mounted by a bind mount alone has no handler: it has to be outside of the
directories that are kept. -/
def MountCall.Outside (self : FileToolkitWithUndo) : MountCall → Prop
  | .bindMount _ dst _ _ _ => ∀ dirs ∈ self.createDirList, ¬ In dirs (place dst)
  | _ => True

theorem Held.loose {world : World Undo FileToolkitWithUndo} {dst : String}
    (held : Held old [] [place dst] [place dst] world) : Held old [] [] [] world := by
  refine Undone.held (fun dirs member other inside => ?_) held.keptMade
  have most := held.kept dirs member other inside
  by_cases same : place dst = other
  · exact (held.away other (List.mem_singleton.mpr same.symm) dirs member inside).elim
  · rw [List.count_cons_of_ne (fun equal => same equal), List.count_nil, Nat.add_zero] at most
    exact most

theorem safe_mountCall (places : Places) (mountCall : MountCall) :
    Safe old (fun world => Held old [] [] [] world ∧ mountCall.Outside world.state)
      (fun _ => Held old [] [] []) (mountCall.act places) := by
  have ends (result : Except Fault Bool) (world : World Undo FileToolkitWithUndo)
      (after : Ends (fun _ => Held old [] [] []) (Held old [] [] []) result world) :
      Held old [] [] [] world := by
    cases result <;> exact after
  cases mountCall with
  | bindMountInContainer pathInHost pathInContainer readOnly =>
      exact (safe_bindMountInContainer places pathInHost pathInContainer readOnly).weaken
        (fun _ holds => holds.1) ends
  | overlayMount lower upper work dst =>
      exact (safe_mountOn _ _ dst _ _ rfl).weaken (fun _ holds => holds.1) ends
  | tmpfsMount dst maxSize =>
      exact (safe_mountOn _ _ dst _ _ rfl).weaken (fun _ holds => holds.1) ends
  | bindMount src dst root readOnly writeBufferEnabled =>
      have only (other : Place) (isAway : other ∈ [place dst]) : other = place dst :=
        List.mem_singleton.mp isAway
      refine (safe_bindMount src dst root readOnly writeBufferEnabled only).weaken
        (fun world holds => { holds.1 with away := fun other isAway => ?_ })
        fun result world after => ?_
      · exact only other isAway ▸ holds.2
      · cases result with
        | ok done => exact after.loose
        | error error => exact (Held.more after).loose

/-- The calls one after another, and then the end of the toolkit. -/
def afterUndo (places : Places) (oracle : Oracle Undo) (calls : List MountCall)
    (start : World Undo FileToolkitWithUndo) : World Undo FileToolkitWithUndo :=
  (destructor.run oracle (runAll (MountCall.act places) oracle calls start).2).2

theorem undo_spares_mounts (places : Places) (oracle : Oracle Undo) (calls : List MountCall)
    (start : World Undo FileToolkitWithUndo) (spared : Each Spares start.history)
    (undone : Undone start)
    (outside : Throughout (MountCall.act places) oracle
      (fun world mountCall => mountCall.Outside world.state) calls start)
    (new : Each New (afterUndo places oracle calls start).history)
    (unmounts : Each (Unmounts start.state.createDirList.flatten)
      (afterUndo places oracle calls start).history) :
    Each Spares (afterUndo places oracle calls start).history := by
  have relied : Each (Relied start.state.createDirList.flatten)
      (afterUndo places oracle calls start).history :=
    (eachEvent_and _ _).mpr ⟨new, unmounts⟩
  have held : Held start.state.createDirList.flatten [] [] [] start := undone.held
    fun dirs member dir isDir =>
      List.mem_append_left _ (List.mem_flatten.mpr ⟨dirs, member, isDir⟩)
  obtain ⟨reliedBetween, destroyed⟩ := safe_destructor oracle _ relied
  obtain ⟨_, ran⟩ :=
    secures_runAll (safe_mountCall places) oracle calls start outside reliedBetween
  obtain ⟨sparedBetween, heldBetween⟩ := ran spared held
  exact (destroyed sparedBetween heldBetween).1

def hostWith (well : Bool) : Oracle Undo
  | _, .isDirectory path => ["/", "/c", "/data"].contains path
  | _, .mkdtemp _ => none
  | _, .del dir => (true, if well then [dir] else [dir ++ "/photo"])
  | _, .umount2 _ _ => well
  | _, .executeSync (.moveMount _ _) => well
  | _, .existsInFileSystem _ | _, .mkdir _ | _, .touch _ | _, .unlink _ | _, .mount _ _ _ _ _
  | _, .recursiveCopy _ _ | _, .ensureContainerRunning | _, .executeSync _ => true

def mountData : List MountCall := [.bindMountInContainer "/data" "/app/data" false]

theorem undo_spares_data :
    Each Spares (afterUndo ⟨"/c", false⟩ (hostWith true) mountData ⟨⟨[], []⟩, []⟩).history :=
  undo_spares_mounts ⟨"/c", false⟩ (hostWith true) mountData ⟨⟨[], []⟩, []⟩ trivial
    (List.forall_mem_nil _) ⟨trivial, trivial⟩ (by decide +kernel) (by decide +kernel)

/-- The move into the container fails, and then both unmounts: the directory that was made
for the mount is removed with what is in `/data`. -/
theorem rollback_deletes_data :
    Each New (afterUndo ⟨"/c", false⟩ (hostWith false) mountData ⟨⟨[], []⟩, []⟩).history ∧
      ¬ Each Spares (afterUndo ⟨"/c", false⟩ (hostWith false) mountData ⟨⟨[], []⟩, []⟩).history := by
  decide +kernel

end FileToolkitWithUndo

end SoftwareContainers
