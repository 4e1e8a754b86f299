import SoftwareContainers.Container.MountTable

namespace SoftwareContainers

open Effect Effect.Act FileSystem

/-! What `bindMountInContainer` does to the mounts, and what its rollback undoes. -/

namespace Child

theorem keeps_run {inv : Container → Prop} {allowed : Event Sys → Prop} {may : Fault → Prop}
    {job : Job} (limit : ∀ error, allowed (limitEvent error))
    (exit : ∀ code answer, allowed (exitEvent code answer))
    (asks : ∀ event, job.Asks event → allowed event) :
    Keeps inv allowed may (run job) := by
  intro oracle world holds
  obtain ⟨status, recorded, ended, process⟩ := run_process job oracle world
  rw [ended]
  refine ⟨holds, ⟨recorded, rfl, fun event member => ?_⟩, nofun⟩
  rcases process.mem event member with ⟨error, rfl⟩ | ⟨code, answer, rfl⟩ | asked
  · exact limit error
  · exact exit code answer
  · exact asks event asked

theorem mountChanges_limit (error : Option Int) (rest : History Sys) :
    mountChanges (limitEvent error :: rest) = mountChanges rest := rfl

theorem mountChanges_exit (code : Int) (answer : Option Unit) :
    mountChanges [exitEvent code answer] = [] := rfl

theorem FunctionEnds.mountChanges {source target : String} {result : Except Killed Int}
    {recorded : History Sys} (ended : FunctionEnds (.moveMount source target) result recorded) :
    mountChanges recorded = [] ∨
      mountChanges recorded = [.move (place source) (place target)] := by
  obtain ⟨oracle, world, _, grown⟩ := ended
  have ran : (Act.run (function (.moveMount source target)) oracle world).2.history =
      world.history ++ [⟨.child (.run (.moveMount source target)),
        oracle world.history (.child (.run (.moveMount source target)))⟩] := by
    change (Act.run (step (.run (.moveMount source target))) oracle world).2.history = _
    rw [step, run_ask_bind]
    cases oracle world.history (.child (.run (.moveMount source target))) <;> rfl
  rw [ran] at grown
  rw [← List.append_cancel_left grown]
  simp only [SoftwareContainers.mountChanges, traceOf, List.filterMap_cons, List.filterMap_nil,
    mountChange]
  by_cases moved : oracle world.history (.child (.run (.moveMount source target))) = some 0
  · rw [if_pos moved]
    exact .inr rfl
  · rw [if_neg moved]
    exact .inl rfl

theorem Process.mountChanges {source target : String} {status : WaitStatus}
    {recorded : History Sys} (process : Process (.moveMount source target) status recorded) :
    mountChanges recorded = [] ∨
      mountChanges recorded = [.move (place source) (place target)] := by
  cases process with
  | unlimitKilled => exact .inl rfl
  | limited error answer _ => exact .inl rfl
  | killed ended => exact ended.mountChanges
  | returned code answer ended =>
      rw [mountChanges_limit, mountChanges_append, mountChanges_exit, List.append_nil]
      exact ended.mountChanges

end Child

/-! The changes that each step records. -/

abbrev Still (event : Event Sys) : Prop := mountChange event = none

theorem allowsLxc_still : Container.AllowsLxc Still :=
  fun _ _ _ _ _ => rfl

def Job.MovesNothing (job : Job) : Prop :=
  ∀ source target, ChildCall.run (.moveMount source target) ∉ job.calls

theorem Job.Asks.still {job : Job} (movesNothing : job.MovesNothing) {event : Event Sys}
    (asked : job.Asks event) : Still event := by
  obtain ⟨call, member, isCall⟩ := asked
  obtain ⟨sysCall, answer⟩ := event
  cases isCall
  cases call with
  | run job' =>
      cases job' with
      | moveMount source target => exact absurd member (movesNothing source target)
      | _ => rfl
  | _ => rfl

namespace Toolkit

theorem traces_firstBindMount (src dst tmpContainerRoot : String) (writeBufferEnabled : Bool) :
    Traces (fun _ => True) mountChange
      (fun result changes => (result = .ok true ∧ changes = [.mount (place dst)]) ∨
        (result ≠ .ok true ∧ changes = []))
      (firstBindMount src dst tmpContainerRoot writeBufferEnabled) := by
  have made : ∀ source flags data fstype, changesMount flags = false →
      Traces (fun _ : List CleanUpHandler => True) mountChange
        (fun result changes => (result = .ok true ∧ changes = [.mount (place dst)]) ∨
          (result ≠ .ok true ∧ changes = []))
        (sys (.mount source dst fstype flags data) : Toolkit Bool) := by
    intro source flags data fstype isNew
    refine @traces_ask Sys _ _ _ _ _ (.mount source dst fstype flags data) _
      fun answer => ?_
    cases answer with
    | true => exact .inl ⟨rfl, by simp [mountChange, isNew]⟩
    | false => exact .inr ⟨by simp, by simp [mountChange]⟩
  have temporary : ∀ template, Keeps (fun _ : List CleanUpHandler => True) Still
      (fun _ => True) (createTempDirectory template) := fun template =>
    keeps_bind (keeps_ask fun _ => rfl) fun made =>
      match made with
      | some _ => keeps_pure _
      | none => keeps_throw trivial
  refine traces_bind_quiet (keeps_ite (fun _ => keeps_ask fun _ => rfl) fun _ => keeps_pure _)
    fun overlay => traces_ite (fun _ => ?_) fun _ => made _ _ _ _ rfl
  refine traces_bind_silent (temporary _) (fun upperDir => ?_) fun _ _ => .inr ⟨nofun, rfl⟩
  exact traces_bind_silent (temporary _) (fun workDir => made _ _ _ _ rfl)
    fun _ _ => .inr ⟨nofun, rfl⟩

theorem traces_bindMount (src dst tmpContainerRoot : String)
    (readOnly writeBufferEnabled : Bool) :
    Traces (fun _ => True) mountChange
      (fun result changes => (changes = [] ∨ changes = [.mount (place dst)]) ∧
        (result = .ok true → changes ≠ []))
      (bindMount src dst tmpContainerRoot readOnly writeBufferEnabled) := by
  have failed : ∀ {result : Except Fault Bool}, result ≠ .ok true →
      (([] : List MountChange) = [] ∨ [] = [MountChange.mount (place dst)]) ∧
        (result = .ok true → ([] : List MountChange) ≠ []) :=
    fun differs => ⟨.inl rfl, fun same => absurd same differs⟩
  refine traces_bind_quiet (keeps_ask fun _ => rfl) fun srcExists =>
    traces_ite (fun _ => traces_pure (failed (by simp))) fun _ => ?_
  refine traces_bind_quiet (keeps_ask fun _ => rfl) fun dstExists =>
    traces_ite (fun _ => traces_pure (failed (by simp))) fun _ => ?_
  -- a remount that is refused leaves the mount that was made
  have rest : ∀ mounted, Traces (fun _ : List CleanUpHandler => True) mountChange
      (fun result changes => changes = [] ∧ (mounted = false → result ≠ .ok true))
      (do
        if !mounted then
          return false
        else if readOnly && !writeBufferEnabled then
          sys (.mount src dst "" ["MS_REMOUNT", "MS_RDONLY", "MS_BIND"] "")
        else
          return true : Toolkit Bool) := by
    intro mounted
    refine traces_ite (fun _ => traces_pure ⟨rfl, fun _ => by simp⟩) fun isMounted => ?_
    have isTrue : mounted = false → False := fun isFalse => isMounted (by simp [isFalse])
    refine traces_ite (fun _ => ?_) fun _ => traces_pure ⟨rfl, fun isFalse => (isTrue isFalse).elim⟩
    exact @traces_ask Sys _ _ _ _ _ (.mount src dst "" ["MS_REMOUNT", "MS_RDONLY", "MS_BIND"] "")
      _ fun answer => ⟨by cases answer <;> rfl, fun isFalse => (isTrue isFalse).elim⟩
  refine traces_bind (traces_firstBindMount src dst tmpContainerRoot writeBufferEnabled) rest
    (fun mounted result early late first second => ?_) fun error early thrown => ?_
  · obtain ⟨rfl, whenFalse⟩ := second
    rcases first with ⟨_, rfl⟩ | ⟨notTrue, rfl⟩
    · exact ⟨.inr rfl, fun _ => by simp⟩
    · exact failed (whenFalse (by simpa using notTrue))
  · rcases thrown with ⟨same, _⟩ | ⟨_, rfl⟩
    · cases same
    · exact failed nofun

end Toolkit

namespace Container

variable {root : String}

abbrev RootIs (root : String) (self : Container) : Prop := self.containerRoot = root

theorem keeps_executeSync {inv : Container → Prop} {job : Job} {pid : Int}
    (movesNothing : job.MovesNothing) :
    Keeps inv Still (fun _ => False) (executeSync job pid) := by
  refine keeps_bind (keeps_bind (keeps_execute allowsLxc_still _ _ _ _ _ _) fun started => ?_)
    fun _ => keeps_pure _
  refine keeps_bind (keeps_ite (fun _ => keeps_map ?_) fun _ => keeps_pure _) fun _ =>
    keeps_bind (keeps_ask fun _ => rfl) fun _ => keeps_pure _
  exact Child.keeps_run (fun _ => rfl) (fun _ _ => rfl) fun _ asked => asked.still movesNothing

theorem noError_pure {α : Type} (value : α) :
    ∀ error, (.ok value : Except Fault α) ≠ .error error := nofun

abbrev MovesTo {α : Type} (source target : String) (result : Except Fault α)
    (changes : List MountChange) : Prop :=
  (∀ error, result ≠ .error error) ∧
    (changes = [] ∨ changes = [.move (place source) (place target)])

theorem traces_executeSync_move {inv : Container → Prop} (source target : String) (pid : Int) :
    Traces inv mountChange (MovesTo source target)
      (executeSync (.moveMount source target) pid) := by
  have process : Traces inv mountChange (MovesTo source target)
      (some <$> Child.run (.moveMount source target) : Method (Option WaitStatus)) := by
    intro oracle world kept
    obtain ⟨status, recorded, ended, process⟩ :=
      Child.run_process (.moveMount source target) oracle world
    rw [run_map, ended]
    exact ⟨kept, recorded, rfl, nofun, process.mountChanges⟩
  have waits : ∀ started pid fate, Traces inv mountChange (fun result changes =>
      changes = [] ∧ ∀ error, result ≠ .error error) (do
        let waited ← sys (.waitpid pid)
        return { started, pid, fate, waited } : Method FunctionRun) := fun started pid fate =>
    traces_bind_quiet (keeps_ask fun _ => rfl) fun _ => traces_pure ⟨rfl, nofun⟩
  have ran : ∀ stdin stdout stderr, Traces inv mountChange (MovesTo source target)
      (runFunction (.moveMount source target) pid stdin stdout stderr) := by
    intro stdin stdout stderr
    refine traces_bind_quiet (keeps_execute allowsLxc_still _ _ _ _ _ _)
      fun ⟨started, pid⟩ => ?_
    exact traces_bind_then_silent
      (traces_ite (fun _ => process) fun _ => traces_pure ⟨nofun, .inl rfl⟩) (waits started pid)
      (fun _ _ _ first noError => ⟨noError, first.2⟩)
      fun error _ thrown => absurd rfl (thrown.1 error)
  exact traces_bind_then_silent (ran _ _ _) (fun _ => traces_pure ⟨rfl, noError_pure _⟩)
    (fun _ _ _ first noError => ⟨noError, first.2⟩)
    fun error _ thrown => absurd rfl (thrown.1 error)

theorem traces_moveMount {inv : Container → Prop}
    (pathInContainer tempDirInContainer tempDirInContainerOnHost : String) :
    Traces inv mountChange (MovesTo tempDirInContainer pathInContainer)
      (moveMount pathInContainer tempDirInContainer tempDirInContainerOnHost) := by
  have parents : ∀ path, (Job.createParentDirectories path).MovesNothing :=
    fun path source target member => by simp [Job.calls] at member
  refine traces_bind_quiet (keeps_executeSync (parents _)) fun parentCreated => ?_
  obtain ⟨isCreated, pid⟩ := parentCreated
  refine traces_ite (fun _ => traces_pure ⟨noError_pure _, .inl rfl⟩) fun _ => ?_
  refine traces_bind_quiet (keeps_ask fun _ => rfl) fun isDirectory => ?_
  refine traces_bind_quiet (keeps_executeSync ?_) fun targetCreated => ?_
  · cases isDirectory with
    | true => exact parents _
    | false => exact fun source target member => by simp [Job.calls] at member
  · obtain ⟨isCreated, pid⟩ := targetCreated
    refine traces_ite (fun _ => traces_pure ⟨noError_pure _, .inl rfl⟩) fun _ => ?_
    exact traces_bind_then_silent (traces_executeSync_move _ _ _)
      (fun _ => traces_pure ⟨rfl, noError_pure _⟩)
      (fun _ _ _ first noError => ⟨noError, first.2⟩)
      fun error _ thrown => absurd rfl (thrown.1 error)

/-- What a bind mount may have done when it ends: its own mount, and a move of it. -/
inductive Mounting (target shown : Place) : List MountChange → Prop
  | nothing : Mounting target shown []
  | mounted : Mounting target shown [.mount target]
  | moved (goal : Place) : Mounting target shown [.mount target, .move shown goal]

theorem Mounting.of_moves {target shown goal : Place} {moves : List MountChange}
    (moved : moves = [] ∨ moves = [.move shown goal]) :
    Mounting target shown ([.mount target] ++ moves) := by
  rcases moved with rfl | rfl
  · exact .mounted
  · exact .moved goal

theorem traces_moveAndRemount {inv : Container → Prop} (mounted : Bool)
    (pathInContainer tempDirInContainerOnHost : String) (readonly : Bool) :
    Traces inv mountChange
      (fun result changes =>
        (changes = [] ∨ changes = [.move (place (buildPath GATEWAYS_PATH (baseName pathInContainer)))
          (place pathInContainer)]) ∧
        (mounted = false → changes = [] ∧ result ≠ .ok true))
      (do
        if !mounted then
          return false
        else
          let tempDirInContainer := buildPath GATEWAYS_PATH (baseName pathInContainer)
          let moved ←
            (if tempDirInContainer ≠ pathInContainer then
              moveMount pathInContainer tempDirInContainer tempDirInContainerOnHost
            else
              pure true)
          if !moved then
            return false
          else if readonly then
            remountReadOnlyInContainer pathInContainer
          else
            return true : Method Bool) := by
  refine traces_ite (fun _ => traces_pure ⟨.inl rfl, fun _ => ⟨rfl, by simp⟩⟩) fun isMounted => ?_
  have isTrue : mounted ≠ false := fun isFalse => isMounted (by simp [isFalse])
  have remounts : Keeps inv Still (fun _ => False) (remountReadOnlyInContainer pathInContainer) :=
    keeps_bind (keeps_executeSync fun source target member => by simp [Job.calls] at member)
      fun _ => keeps_pure _
  have moves : Traces inv mountChange (fun _ changes => changes = [] ∨ changes =
        [.move (place (buildPath GATEWAYS_PATH (baseName pathInContainer)))
          (place pathInContainer)])
      (if buildPath GATEWAYS_PATH (baseName pathInContainer) ≠ pathInContainer then
        moveMount pathInContainer (buildPath GATEWAYS_PATH (baseName pathInContainer))
          tempDirInContainerOnHost
      else
        pure true) :=
    traces_ite (fun _ => (traces_moveMount _ _ _).weaken fun _ _ moves => moves.2)
      fun _ => traces_pure (.inl rfl)
  have ends : ∀ moved, Traces inv mountChange
      (fun (_ : Except Fault Bool) changes => changes = [] ∧ True) (do
        if !moved then
          return false
        else if readonly then
          remountReadOnlyInContainer pathInContainer
        else
          return true : Method Bool) := fun moved =>
    traces_ite (fun _ => traces_pure ⟨rfl, trivial⟩) fun _ =>
      traces_ite (fun _ => remounts.traces.weaken fun _ _ silent => ⟨silent, trivial⟩)
        fun _ => traces_pure ⟨rfl, trivial⟩
  exact traces_bind_then_silent moves ends
    (fun _ _ _ moved _ => ⟨moved, fun isFalse => absurd isFalse isTrue⟩)
    fun _ _ moved => ⟨moved, fun isFalse => absurd isFalse isTrue⟩

theorem traces_bindMountCore {inv : Container → Prop}
    (keepsHandlers : ∀ self handlers, inv self → inv { self with cleanupHandlers := handlers })
    (pathInHost pathInContainer tempDirInContainerOnHost : String) (readonly : Bool) :
    Traces inv mountChange
      (fun result changes => Mounting (place tempDirInContainerOnHost)
          (place (buildPath GATEWAYS_PATH (baseName pathInContainer))) changes ∧
        (result = .ok true → changes ≠ []))
      (bindMountCore pathInHost pathInContainer tempDirInContainerOnHost readonly) := by
  have failed : ∀ {result : Except Fault Bool}, result ≠ .ok true →
      Mounting (place tempDirInContainerOnHost)
          (place (buildPath GATEWAYS_PATH (baseName pathInContainer))) [] ∧
        (result = .ok true → ([] : List MountChange) ≠ []) :=
    fun differs => ⟨.nothing, fun same => absurd same differs⟩
  refine traces_bind_quiet (keeps_ensureContainerRunning allowsLxc_still) fun running =>
    traces_ite (fun _ => traces_pure (failed (by simp))) fun _ => ?_
  split
  · exact traces_throw (failed nofun)
  · refine traces_get_bind fun self _ => traces_ite
      (fun _ => traces_pure (failed (by simp))) fun _ => ?_
    have mounts := @traces_zoom Sys Fault _ _ _ _ inv mountChange _ toolkitLens _ _
      (fun _ _ => trivial) (fun self handlers holds _ => keepsHandlers self handlers holds)
      (Toolkit.traces_bindMount pathInHost tempDirInContainerOnHost self.containerRoot readonly
        self.writeBufferEnabled)
    refine traces_bind mounts (fun mounted => traces_moveAndRemount mounted pathInContainer
      tempDirInContainerOnHost readonly) (fun mounted result early late first second => ?_)
      fun error early thrown => ?_
    · rcases first.1 with rfl | rfl
      · have isFalse : mounted = false := by
          cases mounted with
          | true => exact absurd rfl (first.2 rfl)
          | false => rfl
        obtain ⟨rfl, differs⟩ := second.2 isFalse
        exact failed differs
      · exact ⟨Mounting.of_moves second.1, fun _ => by simp⟩
    · rcases thrown.1 with rfl | rfl
      · exact failed nofun
      · exact ⟨.mounted, nofun⟩

theorem traces_cleanMount {σ : Type} {inv : σ → Prop} (path : String) :
    Traces inv mountChange
      (fun (result : Except Fault Bool) changes => (∀ error, result ≠ .error error) ∧
        (changes = [] ∨ changes = [.unmount (place path)]))
      (Toolkit.cleanMount path) := by
  have unmounts : ∀ flag, Traces inv mountChange
      (fun (result : Except Fault Bool) changes =>
        (result = .ok true ∧ changes = [.unmount (place path)]) ∨
          (result = .ok false ∧ changes = []))
      (sys (.umount2 path flag) : Act Sys Fault σ Bool) := fun flag =>
    @traces_ask Sys _ _ _ _ _ (.umount2 path flag) _ fun answer => by
      cases answer with
      | true => exact .inl ⟨rfl, rfl⟩
      | false => exact .inr ⟨rfl, rfl⟩
  have forced : ∀ detached : Bool, Traces inv mountChange
      (fun (result : Except Fault Bool) changes => (∀ error, result ≠ .error error) ∧
        (detached = true → changes = []) ∧ (changes = [] ∨ changes = [.unmount (place path)]))
      (if detached then return true else sys (.umount2 path "MNT_FORCE") : Act Sys Fault σ Bool) := by
    intro detached
    refine traces_ite (fun _ => traces_pure ⟨nofun, fun _ => rfl, .inl rfl⟩) fun notDetached =>
      (unmounts _).weaken fun result changes unmounted => ?_
    rcases unmounted with ⟨rfl, same⟩ | ⟨rfl, same⟩
    · exact ⟨nofun, fun isDetached => absurd isDetached notDetached, .inr same⟩
    · exact ⟨nofun, fun isDetached => absurd isDetached notDetached, .inl same⟩
  refine traces_bind (unmounts _) forced (fun detached result early late first second => ?_)
    fun error early thrown => ?_
  · rcases first with ⟨same, rfl⟩ | ⟨_, rfl⟩
    · cases same
      rw [second.2.1 rfl]
      exact ⟨second.1, .inr rfl⟩
    · exact ⟨second.1, second.2.2⟩
  · rcases thrown with ⟨same, _⟩ | ⟨same, _⟩ <;> cases same

def stagingPath (root pathInContainer : String) : String :=
  buildPath (buildPath root GATEWAYS_PATH) (baseName pathInContainer)

def stagingPathInContainer (pathInContainer : String) : String :=
  buildPath GATEWAYS_PATH (baseName pathInContainer)

/-- What a call did when it ends: what it mounted, and an unmount of the staging path when
it returns false. -/
structure Rebound (root pathInContainer : String) (result : Except Fault Bool)
    (mounting undone : List MountChange) : Prop where
  isMounting : Mounting (place (stagingPath root pathInContainer))
    (place (stagingPathInContainer pathInContainer)) mounting
  isUndone : undone = [] ∨ undone = [.unmount (place (stagingPath root pathInContainer))]
  succeeded : result = .ok true → mounting ≠ []
  rolledBack : result ≠ .ok false → undone = []

theorem traces_bindMountInContainer (root pathInHost pathInContainer : String)
    (readOnly : Bool) :
    Traces (RootIs root) mountChange
      (fun result changes => ∃ mounting undone, changes = mounting ++ undone ∧
        Rebound root pathInContainer result mounting undone)
      (bindMountInContainer pathInHost pathInContainer readOnly) := by
  have failed : ∃ mounting undone, ([] : List MountChange) = mounting ++ undone ∧
      Rebound root pathInContainer (.ok false) mounting undone :=
    ⟨[], [], rfl, .nothing, .inl rfl, (fun isTrue => by cases isTrue), fun _ => rfl⟩
  refine traces_bind_quiet (keeps_ask fun _ => rfl) fun exists' =>
    traces_ite (fun _ => traces_pure failed) fun _ => ?_
  refine traces_bind_quiet (keeps_executeSync fun source target member => by
      simp [Job.calls] at member) fun notMounted => ?_
  obtain ⟨isNotMounted, pid⟩ := notMounted
  refine traces_ite (fun _ => traces_pure failed) fun _ => ?_
  refine traces_get_bind fun self rootIs => ?_
  have isStaging : buildPath self.gatewaysDir (baseName pathInContainer) =
      stagingPath root pathInContainer := by
    rw [stagingPath, gatewaysDir, rootIs]
  dsimp only
  rw [isStaging]
  refine traces_bind_quiet (keeps_ask fun _ => rfl) fun pathIsDirectory => ?_
  have listed : Keeps (fun _ => True) Still (fun _ => False)
      (Toolkit.pathInList (stagingPath root pathInContainer)) :=
    keeps_get_bind fun _ _ => keeps_pure _
  have target : Keeps (RootIs root) Still (fun _ => False)
      (createMountTarget pathIsDirectory (stagingPath root pathInContainer)) :=
    keeps_ite (fun _ => keeps_ask fun _ => rfl) fun _ =>
      keeps_bind (keeps_zoom (fun _ _ => trivial) (fun _ _ same _ => same) listed) fun _ =>
        keeps_ite (fun _ => keeps_pure _) fun _ => keeps_ask fun _ => rfl
  refine traces_bind_quiet target fun created =>
    traces_ite (fun _ => traces_pure failed) fun _ => ?_
  have ends : ∀ mounted : Bool, Traces (RootIs root) mountChange
      (fun result undone => (undone = [] ∨
          undone = [.unmount (place (stagingPath root pathInContainer))]) ∧
        ((mounted = true ∧ result = .ok true ∧ undone = []) ∨
          (result ≠ .ok true ∧ (result ≠ .ok false → undone = [])))) (do
        if !mounted then
          let _ ← Toolkit.cleanMount (stagingPath root pathInContainer)
          return false
        else
          toolkit (Toolkit.addHandlers (if pathIsDirectory then
              [.mount (stagingPath root pathInContainer)]
            else
              [.file (stagingPath root pathInContainer),
                .mount (stagingPath root pathInContainer)]))
          return true : Method Bool) := by
    intro mounted
    refine traces_ite (fun _ => ?_) fun isMounted => ?_
    · exact traces_bind_then_silent (traces_cleanMount _)
        (fun _ => traces_pure ⟨rfl, rfl⟩)
        (fun _ result _ cleaned (isFalse : .ok false = result) =>
          ⟨cleaned.2, .inr ⟨by simp [← isFalse], fun notFalse => absurd isFalse.symm notFalse⟩⟩)
        fun error _ thrown => absurd rfl (thrown.1 error)
    · have adds : ∀ handlers, Keeps (RootIs root) Still (fun _ => False)
          (toolkit (Toolkit.addHandlers handlers)) := fun handlers =>
        keeps_zoom (fun _ _ => trivial) (fun _ _ same _ => same)
          (keeps_modify fun _ (always : True) => always)
      exact traces_bind_quiet (adds _) fun _ =>
        traces_pure ⟨.inl rfl, .inl ⟨by simpa using isMounted, rfl, rfl⟩⟩
  refine traces_bind (traces_bindMountCore (fun _ _ same => same) pathInHost pathInContainer
    (stagingPath root pathInContainer) readOnly) ends
    (fun mounted result early late first second => ?_) fun error early thrown => ?_
  · refine ⟨early, late, rfl, first.1, second.1, fun isTrue => ?_, fun notFalse => ?_⟩
    · rcases second.2 with ⟨rfl, _⟩ | ⟨notTrue, _⟩
      · exact first.2 rfl
      · exact absurd isTrue notTrue
    · rcases second.2 with ⟨_, _, same⟩ | ⟨_, silent⟩
      · exact same
      · exact silent notFalse
  · exact ⟨early, [], (List.append_nil _).symm, thrown.1, .inl rfl, (fun isTrue => by cases isTrue),
      fun _ => rfl⟩

end Container

end SoftwareContainers
