import SoftwareContainers.Container.BindMounts

namespace SoftwareContainers

open Effect Effect.Act FileSystem

/-! Sequences of bind mounts: what a call that fails leaves of the mounts that earlier
calls have made. -/

/-- The mount of a call that has succeeded, and whether it is still where the container
shows the staging path. -/
structure EarlierMount where
  place : Place
  number : Nat
  unmoved : Bool
  deriving DecidableEq

namespace MountTable

variable {gateways : Place} {table : MountTable} {mounts : List EarlierMount}
  {target shown : Place} {number : Nat}

def StillMounted (gateways : Place) (table : MountTable) (mount : EarlierMount) : Prop :=
  mount.number ∈ table.host mount.place ∧
    (mount.unmoved = true → ∀ shown, shownAt gateways mount.place = some shown →
      mount.number ∈ table.container shown)

theorem StillMounted.number_lt {mount : EarlierMount} (numbered : table.Numbered)
    (still : StillMounted gateways table mount) : mount.number < table.made :=
  numbered.host_lt _ _ still.1

theorem mem_update_of {mounts : Place → List Nat} {path other : Place} {stack : List Nat}
    (member : number ∈ mounts other) (stays : other = path → number ∈ stack) :
    number ∈ Function.update mounts path stack other := by
  by_cases same : other = path
  · subst same
    rw [Function.update_self]
    exact stays rfl
  · rw [Function.update_of_ne same]
    exact member

theorem mem_onShown_of {mounts : Place → List Nat} {alter : List Nat → List Nat}
    {path other : Place} (member : number ∈ mounts other)
    (stays : ∀ stack, number ∈ stack → number ∈ alter stack) :
    number ∈ onShown gateways path alter mounts other := by
  cases shown : shownAt gateways path with
  | none =>
      rw [onShown, shown]
      exact member
  | some shown' =>
      rw [onShown_of_shown shown]
      exact mem_update_of member fun same => stays _ (same ▸ member)

theorem StillMounted.mount {mount : EarlierMount} (still : StillMounted gateways table mount) :
    StillMounted gateways (table.mount gateways target) mount :=
  ⟨mem_update_of still.1 fun same => List.mem_cons_of_mem _ (same ▸ still.1),
    fun unmoved shown isShown => mem_onShown_of (still.2 unmoved shown isShown)
      fun _ member => List.mem_cons_of_mem _ member⟩

theorem StillMounted.move {mount : EarlierMount} {source : Place} {under : List Nat} {top : Nat}
    (still : StillMounted gateways table mount)
    (stack : table.container source = top :: under) (differs : mount.number ≠ top) :
    StillMounted gateways (table.move source target) mount := by
  rw [move_of_cons stack]
  refine ⟨still.1, fun unmoved shown isShown => ?_⟩
  have member := still.2 unmoved shown isShown
  have stays : mount.number ∈ Function.update table.container source under shown :=
    mem_update_of member fun same =>
      (List.mem_cons.mp (stack ▸ same ▸ member)).resolve_left differs
  exact mem_update_of stays fun same => List.mem_cons_of_mem _ (same ▸ stays)

theorem StillMounted.unmount {mount : EarlierMount} {under : List Nat} {top : Nat}
    (still : StillMounted gateways table mount) (stack : table.host target = top :: under)
    (differs : mount.number ≠ top) :
    StillMounted gateways (table.unmount gateways target) mount := by
  rw [unmount_of_cons stack]
  refine ⟨mem_update_of still.1 fun same =>
    (List.mem_cons.mp (stack ▸ same ▸ still.1)).resolve_left differs, ?_⟩
  exact fun unmoved shown isShown => mem_onShown_of (still.2 unmoved shown isShown)
    fun _ member => (List.mem_erase_of_ne differs).mpr member

theorem StillMounted.unmount_elsewhere {mount : EarlierMount} {under : List Nat} {top : Nat}
    (still : StillMounted gateways table mount) (stack : table.host target = top :: under)
    (elsewhere : mount.place ≠ target) :
    StillMounted gateways (table.unmount gateways target) mount := by
  rw [unmount_of_cons stack]
  refine ⟨mem_update_of still.1 fun same => absurd same elsewhere, ?_⟩
  intro unmoved shown isShown
  have member := still.2 unmoved shown isShown
  cases targetShown : shownAt gateways target with
  | none =>
      simp only [onShown, targetShown]
      exact member
  | some shown' =>
      simp only [onShown_of_shown targetShown]
      exact mem_update_of member fun same =>
        absurd (shownAt_injective isShown (same ▸ targetShown)) elsewhere

theorem not_stillMounted_unmount {mount : EarlierMount} {under : List Nat}
    (numbered : table.Numbered)
    (stack : table.host mount.place = mount.number :: under) :
    ¬ StillMounted gateways (table.unmount gateways mount.place) mount := by
  rw [unmount_of_cons stack]
  intro still
  have member := still.1
  simp only [Function.update_self] at member
  have order := List.pairwise_cons.mp (stack ▸ numbered.host mount.place)
  exact Nat.lt_irrefl _ (order.1 _ member)

end MountTable

namespace Container

open MountTable

variable {gateways target shown : Place} {table : MountTable} {changes : List MountChange}

theorem Mounting.stillMounted {mount : EarlierMount} (mounting : Mounting target shown changes)
    (isShown : shownAt gateways target = some shown) (numbered : table.Numbered)
    (still : StillMounted gateways table mount) :
    StillMounted gateways (table.after gateways changes) mount := by
  cases mounting with
  | nothing => exact still
  | mounted => exact still.mount
  | moved goal =>
      have top : (table.mount gateways target).container shown =
          table.made :: table.container shown := by
        simp only [MountTable.mount, onShown_of_shown isShown, Function.update_self]
      exact still.mount.move top (Nat.ne_of_lt (still.number_lt numbered))

theorem Mounting.host (mounting : Mounting target shown changes) (mounted : changes ≠ []) :
    (table.after gateways changes).host target = table.made :: table.host target := by
  cases mounting with
  | nothing => exact absurd rfl mounted
  | mounted => exact Function.update_self ..
  | moved goal =>
      simp only [after_cons, after_nil, change, MountTable.move]
      split <;> exact Function.update_self ..

theorem Mounting.mount_mem (mounting : Mounting target shown changes) (mounted : changes ≠ []) :
    .mount target ∈ changes := by
  cases mounting with
  | nothing => exact absurd rfl mounted
  | mounted => exact List.mem_cons_self
  | moved goal => exact List.mem_cons_self

theorem Mounting.unmount_not_mem (mounting : Mounting target shown changes) (path : Place) :
    .unmount path ∉ changes := by
  cases mounting <;> simp

theorem Mounting.own (mounting : Mounting target shown changes) (mounted : changes ≠ [])
    (isShown : shownAt gateways target = some shown) :
    StillMounted gateways (table.after gateways changes)
      ⟨target, table.made, !changes.any MountChange.isMove⟩ := by
  refine ⟨mounting.host mounted ▸ List.mem_cons_self, fun unmoved shown' isShown' => ?_⟩
  cases mounting with
  | nothing => exact absurd rfl mounted
  | mounted =>
      obtain rfl : shown' = shown := Option.some.inj (isShown'.symm.trans isShown)
      change table.made ∈ (table.mount gateways target).container shown'
      simp only [MountTable.mount, onShown_of_shown isShown, Function.update_self]
      exact List.mem_cons_self
  | moved goal => simp [MountChange.isMove] at unmoved

/-- The rollback unmounts what the call has mounted, or nothing that an earlier one has. -/
def RollsBackOwn (mounts : List EarlierMount) (table : MountTable) (target : Place)
    (changes : List MountChange) : Prop :=
  .unmount target ∈ changes → .mount target ∈ changes ∨
    ∀ mount ∈ mounts, mount.place = target → (table.host target).head? ≠ some mount.number

theorem stillMounted_unmount_iff {mounts : List EarlierMount} (numbered : table.Numbered)
    (still : ∀ mount ∈ mounts, StillMounted gateways table mount) :
    (∀ mount ∈ mounts, StillMounted gateways (table.unmount gateways target) mount) ↔
      ∀ mount ∈ mounts, mount.place = target → (table.host target).head? ≠ some mount.number := by
  cases stack : table.host target with
  | nil =>
      rw [unmount_of_nil stack]
      exact ⟨fun _ _ _ _ => by simp, fun _ => still⟩
  | cons top under =>
      constructor
      · rintro after mount member rfl isTop
        obtain rfl : top = mount.number := by simpa using isTop
        exact not_stillMounted_unmount numbered stack (after mount member)
      · intro notTop mount member
        by_cases same : mount.place = target
        · refine (still mount member).unmount stack fun isTop => ?_
          exact notTop mount member same (by simp [isTop])
        · exact (still mount member).unmount_elsewhere stack same

theorem Rebound.stillMounted_iff {root pathInContainer : String} {result : Except Fault Bool}
    {mounting undone : List MountChange} {mounts : List EarlierMount}
    (rebound : Rebound root pathInContainer result mounting undone) (numbered : table.Numbered)
    (isShown : shownAt gateways (place (stagingPath root pathInContainer)) =
      some (place (stagingPathInContainer pathInContainer)))
    (still : ∀ mount ∈ mounts, StillMounted gateways table mount) :
    (∀ mount ∈ mounts, StillMounted gateways (table.after gateways (mounting ++ undone)) mount) ↔
      RollsBackOwn mounts table (place (stagingPath root pathInContainer))
        (mounting ++ undone) := by
  have after : ∀ mount ∈ mounts, StillMounted gateways (table.after gateways mounting) mount :=
    fun mount member => rebound.isMounting.stillMounted isShown numbered (still mount member)
  rcases rebound.isUndone with rfl | rfl
  · rw [List.append_nil]
    exact ⟨fun _ unmounted => absurd unmounted (rebound.isMounting.unmount_not_mem _),
      fun _ => after⟩
  · rw [after_append]
    by_cases mounted : mounting = []
    · subst mounted
      rw [after_nil, after_cons, after_nil, change, stillMounted_unmount_iff numbered still]
      exact ⟨fun notTop _ => .inr notTop, fun rollsBack =>
        (rollsBack (by simp)).resolve_left (by simp)⟩
    · have own := rebound.isMounting.mount_mem mounted
      refine ⟨fun _ _ => .inl (List.mem_append_left _ own), fun _ mount member => ?_⟩
      refine (after mount member).unmount (rebound.isMounting.host mounted) ?_
      exact Nat.ne_of_lt ((still mount member).number_lt numbered)

end Container

structure BindMountCall where
  pathInHost : String
  pathInContainer : String
  readOnly : Bool

namespace BindMountCall

open Container MountTable

def act (call : BindMountCall) : Container.Method Bool :=
  bindMountInContainer call.pathInHost call.pathInContainer call.readOnly

def mountsOf (world : World Sys Container) : MountTable :=
  ofHistory (place world.state.gatewaysDir) world.history

section

variable (oracle : Oracle Sys) (world : World Sys Container) (call : BindMountCall)

def changes : List MountChange :=
  mountChanges ((call.act.run oracle world).2.history.drop world.history.length)

def stagingPlace : Place := place (stagingPath world.state.containerRoot call.pathInContainer)

def established : List EarlierMount :=
  match (call.act.run oracle world).1 with
  | .ok true => [⟨call.stagingPlace world, (mountsOf world).made,
      !(call.changes oracle world).any MountChange.isMove⟩]
  | _ => []

/-- Every mount of an earlier call that succeeded is there after the call. -/
def LeavesMounted (mounts : List EarlierMount) : Prop :=
  ∀ mount ∈ mounts, StillMounted (place world.state.gatewaysDir)
    (mountsOf (call.act.run oracle world).2) mount

/-- If the call unmounts its staging path then it has mounted there, or what lies on the
top there is not of an earlier call that succeeded. -/
def RollsBackOnlyItsOwn (mounts : List EarlierMount) : Prop :=
  RollsBackOwn mounts (mountsOf world) (call.stagingPlace world) (call.changes oracle world)

end

/-- What holds of each call that returns false, in a sequence of calls. -/
def EveryFailure (oracle : Oracle Sys)
    (holds : World Sys Container → BindMountCall → List EarlierMount → Prop) :
    List EarlierMount → World Sys Container → List BindMountCall → Prop
  | _, _, [] => True
  | mounts, world, call :: rest =>
      ((call.act.run oracle world).1 = .ok false → holds world call mounts) ∧
        EveryFailure oracle holds (mounts ++ call.established oracle world)
          (call.act.run oracle world).2 rest

variable {oracle : Oracle Sys} {world : World Sys Container}

theorem shownAt_stagingPath (self : Container) (pathInContainer : String) :
    shownAt (place self.gatewaysDir) (place (stagingPath self.containerRoot pathInContainer)) =
      some (place (stagingPathInContainer pathInContainer)) := by
  have gateways : place GATEWAYS_PATH = ["gateways"] := by decide +kernel
  rw [stagingPath, place_buildPath, ← gatewaysDir, shownAt_append, stagingPathInContainer,
    place_buildPath, gateways, List.singleton_append]

theorem rebound (call : BindMountCall) (oracle : Oracle Sys) (world : World Sys Container) :
    place (call.act.run oracle world).2.state.gatewaysDir = place world.state.gatewaysDir ∧
    (∃ mounting undone, call.changes oracle world = mounting ++ undone ∧
      Rebound world.state.containerRoot call.pathInContainer (call.act.run oracle world).1
        mounting undone) ∧
    mountsOf (call.act.run oracle world).2 =
      (mountsOf world).after (place world.state.gatewaysDir) (call.changes oracle world) := by
  obtain ⟨rootIs, recorded, grown, outcome⟩ :=
    traces_bindMountInContainer world.state.containerRoot call.pathInHost call.pathInContainer
      call.readOnly oracle world rfl
  have changesAre : call.changes oracle world = mountChanges recorded := by
    rw [changes, act, grown, List.drop_left]
  have sameGateways : (call.act.run oracle world).2.state.gatewaysDir =
      world.state.gatewaysDir := by
    rw [gatewaysDir, gatewaysDir]
    exact congrArg (buildPath · GATEWAYS_PATH) rootIs
  refine ⟨congrArg place sameGateways, changesAre ▸ outcome, ?_⟩
  rw [mountsOf, sameGateways, changesAre, mountsOf, ← ofHistory_append]
  exact congrArg _ grown

/-- One call that has started with every earlier mount there. -/
theorem leavesMounted_iff (call : BindMountCall) {mounts : List EarlierMount}
    (still : ∀ mount ∈ mounts, StillMounted (place world.state.gatewaysDir) (mountsOf world) mount) :
    call.LeavesMounted oracle world mounts ↔ call.RollsBackOnlyItsOwn oracle world mounts := by
  obtain ⟨_, ⟨mounting, undone, same, rebound⟩, after⟩ := call.rebound oracle world
  rw [LeavesMounted, RollsBackOnlyItsOwn, after, same]
  exact rebound.stillMounted_iff (numbered_ofHistory _) (shownAt_stagingPath _ _) still

theorem stillMounted_established (call : BindMountCall) {mounts : List EarlierMount}
    (still : ∀ mount ∈ mounts, StillMounted (place world.state.gatewaysDir) (mountsOf world) mount)
    (left : (call.act.run oracle world).1 = .ok false → call.LeavesMounted oracle world mounts) :
    ∀ mount ∈ mounts ++ call.established oracle world,
      StillMounted (place (call.act.run oracle world).2.state.gatewaysDir)
        (mountsOf (call.act.run oracle world).2) mount := by
  obtain ⟨gateways, ⟨mounting, undone, same, rebound⟩, after⟩ := call.rebound oracle world
  rw [gateways]
  intro mount member
  rcases List.mem_append.mp member with earlier | own
  · by_cases failed : (call.act.run oracle world).1 = .ok false
    · exact left failed mount earlier
    · refine (leavesMounted_iff call still).mpr (fun unmounted => ?_) mount earlier
      rw [same, rebound.rolledBack failed, List.append_nil] at unmounted
      exact absurd unmounted (rebound.isMounting.unmount_not_mem _)
  · rw [established] at own
    split at own
    · rename_i succeeded
      obtain rfl := List.mem_singleton.mp own
      have nothingUndone : undone = [] := rebound.rolledBack (by simp [succeeded])
      rw [after, same, nothingUndone, List.append_nil]
      exact rebound.isMounting.own (rebound.succeeded succeeded) (shownAt_stagingPath _ _)
    · exact absurd own List.not_mem_nil

/-- **A failed bind mount leaves earlier mounts alone** exactly when its rollback unmounts
what it has mounted itself. -/
theorem failed_bind_mounts_leave_mounts_iff (oracle : Oracle Sys) (world : World Sys Container)
    (calls : List BindMountCall) :
    EveryFailure oracle (fun world call => call.LeavesMounted oracle world) [] world calls ↔
      EveryFailure oracle (fun world call => call.RollsBackOnlyItsOwn oracle world) [] world
        calls := by
  suffices general : ∀ mounts, (∀ mount ∈ mounts,
      StillMounted (place world.state.gatewaysDir) (mountsOf world) mount) →
      (EveryFailure oracle (fun world call => call.LeavesMounted oracle world) mounts world calls ↔
        EveryFailure oracle (fun world call => call.RollsBackOnlyItsOwn oracle world) mounts world
          calls) from general [] fun _ member => absurd member List.not_mem_nil
  induction calls generalizing world with
  | nil => exact fun _ _ => Iff.rfl
  | cons call rest ih =>
      intro mounts still
      have step : call.LeavesMounted oracle world mounts ↔
          call.RollsBackOnlyItsOwn oracle world mounts := leavesMounted_iff call still
      constructor
      · rintro ⟨left, others⟩
        refine ⟨fun failed => step.mp (left failed), ?_⟩
        exact (ih _ _ (stillMounted_established call still left)).mp others
      · rintro ⟨rollsBack, others⟩
        have left := fun failed => step.mpr (rollsBack failed)
        exact ⟨left, (ih _ _ (stillMounted_established call still left)).mpr others⟩

def refusesMount (refused : String) : Oracle Sys
  | _, .mount source _ _ _ _ => source != refused
  | history, call => fortunate history call

def runningContainer : World Sys Container where
  state := { Container.new "0" "/etc/sc.conf" "/tmp/container" false 1 with state := .started }
  history := []

/-- Two paths of one last name: the mount of the second fails, and the rollback unmounts
the first. -/
theorem failed_bind_mount_unmounts_another :
    ¬ EveryFailure (refusesMount "/host/second")
      (fun world call => call.LeavesMounted (refusesMount "/host/second") world) []
      runningContainer
      [⟨"/host/first", "/app/data", false⟩, ⟨"/host/second", "/cache/data", false⟩] := by
  intro holds
  have secondFails := holds.2.1 (by decide +kernel)
  have isFirst : ⟨["tmp", "container", "gateways", "data"], 0, false⟩ ∈
      [] ++ established (refusesMount "/host/second") runningContainer
        ⟨"/host/first", "/app/data", false⟩ := by
    decide +kernel
  have still := (secondFails _ isFirst).1
  revert still
  decide +kernel

end BindMountCall

end SoftwareContainers
