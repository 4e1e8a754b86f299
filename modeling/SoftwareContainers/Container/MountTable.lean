import Mathlib.Logic.Function.Basic
import SoftwareContainers.Container.Jobs
import SoftwareContainers.Effect.Traces
import SoftwareContainers.Files.Paths

namespace SoftwareContainers

open Effect Effect.Act FileSystem

/-! The mounts of the host and of the container, as the answers of the kernel tell. -/

/-- Where a path leads when no link is in the way. -/
def place (path : String) : Place := (names path).filter (· ≠ ".")

inductive MountChange where
  | mount (target : Place)
  | unmount (target : Place)
  | move (source target : Place)
  deriving DecidableEq, Repr

def MountChange.isMove : MountChange → Bool
  | .move .. => true
  | _ => false

/-- Flags that change a mount that is there instead of making one. -/
def changesMount (flags : List String) : Bool :=
  flags.any (["MS_REMOUNT", "MS_UNBINDABLE", "MS_SHARED"].contains ·)

/-- What an event did to the mounts; a mount is only moved in a container. -/
def mountChange (event : Event Sys) : Option MountChange :=
  match event with
  | ⟨.mount _ target _ flags _, made⟩ =>
      if made && !changesMount flags then some (.mount (place target)) else none
  | ⟨.umount path, unmounted⟩ => if unmounted then some (.unmount (place path)) else none
  | ⟨.umount2 path _, unmounted⟩ => if unmounted then some (.unmount (place path)) else none
  | ⟨.child (.run (.moveMount source target)), returned⟩ =>
      if returned = some 0 then some (.move (place source) (place target)) else none
  | _ => none

abbrev mountChanges (history : History Sys) : List MountChange := traceOf mountChange history

theorem mountChanges_append (first second : History Sys) :
    mountChanges (first ++ second) = mountChanges first ++ mountChanges second :=
  traceOf_append mountChange first second

/-- The mounts at each path, the topmost first.  A mount has a number, which its copy in
the container shares. -/
structure MountTable where
  host : Place → List Nat
  container : Place → List Nat
  made : Nat

/-- Where the container shows a path of the host. -/
def shownAt (gateways path : Place) : Option Place :=
  if gateways <+: path then some ("gateways" :: path.drop gateways.length) else none

/-- Change what is mounted in the container where it shows the path. -/
def onShown (gateways path : Place) (alter : List Nat → List Nat)
    (mounts : Place → List Nat) : Place → List Nat :=
  match shownAt gateways path with
  | some shown => Function.update mounts shown (alter (mounts shown))
  | none => mounts

namespace MountTable

def empty : MountTable := ⟨fun _ => [], fun _ => [], 0⟩

variable (gateways : Place)

/-- What is mounted below the gateways directory is mounted in the container too. -/
def mount (table : MountTable) (target : Place) : MountTable where
  host := Function.update table.host target (table.made :: table.host target)
  container := onShown gateways target (table.made :: ·) table.container
  made := table.made + 1

/-- The topmost mount goes, and its copy where the container shows the path. -/
def unmount (table : MountTable) (target : Place) : MountTable :=
  match table.host target with
  | [] => table
  | top :: under =>
      { table with
        host := Function.update table.host target under
        container := onShown gateways target (·.erase top) table.container }

def move (table : MountTable) (source target : Place) : MountTable :=
  match table.container source with
  | [] => table
  | top :: under =>
      let without := Function.update table.container source under
      { table with container := Function.update without target (top :: without target) }

def change (table : MountTable) : MountChange → MountTable
  | .mount target => table.mount gateways target
  | .unmount target => table.unmount gateways target
  | .move source target => table.move source target

def after (table : MountTable) (changes : List MountChange) : MountTable :=
  changes.foldl (change gateways) table

def ofHistory (history : History Sys) : MountTable := empty.after gateways (mountChanges history)

variable {gateways} {table : MountTable} {target : Place}

@[simp] theorem after_nil : table.after gateways [] = table := rfl

@[simp] theorem after_cons (change : MountChange) (changes : List MountChange) :
    table.after gateways (change :: changes) =
      (table.change gateways change).after gateways changes := rfl

theorem after_append (first second : List MountChange) :
    table.after gateways (first ++ second) =
      (table.after gateways first).after gateways second :=
  List.foldl_append

theorem unmount_of_nil (stack : table.host target = []) :
    table.unmount gateways target = table := by
  rw [unmount, stack]

theorem unmount_of_cons {top : Nat} {under : List Nat}
    (stack : table.host target = top :: under) :
    table.unmount gateways target =
      { table with
        host := Function.update table.host target under
        container := onShown gateways target (·.erase top) table.container } := by
  rw [unmount, stack]

theorem move_of_nil {source : Place} (stack : table.container source = []) :
    table.move source target = table := by
  rw [move, stack]

theorem move_of_cons {source : Place} {top : Nat} {under : List Nat}
    (stack : table.container source = top :: under) :
    table.move source target =
      { table with
        container := Function.update (Function.update table.container source under) target
          (top :: Function.update table.container source under target) } := by
  rw [move, stack]

theorem ofHistory_append (history recorded : History Sys) :
    ofHistory gateways (history ++ recorded) =
      (ofHistory gateways history).after gateways (mountChanges recorded) := by
  rw [ofHistory, mountChanges_append, after_append]
  rfl

structure Numbered (table : MountTable) : Prop where
  host : ∀ path, (table.host path).Pairwise (· > ·)
  host_lt : ∀ path, ∀ number ∈ table.host path, number < table.made
  container_lt : ∀ path, ∀ number ∈ table.container path, number < table.made

theorem mem_update {mounts : Place → List Nat} {path other : Place} {stack : List Nat}
    {number : Nat} (member : number ∈ Function.update mounts path stack other) :
    number ∈ stack ∨ number ∈ mounts other := by
  by_cases same : other = path
  · subst same
    rw [Function.update_self] at member
    exact .inl member
  · rw [Function.update_of_ne same] at member
    exact .inr member

theorem onShown_of_shown {mounts : Place → List Nat} {alter : List Nat → List Nat}
    {path shown : Place} (isShown : shownAt gateways path = some shown) :
    onShown gateways path alter mounts =
      Function.update mounts shown (alter (mounts shown)) := by
  rw [onShown, isShown]

theorem mem_onShown {mounts : Place → List Nat} {alter : List Nat → List Nat} {path other : Place}
    {number : Nat} (member : number ∈ onShown gateways path alter mounts other) :
    number ∈ alter (mounts other) ∨ number ∈ mounts other := by
  cases shown : shownAt gateways path with
  | none =>
      rw [onShown, shown] at member
      exact .inr member
  | some shown' =>
      rw [onShown_of_shown shown] at member
      by_cases same : other = shown'
      · subst same
        rw [Function.update_self] at member
        exact .inl member
      · rw [Function.update_of_ne same] at member
        exact .inr member

theorem Numbered.mount (numbered : table.Numbered) : (table.mount gateways target).Numbered := by
  constructor
  · intro path
    by_cases same : path = target
    · subst same
      simp only [MountTable.mount, Function.update_self]
      exact List.pairwise_cons.mpr ⟨numbered.host_lt path, numbered.host path⟩
    · simp only [MountTable.mount, Function.update_of_ne same]
      exact numbered.host path
  · intro path number member
    rcases mem_update member with isTop | member
    · rcases List.mem_cons.mp isTop with rfl | member
      · exact Nat.lt_succ_self _
      · exact Nat.lt_succ_of_lt (numbered.host_lt _ _ member)
    · exact Nat.lt_succ_of_lt (numbered.host_lt _ _ member)
  · intro path number member
    rcases mem_onShown member with isTop | member
    · rcases List.mem_cons.mp isTop with rfl | member
      · exact Nat.lt_succ_self _
      · exact Nat.lt_succ_of_lt (numbered.container_lt _ _ member)
    · exact Nat.lt_succ_of_lt (numbered.container_lt _ _ member)

theorem Numbered.unmount (numbered : table.Numbered) :
    (table.unmount gateways target).Numbered := by
  cases stack : table.host target with
  | nil =>
      rw [unmount_of_nil stack]
      exact numbered
  | cons top under =>
      rw [unmount_of_cons stack]
      have fromTop : ∀ number ∈ under, number < table.made := fun number member =>
        numbered.host_lt target number (stack ▸ List.mem_cons_of_mem _ member)
      constructor
      · intro path
        by_cases same : path = target
        · subst same
          simp only [Function.update_self]
          exact (List.pairwise_cons.mp (stack ▸ numbered.host path)).2
        · simp only [Function.update_of_ne same]
          exact numbered.host path
      · intro path number member
        rcases mem_update member with member | member
        · exact fromTop number member
        · exact numbered.host_lt _ _ member
      · intro path number member
        dsimp only at member
        rcases mem_onShown member with member | member
        · exact numbered.container_lt _ _ (List.mem_of_mem_erase member)
        · exact numbered.container_lt _ _ member

theorem Numbered.move {source : Place} (numbered : table.Numbered) :
    (table.move source target).Numbered := by
  cases stack : table.container source with
  | nil =>
      rw [move_of_nil stack]
      exact numbered
  | cons top under =>
      rw [move_of_cons stack]
      have fromSource : ∀ number ∈ top :: under, number < table.made := fun number member =>
        numbered.container_lt source number (stack ▸ member)
      have without : ∀ path, ∀ number ∈ Function.update table.container source under path,
          number < table.made := fun path number member =>
        (mem_update member).elim
          (fun member => fromSource number (List.mem_cons_of_mem _ member))
          (numbered.container_lt path number)
      refine ⟨numbered.host, numbered.host_lt, fun path number member => ?_⟩
      rcases mem_update member with member | member
      · rcases List.mem_cons.mp member with rfl | member
        · exact fromSource _ List.mem_cons_self
        · exact without target number member
      · exact without path number member

theorem Numbered.after (numbered : table.Numbered) (changes : List MountChange) :
    (table.after gateways changes).Numbered := by
  induction changes generalizing table with
  | nil => exact numbered
  | cons change changes ih =>
      cases change with
      | mount target => exact ih numbered.mount
      | unmount target => exact ih numbered.unmount
      | move source target => exact ih numbered.move

theorem numbered_ofHistory (history : History Sys) : (ofHistory gateways history).Numbered :=
  Numbered.after ⟨fun _ => List.Pairwise.nil, fun _ _ member => absurd member List.not_mem_nil,
    fun _ _ member => absurd member List.not_mem_nil⟩ _

end MountTable

/-! Paths below the gateways directory. -/

theorem place_buildPath (first second : String) :
    place (buildPath first second) = place first ++ place second := by
  rw [buildPath]
  split
  · rename_i empty
    subst empty
    rfl
  · split
    · rename_i empty
      subst empty
      exact (List.append_nil _).symm
    · rw [place, names_slash, names_trailingSlashes, names_leadingSlashes, List.filter_append,
        String.ofList_toList, String.ofList_toList]
      rfl

/-- What the container shows at one path is at one path of the host. -/
theorem shownAt_injective {gateways first second shown : Place}
    (firstShown : shownAt gateways first = some shown)
    (secondShown : shownAt gateways second = some shown) : first = second := by
  rw [shownAt] at firstShown secondShown
  split at firstShown
  · rename_i firstBelow
    split at secondShown
    · rename_i secondBelow
      obtain ⟨firstRest, rfl⟩ := firstBelow
      obtain ⟨secondRest, rfl⟩ := secondBelow
      rw [List.drop_left] at firstShown secondShown
      have same := firstShown.trans secondShown.symm
      rw [(List.cons.inj (Option.some.inj same)).2]
    · cases secondShown
  · cases firstShown

theorem shownAt_append (gateways path : Place) :
    shownAt gateways (gateways ++ path) = some ("gateways" :: path) := by
  rw [shownAt, if_pos (List.prefix_append _ _), List.drop_left]

end SoftwareContainers
