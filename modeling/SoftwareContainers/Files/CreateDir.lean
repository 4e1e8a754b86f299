import SoftwareContainers.Base.Path
import SoftwareContainers.Files.RecursiveDelete

namespace SoftwareContainers

open Effect Effect.Act FileSystem FileSystem.FileTree

/-! `class CreateDir`: directories that are made with their parents, and removed again by
the destructor. -/

/-- The tree, and the paths of `m_rollbackCleaners`. -/
structure CreateDir (δ : Type) where
  tree : FileTree δ
  rollbackCleaners : List String

namespace CreateDir

variable {δ : Type}

abbrev Method (δ α : Type) := Act Disk Fault (CreateDir δ) α

def treeLens : Lens (CreateDir δ) (FileTree δ) where
  get := tree
  set tree self := { self with tree }
  get_set _ _ := rfl
  set_set _ _ _ := rfl

def onTree {α : Type} (act : Act Disk Fault (FileTree δ) α) : Method δ α := zoom treeLens act

def isDirectory (workingDirectory : Place) (path : String) : Method δ Bool :=
  onTree (Disk.isDirectory (locate workingDirectory path))

def mkdir (workingDirectory : Place) (path : String) : Method δ Bool :=
  match locate workingDirectory path with
  | none => return false
  | some location => onTree (Disk.mkdir location)

def pathInList (path : String) : Method δ Bool := do
  return (← get).rollbackCleaners.contains path

def createParentDirectory (createDirectory : String → Method δ Bool) (path : String) :
    Method δ Bool := do
  let parent := parentPath path
  if !(← createDirectory parent) then
    return false
  else
    return true

/-- The recursion of `createDirectory` and `createParentDirectory`, which has no end where
the depth runs out. -/
def createDirectoryWithin (workingDirectory : Place) : Nat → String → Method δ Bool
  | 0, _ => throw .undefined
  | depth + 1, path => do
      if ← isDirectory workingDirectory path then
        return true
      else if !(← createParentDirectory (createDirectoryWithin workingDirectory depth) path) then
        return false
      else if !(← mkdir workingDirectory path) then
        return false
      else if ← pathInList path then
        return true
      else
        modify fun self => { self with rollbackCleaners := self.rollbackCleaners ++ [path] }
        return true

def createDirectory (workingDirectory : Place) (path : String) : Method δ Bool :=
  createDirectoryWithin workingDirectory (path.length + 2) path

def cleanEach (workingDirectory : Place) : List String → Act Disk Fault (FileTree δ) Bool
  | [] => return true
  | path :: rest => do
      let cleaned ← DirectoryCleanUpHandler.clean workingDirectory path
      let others ← cleanEach workingDirectory rest
      return cleaned && others

def destructor (workingDirectory : Place) : Method δ PUnit := do
  let self ← get
  let _ ← onTree (cleanEach workingDirectory self.rollbackCleaners.reverse)
  modify fun self => { self with rollbackCleaners := [] }

/-- The directories whose paths are recorded were made in one tree after the other. -/
inductive Recorded (workingDirectory : Place) (before : FileTree δ) :
    List String → FileTree δ → Prop
  | nothing : Recorded workingDirectory before [] before
  | made {paths : List String} {tree after : FileTree δ} {path : String} {location : Location}
      (recorded : Recorded workingDirectory before paths tree)
      (located : locate workingDirectory path = some location)
      (made : tree.mkdir location = some after) :
      Recorded workingDirectory before (paths ++ [path]) after

section

variable {workingDirectory : Place} {before tree after : FileTree δ} {paths : List String}
  {path : String} {location : Location}

def LeadsToDirectory (tree : FileTree δ) (workingDirectory : Place) (path : String) : Prop :=
  ∃ location place, locate workingDirectory path = some location ∧
    tree.resolve location = .ok place ∧ tree.IsDirectory place

theorem LeadsToDirectory.within {small large : FileTree δ}
    (leads : LeadsToDirectory small workingDirectory path) (within : small.Within large) :
    LeadsToDirectory large workingDirectory path := by
  obtain ⟨location, place, located, resolved, isDirectory⟩ := leads
  exact ⟨location, place, located, resolve_within within resolved, within _ _ isDirectory⟩

theorem mkdir_within (made : tree.mkdir location = some after) : tree.Within after := by
  obtain ⟨directory, name, _, _, _, _, absent, rfl⟩ := mkdir_eq_some made
  exact within_put absent

theorem leadsToDirectory_of_mkdir (located : locate workingDirectory path = some location)
    (made : tree.mkdir location = some after) :
    LeadsToDirectory after workingDirectory path := by
  obtain ⟨place, made⟩ := made_of_mkdir made
  exact ⟨location, place, located, resolve_of_leads made.leads made.isDirectory,
    made.isDirectory⟩

theorem not_leadsToDirectory_of_mkdir (located : locate workingDirectory path = some location)
    (made : tree.mkdir location = some after) :
    ¬ LeadsToDirectory tree workingDirectory path := by
  rintro ⟨other, place, sameLocated, resolved, isDirectory⟩
  obtain rfl : location = other := Option.some.inj (located.symm.trans sameLocated)
  obtain ⟨directory, name, isName, isParent, _, spot, absent, _⟩ := mkdir_eq_some made
  obtain ⟨front, same, _, leads, _⟩ := spot_eq_some spot
  have resolved := follow_of_leads (leads_of_resolve resolved)
  rw [same, leads.follow_missing isParent isName absent] at resolved
  cases resolved

namespace Recorded

theorem within (recorded : Recorded workingDirectory before paths tree) : before.Within tree := by
  induction recorded with
  | nothing => exact .refl before
  | made _ _ made ih => exact ih.trans (mkdir_within made)

theorem leadsToDirectory (recorded : Recorded workingDirectory before paths tree) :
    ∀ path ∈ paths, LeadsToDirectory tree workingDirectory path := by
  induction recorded with
  | nothing => exact fun _ member => nomatch member
  | made _ located made ih =>
      intro path member
      rcases List.mem_append.mp member with member | member
      · exact (ih path member).within (mkdir_within made)
      · obtain rfl := List.mem_singleton.mp member
        exact leadsToDirectory_of_mkdir located made

end Recorded

/-! One call: it ends, and records what it made. -/

variable {oracle : Oracle Disk} {world between : World Disk (CreateDir δ)}

theorem run_onTree {α : Type} {act : Act Disk Fault (FileTree δ) α} {result : Except Fault α}
    (ended : World Disk (FileTree δ))
    (run : act.run oracle ⟨world.state.tree, world.history⟩ = (result, ended)) :
    (onTree act).run oracle world =
      (result, ⟨{ world.state with tree := ended.state }, ended.history⟩) := by
  rw [onTree, run_zoom]
  change ((act.run oracle ⟨world.state.tree, world.history⟩).1, _) = _
  simp only [treeLens, run]

theorem run_isDirectory (leads : LeadsToDirectory world.state.tree workingDirectory path) :
    (isDirectory workingDirectory path).run oracle world = (.ok true, world) := by
  obtain ⟨location, place, located, resolved, found⟩ := leads
  refine run_onTree ⟨world.state.tree, world.history⟩ ?_
  rw [Disk.isDirectory, run_get_bind, located, Option.map_some, resolved]
  dsimp only
  rw [decide_eq_true found, run_pure]

theorem run_isDirectory_of_not
    (none : ¬ LeadsToDirectory world.state.tree workingDirectory path) :
    (isDirectory workingDirectory path).run oracle world = (.ok false, world) := by
  refine run_onTree ⟨world.state.tree, world.history⟩ ?_
  rw [Disk.isDirectory, run_get_bind]
  cases located : locate workingDirectory path with
  | none => rfl
  | some location =>
      cases resolved : world.state.tree.resolve location with
      | error error =>
          rw [Option.map_some, resolved]
          rfl
      | ok place =>
          have missing : ¬ world.state.tree.IsDirectory place := fun found =>
            none ⟨location, place, located, resolved, found⟩
          rw [Option.map_some, resolved]
          dsimp only
          rw [decide_eq_false missing, run_pure]

theorem run_mkdir (workingDirectory : Place) (path : String) (oracle : Oracle Disk)
    (world : World Disk (CreateDir δ)) :
    (∃ history, (mkdir workingDirectory path).run oracle world =
      (.ok false, ⟨world.state, history⟩)) ∨
    ∃ location after history, locate workingDirectory path = some location ∧
      world.state.tree.mkdir location = some after ∧
      (mkdir workingDirectory path).run oracle world =
        (.ok true, ⟨{ world.state with tree := after }, history⟩) := by
  cases located : locate workingDirectory path with
  | none =>
      refine .inl ⟨world.history, ?_⟩
      rw [mkdir, located]
      rfl
  | some location =>
      obtain ⟨asked, isAsked⟩ : ∃ asked, asked =
          world.history ++ [⟨.mkdir location, oracle world.history (.mkdir location)⟩] := ⟨_, rfl⟩
      rw [mkdir, located]
      cases goes : oracle world.history (.mkdir location) with
      | false =>
          refine .inl ⟨asked, run_onTree ⟨world.state.tree, asked⟩ ?_⟩
          rw [Disk.mkdir, run_ask_bind, isAsked, goes]
          rfl
      | true =>
          cases made : world.state.tree.mkdir location with
          | none =>
              refine .inl ⟨asked, run_onTree ⟨world.state.tree, asked⟩ ?_⟩
              rw [Disk.mkdir, run_ask_bind, isAsked, goes, if_pos rfl, Disk.change, run_get_bind,
                made]
              rfl
          | some after =>
              refine .inr ⟨location, after, asked, rfl, made, run_onTree ⟨after, asked⟩ ?_⟩
              rw [Disk.mkdir, run_ask_bind, isAsked, goes, if_pos rfl, Disk.change, run_get_bind,
                made]
              rfl

/-- With so much depth or more the call ends, and it ends in the same way. -/
def Ends (workingDirectory : Place) (oracle : Oracle Disk) (path : String)
    (world : World Disk (CreateDir δ)) (least : Nat) (created : Bool)
    (after : World Disk (CreateDir δ)) : Prop :=
  ∀ depth, least ≤ depth →
    (createDirectoryWithin workingDirectory depth path).run oracle world = (.ok created, after)

theorem ends_of_leads (leads : LeadsToDirectory world.state.tree workingDirectory path) :
    Ends workingDirectory oracle path world 1 true world := by
  intro depth enough
  obtain ⟨fewer, rfl⟩ := Nat.exists_eq_add_of_le' enough
  rw [createDirectoryWithin, run_bind_ok (run_isDirectory leads), if_pos rfl, run_pure]

/-- What a call promises of the world it leaves. -/
structure Creates (workingDirectory : Place) (before : FileTree δ) (path : String) (created : Bool)
    (after : World Disk (CreateDir δ)) : Prop where
  recorded : Recorded workingDirectory before after.state.rollbackCleaners after.state.tree
  leads : created = true → LeadsToDirectory after.state.tree workingDirectory path

theorem ends_of_parent {least : Nat} {madeParent : Bool}
    (missing : ¬ LeadsToDirectory world.state.tree workingDirectory path)
    (parent : Ends workingDirectory oracle (parentPath path) world least madeParent between)
    (recorded : Recorded workingDirectory before between.state.rollbackCleaners
      between.state.tree) :
    ∃ created after, Ends workingDirectory oracle path world (least + 1) created after ∧
      Creates workingDirectory before path created after := by
  have run (depth : Nat) (enough : least ≤ depth) :
      (createParentDirectory (createDirectoryWithin workingDirectory depth) path).run oracle
        world = (.ok madeParent, between) := by
    rw [createParentDirectory, run_bind_ok (parent depth enough)]
    cases madeParent <;> rfl
  cases madeParent with
  | false =>
      refine ⟨false, between, fun depth enough => ?_, recorded, nofun⟩
      obtain ⟨fewer, rfl⟩ := Nat.exists_eq_add_of_le' enough
      rw [← Nat.add_assoc, createDirectoryWithin, run_bind_ok (run_isDirectory_of_not missing),
        if_neg Bool.false_ne_true, run_bind_ok (run _ (Nat.le_add_left _ _))]
      rfl
  | true =>
      rcases run_mkdir workingDirectory path oracle between with
        ⟨history, failed⟩ | ⟨location, after, history, located, made, ended⟩
      · refine ⟨false, ⟨between.state, history⟩, fun depth enough => ?_, recorded, nofun⟩
        obtain ⟨fewer, rfl⟩ := Nat.exists_eq_add_of_le' enough
        rw [← Nat.add_assoc, createDirectoryWithin, run_bind_ok (run_isDirectory_of_not missing),
          if_neg Bool.false_ne_true, run_bind_ok (run _ (Nat.le_add_left _ _)),
          if_neg (by decide), run_bind_ok failed]
        rfl
      · have unlisted : path ∉ between.state.rollbackCleaners := fun member =>
          not_leadsToDirectory_of_mkdir located made (recorded.leadsToDirectory path member)
        refine ⟨true, ⟨⟨after, between.state.rollbackCleaners ++ [path]⟩, history⟩,
          fun depth enough => ?_, .made recorded located made,
          fun _ => leadsToDirectory_of_mkdir located made⟩
        obtain ⟨fewer, rfl⟩ := Nat.exists_eq_add_of_le' enough
        rw [← Nat.add_assoc, createDirectoryWithin, run_bind_ok (run_isDirectory_of_not missing),
          if_neg Bool.false_ne_true, run_bind_ok (run _ (Nat.le_add_left _ _)),
          if_neg (by decide), run_bind_ok ended, if_neg (by decide), pathInList]
        simp only [run_bind, run_get, run_pure]
        rw [if_neg (by simpa using unlisted)]
        rfl

theorem leadsToDirectory_root (tree : FileTree δ) (workingDirectory : Place) :
    LeadsToDirectory tree workingDirectory "/" := by
  refine ⟨⟨[], [], true⟩, [], rfl, ?_, tree.root⟩
  exact resolve_of_leads (.here _ _) tree.root

theorem leadsToDirectory_dot (isDirectory : tree.IsDirectory workingDirectory) :
    LeadsToDirectory tree workingDirectory "." := by
  refine ⟨⟨workingDirectory, ["."], false⟩, workingDirectory, rfl, ?_, isDirectory⟩
  exact resolve_of_leads (.dot isDirectory (.here _ _)) isDirectory

theorem ends_createDirectory (isDirectory : before.IsDirectory workingDirectory)
    (recorded : Recorded workingDirectory before world.state.rollbackCleaners
      world.state.tree) (path : String) :
    ∃ created after,
      Ends workingDirectory oracle path world (path.length + 2) created after ∧
        Creates workingDirectory before path created after := by
  generalize size : path.length = length
  induction length using Nat.strongRecOn generalizing path world with
  | ind length ih =>
      by_cases leads : LeadsToDirectory world.state.tree workingDirectory path
      · exact ⟨true, world, fun depth enough => ends_of_leads leads depth (by omega), recorded,
          fun _ => leads⟩
      · have weaken {least : Nat} {created : Bool} {after : World Disk (CreateDir δ)}
            (ends : Ends workingDirectory oracle path world least created after)
            (le : least ≤ length + 2) :
            Ends workingDirectory oracle path world (length + 2) created after :=
          fun depth enough => ends depth (Nat.le_trans le enough)
        have atOnce (parent : LeadsToDirectory world.state.tree workingDirectory
            (parentPath path)) :
            ∃ created after,
              Ends workingDirectory oracle path world (length + 2) created after ∧
                Creates workingDirectory before path created after := by
          obtain ⟨created, after, ends, creates⟩ :=
            ends_of_parent leads (ends_of_leads parent) recorded
          exact ⟨created, after, weaken ends (by omega), creates⟩
        rcases parentPath_shorter path with root | dot | shorter
        · exact atOnce (root ▸ leadsToDirectory_root _ _)
        · exact atOnce (dot ▸ leadsToDirectory_dot (recorded.within _ _ isDirectory))
        · obtain ⟨madeParent, between, ends, creates⟩ :=
            ih _ (size ▸ shorter) recorded (parentPath path) rfl
          obtain ⟨created, after, ends, creates⟩ :=
            ends_of_parent leads ends creates.recorded
          exact ⟨created, after, weaken ends (by omega), creates⟩

/-! The destructor takes back one directory after the other. -/

theorem run_clean (answers : Answers RecursiveDelete.Removes oracle)
    (located : locate workingDirectory path = some location)
    (made : tree.mkdir location = some after) (history : History Disk) :
    ∃ history', (DirectoryCleanUpHandler.clean workingDirectory path).run oracle
      ⟨after, history⟩ = (.ok true, ⟨tree, history'⟩) := by
  obtain ⟨place, made⟩ := made_of_mkdir made
  obtain ⟨history', deleted⟩ := RecursiveDelete.run_nftw_of_empty answers history made.leads
    made.isDirectory made.empty made.undone
  have present : (Disk.present (some location)).run oracle ⟨after, history⟩ =
      ((.ok true, ⟨after, history⟩) : Except Fault Bool × World Disk (FileTree δ)) := by
    rw [Disk.present, run_get_bind, Option.map_some,
      resolve_of_leads made.leads made.isDirectory]
    rfl
  refine ⟨history', ?_⟩
  rw [DirectoryCleanUpHandler.clean, located, run_bind_ok present, if_neg (by decide),
    RecursiveDelete.del, located]
  exact deleted

theorem Recorded.run_cleanEach (recorded : Recorded workingDirectory before paths tree)
    (answers : Answers RecursiveDelete.Removes oracle) (history : History Disk) :
    ∃ history', (cleanEach workingDirectory paths.reverse).run oracle ⟨tree, history⟩ =
      (.ok true, ⟨before, history'⟩) := by
  induction recorded generalizing history with
  | nothing => exact ⟨history, rfl⟩
  | made _ located made ih =>
      obtain ⟨between, cleaned⟩ := run_clean answers located made history
      obtain ⟨history', others⟩ := ih between
      refine ⟨history', ?_⟩
      rw [List.reverse_concat, cleanEach, run_bind_ok cleaned, run_bind_ok others]
      rfl

theorem recorded_runAll (isDirectory : before.IsDirectory workingDirectory)
    (oracle : Oracle Disk) (paths : List String) {world : World Disk (CreateDir δ)}
    (recorded : Recorded workingDirectory before world.state.rollbackCleaners
      world.state.tree) :
    let after := (runAll (createDirectory workingDirectory) oracle paths world).2
    Recorded workingDirectory before after.state.rollbackCleaners after.state.tree := by
  induction paths generalizing world with
  | nil => exact recorded
  | cons path rest ih =>
      obtain ⟨created, after, ends, creates⟩ := ends_createDirectory isDirectory recorded path
      have ended : (createDirectory workingDirectory path).run oracle world =
          (.ok created, after) := ends _ (Nat.le_refl _)
      rw [runAll, ended]
      exact ih creates.recorded

end

/-- Every call ends, whatever depth it is given from some depth on; where it returns true
there is a directory; and the destructor leaves the tree as it was before the first call. -/
structure UndoneBy (workingDirectory : Place) (oracle : Oracle Disk) (before : FileTree δ)
    (world : World Disk (CreateDir δ)) : Prop where
  ends : ∀ path, ∃ created after,
    (createDirectory workingDirectory path).run oracle world = (.ok created, after) ∧
      (∀ depth, path.length + 2 ≤ depth →
        (createDirectoryWithin workingDirectory depth path).run oracle world =
          (.ok created, after)) ∧
      (created = true → LeadsToDirectory after.state.tree workingDirectory path)
  undone : ((destructor workingDirectory).run oracle world).2.state.tree = before

theorem createDirectory_undoneBy {workingDirectory : Place} {before : FileTree δ}
    (isDirectory : before.IsDirectory workingDirectory) {oracle : Oracle Disk}
    (answers : Answers RecursiveDelete.Removes oracle) (paths : List String)
    (history : History Disk) :
    UndoneBy workingDirectory oracle before
      (runAll (createDirectory workingDirectory) oracle paths ⟨⟨before, []⟩, history⟩).2 := by
  have unused : Recorded workingDirectory before
      (⟨⟨before, []⟩, history⟩ : World Disk (CreateDir δ)).state.rollbackCleaners
      (⟨⟨before, []⟩, history⟩ : World Disk (CreateDir δ)).state.tree := .nothing
  have recorded := recorded_runAll isDirectory oracle paths unused
  generalize (runAll (createDirectory workingDirectory) oracle paths
    ⟨⟨before, []⟩, history⟩).2 = world at recorded ⊢
  dsimp only at recorded
  refine ⟨fun path => ?_, ?_⟩
  · obtain ⟨created, after, ends, creates⟩ := ends_createDirectory isDirectory recorded path
    exact ⟨created, after, ends _ (Nat.le_refl _), ends, creates.leads⟩
  · obtain ⟨history', cleaned⟩ := recorded.run_cleanEach answers world.history
    rw [destructor, run_get_bind, run_bind_ok (run_onTree _ cleaned), run_modify]

def obliging : Oracle Disk
  | _, .readdir _ => .listed []
  | _, .mkdir _ | _, .remove _ => true
  | _, .copy _ _ => none

theorem answers_obliging : Answers RecursiveDelete.Removes obliging := by
  intro history call
  cases call with
  | readdir place => exact nofun
  | remove location => rfl
  | _ => trivial

theorem nested_undoneBy :
    UndoneBy [] obliging (bare : FileTree Unit)
      (runAll (createDirectory []) obliging ["/a/b", "x/../c"] ⟨⟨bare, []⟩, []⟩).2 :=
  createDirectory_undoneBy bare.root answers_obliging ["/a/b", "x/../c"] []

end CreateDir

end SoftwareContainers
