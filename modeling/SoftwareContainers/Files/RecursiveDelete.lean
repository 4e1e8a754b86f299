import SoftwareContainers.Base.Fault
import SoftwareContainers.FileSystem.Walk

namespace SoftwareContainers

open Effect Effect.Act FileSystem FileSystem.FileTree

/-! `class RecursiveDelete`, and `DirectoryCleanUpHandler`, which uses it. -/

variable {δ : Type}

/-- What `remove` returns is not looked at. -/
def deleteFile : Visitor Fault δ := fun location _ => do
  let _ ← Disk.remove location
  return ⟨⟩

/-- `RecursiveDelete::del`; relative paths begin at the working directory. -/
def RecursiveDelete.del (workingDirectory : Place) (dir : String) :
    Act Disk Fault (FileTree δ) Bool :=
  match locate workingDirectory dir with
  | none => return false
  | some location => nftw true deleteFile location

def DirectoryCleanUpHandler.clean (workingDirectory : Place) (path : String) :
    Act Disk Fault (FileTree δ) Bool := do
  if !(← Disk.present (locate workingDirectory path)) then
    return true
  else
    RecursiveDelete.del workingDirectory path

namespace RecursiveDelete

variable {tree : FileTree δ} {location : Location}

/-! An empty directory is removed, whatever is listed in it. -/

/-- What is there can be removed, and reading a directory does not fail. -/
def Removes : Event Disk → Prop
  | ⟨.remove _, goes⟩ => goes = true
  | ⟨.readdir _, listing⟩ => listing ≠ .failed
  | _ => True

theorem run_deleteFile_of_missing (oracle : Oracle Disk) {other : Location} (flag : TypeFlag)
    (history : History Disk) (missing : tree.remove other = none) :
    ∃ history', (deleteFile other flag).run oracle ⟨tree, history⟩ =
      (.ok ⟨⟩, ⟨tree, history'⟩) := by
  rw [deleteFile, Disk.remove, run_bind, run_ask_bind]
  cases oracle history (.remove other) with
  | false => exact ⟨_, rfl⟩
  | true =>
      rw [if_pos rfl, Disk.change, run_get_bind, missing]
      exact ⟨_, rfl⟩

theorem run_deleteFile {oracle : Oracle Disk} (answers : Answers Removes oracle)
    (other : Location) {after : FileTree δ} (flag : TypeFlag) (history : History Disk)
    (removed : tree.remove other = some after) :
    ∃ history', (deleteFile other flag).run oracle ⟨tree, history⟩ =
      (.ok ⟨⟩, ⟨after, history'⟩) := by
  have goes : oracle history (.remove other) = true := answers history (.remove other)
  rw [deleteFile, Disk.remove, run_bind, run_ask_bind, goes, if_pos rfl, Disk.change,
    run_get_bind, removed]
  exact ⟨_, rfl⟩

theorem remove_child_of_empty {place : Place} (resolved : tree.resolve location = .ok place)
    (empty : tree.isEmpty place = true) (name : String) :
    tree.remove (location.child name) = none := by
  cases removed : tree.remove (location.child name) with
  | none => rfl
  | some after =>
      obtain ⟨directory, last, _, spot, found, _⟩ := remove_eq_some removed
      obtain ⟨rfl, rfl⟩ := spot_child resolved spot
      exact absurd (isEmpty_iff.mp empty last) found

theorem run_visitEach_of_empty (oracle : Oracle Disk) {place : Place}
    (resolved : tree.resolve location = .ok place) (isDirectory : tree.IsDirectory place)
    (empty : tree.isEmpty place = true) (nesting : Nat) (listed : List String)
    (seen : List Place) (history : History Disk) :
    ∃ history', (visitEach (visit true deleteFile (nesting + 1)) location listed seen).run
      oracle ⟨tree, history⟩ = (.ok (some seen), ⟨tree, history'⟩) := by
  induction listed generalizing history with
  | nil => exact ⟨history, rfl⟩
  | cons name rest ih =>
      by_cases special : name = "." ∨ name = ".."
      · rw [visitEach, if_pos special]
        exact ih history
      · have missing : tree.resolve (location.child name) = .error .noEntry :=
          resolve_child_of_missing (leads_of_resolve resolved) isDirectory (not_or.mp special)
            (isEmpty_iff.mp empty name)
        obtain ⟨between, deleted⟩ := run_deleteFile_of_missing oracle .missing history
          (remove_child_of_empty resolved empty name)
        have visited : (visit true deleteFile (nesting + 1) seen (location.child name)).run
            oracle ⟨tree, history⟩ = (.ok (some seen), ⟨tree, between⟩) := by
          rw [visit, run_get_bind, missing]
          dsimp only
          rw [run_bind_ok deleted, run_pure]
        obtain ⟨history', others⟩ := ih between
        refine ⟨history', ?_⟩
        rw [visitEach, if_neg special, run_bind_ok visited]
        exact others

theorem run_nftw_of_empty {oracle : Oracle Disk} (answers : Answers Removes oracle)
    {place : Place} {after : FileTree δ} (history : History Disk)
    (leads : Leads tree MAXSYMLINKS location.place location.names place)
    (isDirectory : tree.IsDirectory place) (empty : tree.isEmpty place = true)
    (removed : tree.remove location = some after) :
    ∃ history', (nftw true deleteFile location).run oracle ⟨tree, history⟩ =
      (.ok true, ⟨after, history'⟩) := by
  have resolved : tree.resolve location.withoutSlash = .ok place :=
    resolve_of_leads leads isDirectory
  obtain ⟨nesting, size⟩ := Nat.exists_eq_succ_of_ne_zero tree.size_ne_zero
  suffices visited : ∃ history', (visit true deleteFile (tree.entries.size + 1) []
      location.withoutSlash).run oracle ⟨tree, history⟩ =
        (.ok (some [place]), ⟨after, history'⟩) by
    obtain ⟨history', visited⟩ := visited
    refine ⟨history', ?_⟩
    rw [nftw, run_get_bind, resolved]
    dsimp only
    rw [run_bind_ok visited]
    rfl
  have deleted (flag : TypeFlag) (between : History Disk) :=
    run_deleteFile answers location.withoutSlash flag between removed
  rw [size, visit]
  cases read : oracle history (.readdir place) with
  | failed => exact absurd read (answers history (.readdir place))
  | denied =>
      obtain ⟨history', deleted⟩ := deleted .unreadable (history ++ [⟨.readdir place, .denied⟩])
      refine ⟨history', ?_⟩
      rw [run_get_bind, resolved]
      dsimp only
      rw [if_pos isDirectory, if_neg List.not_mem_nil, run_ask_bind, read]
      dsimp only
      rw [run_bind_ok deleted, run_pure]
  | listed listed =>
      obtain ⟨between, below⟩ := run_visitEach_of_empty oracle resolved isDirectory empty
        nesting listed [place] (history ++ [⟨.readdir place, .listed listed⟩])
      obtain ⟨history', deleted⟩ := deleted .directory between
      refine ⟨history', ?_⟩
      rw [run_get_bind, resolved]
      dsimp only
      rw [if_pos isDirectory, if_neg List.not_mem_nil, run_ask_bind, read]
      dsimp only
      rw [run_bind, report, if_neg (by decide), run_pure]
      dsimp only
      rw [run_bind_ok below]
      dsimp only
      rw [report, if_pos rfl, run_bind_ok deleted, run_pure]

end RecursiveDelete

end SoftwareContainers
