import SoftwareContainers.Effect.Hoare
import SoftwareContainers.FileSystem.Disk

namespace FileSystem

open Effect Effect.Act

/-! `nftw` without `FTW_PHYS`: symbolic links are followed, and no directory is visited
twice. -/

/-- What a visitor is told: `FTW_D` and `FTW_DP`, `FTW_DNR`, `FTW_F`, or `FTW_SLN` and
`FTW_NS`. -/
inductive TypeFlag where
  | directory
  | unreadable
  | file
  | missing
  deriving DecidableEq, Repr

section

variable {δ ε : Type}

abbrev Visitor (ε δ : Type) := Location → TypeFlag → Act Disk ε (FileTree δ) PUnit

/-- A directory is reported before what is below it, or after. -/
def report (now : Bool) (visitor : Visitor ε δ) (location : Location) :
    Act Disk ε (FileTree δ) PUnit :=
  if now then visitor location .directory else return ⟨⟩

/-- Visit every name of a directory; `none` ends the walk. -/
def visitEach (visit : List Place → Location → Act Disk ε (FileTree δ) (Option (List Place)))
    (location : Location) : List String → List Place →
      Act Disk ε (FileTree δ) (Option (List Place))
  | [], seen => return some seen
  | name :: rest, seen => do
      if name = "." ∨ name = ".." then
        visitEach visit location rest seen
      else
        match ← visit seen (location.child name) with
        | none => return none
        | some seen => visitEach visit location rest seen

/-- Visit what a path leads to, and what is below it.  `seen` are the directories that
were visited before, and the first argument bounds how many are open at once. -/
def visit (depthFirst : Bool) (visitor : Visitor ε δ) : Nat → List Place → Location →
    Act Disk ε (FileTree δ) (Option (List Place))
  | 0, _, _ => return none
  | nesting + 1, seen, location => do
      let tree ← get
      match tree.resolve location with
      | .error .noEntry =>
          visitor location .missing
          return some seen
      | .error _ => return none
      | .ok place =>
          if tree.IsDirectory place then
            if place ∈ seen then
              return some seen
            else
              match ← Disk.call (.readdir place) with
              | .failed => return none
              | .denied =>
                  visitor location .unreadable
                  return some (place :: seen)
              | .listed listed =>
                  report (!depthFirst) visitor location
                  let below ← visitEach (visit depthFirst visitor nesting) location listed
                    (place :: seen)
                  match below with
                  | none => return none
                  | some seen =>
                      report depthFirst visitor location
                      return some seen
          else
            visitor location .file
            return some seen

/-- A directory is open only once, so that there are at most as many as entries. -/
def nftw (depthFirst : Bool) (visitor : Visitor ε δ) (location : Location) :
    Act Disk ε (FileTree δ) Bool := do
  let tree ← get
  match tree.resolve location.withoutSlash with
  | .error .noEntry =>
      match tree.lstat location.withoutSlash with
      | some (.link _) =>
          visitor location.withoutSlash .missing
          return true
      | _ => return false
  | .error _ => return false
  | .ok _ =>
      let seen ← visit depthFirst visitor (tree.entries.size + 1) [] location.withoutSlash
      return seen.isSome

variable {depthFirst : Bool} {visitor : Visitor ε δ} {good : Location → Prop}
  {fair : Event Disk → Prop} {inv : World Disk (FileTree δ) → Prop} {location : Location}

/-- The paths the walk may come to, in any tree it makes of the one it starts with. -/
def Closed (inv : World Disk (FileTree δ) → Prop) (good : Location → Prop) : Prop :=
  ∀ world location place name, inv world → good location →
    world.state.resolve location = .ok place → world.state.IsDirectory place →
      IsName name → good (location.child name)

/-- What is read makes no difference. -/
def Unread (inv : World Disk (FileTree δ) → Prop) : Prop :=
  ∀ world place listed, inv world →
    inv { world with history := world.history ++ [⟨.readdir place, listed⟩] }

theorem maintains_call {call : DiskCall} (unseen : ∀ world answer, inv world →
      inv { world with history := world.history ++ [⟨call, answer⟩] }) :
    Maintains fair inv (Disk.call call : Act Disk ε (FileTree δ) call.Answer) :=
  meets_ask fun world answer holds _ => unseen world answer holds

theorem maintains_visitEach
    {visit : List Place → Location → Act Disk ε (FileTree δ) (Option (List Place))}
    (each : ∀ name seen, IsName name → Maintains fair inv (visit seen (location.child name)))
    (listed : List String) (seen : List Place) :
    Maintains fair inv (visitEach visit location listed seen) := by
  induction listed generalizing seen with
  | nil => exact meets_pure fun _ holds => holds
  | cons name rest ih =>
      refine meets_ite (fun _ => ih seen) fun isName => ?_
      refine maintains_bind (each name seen (not_or.mp isName)) fun seen => ?_
      cases seen with
      | none => exact meets_pure fun _ holds => holds
      | some seen => exact ih seen

theorem maintains_report {now : Bool} (visited : Maintains fair inv (visitor location .directory)) :
    Maintains fair inv (report now visitor location) :=
  meets_ite (fun _ => visited) fun _ => meets_pure fun _ holds => holds

/-- What a visitor maintains wherever the walk may come to, the walk maintains. -/
theorem maintains_visit (unread : Unread inv) (closed : Closed inv good)
    (visited : ∀ location flag, good location → Maintains fair inv (visitor location flag))
    (nesting : Nat) (seen : List Place) (isGood : good location) :
    Maintains fair inv (visit depthFirst visitor nesting seen location) := by
  induction nesting generalizing seen location with
  | zero => exact meets_pure fun _ holds => holds
  | succ nesting ih =>
      intro oracle answers world holds
      rw [visit, run_get_bind]
      cases resolved : world.state.resolve location with
      | error error =>
          cases error with
          | noEntry =>
              exact maintains_bind (visited location .missing isGood)
                (fun _ => meets_pure fun _ holds => holds) oracle answers world holds
          | notDirectory => exact holds
          | tooManyLinks => exact holds
      | ok place =>
          dsimp only
          by_cases isDirectory : world.state.IsDirectory place
          · rw [if_pos isDirectory]
            suffices rest : Maintains fair inv _ from rest oracle answers world holds
            refine meets_ite (fun _ => meets_pure fun _ holds => holds) fun _ => ?_
            refine maintains_bind (maintains_call fun world listed holds =>
              unread world place listed holds) fun listed => ?_
            have each (name : String) (seen : List Place) (isName : IsName name) :
                Maintains fair inv (visit depthFirst visitor nesting seen (location.child name)) :=
              ih seen (closed _ _ _ name holds isGood resolved isDirectory isName)
            cases listed with
            | failed => exact meets_pure fun _ holds => holds
            | denied =>
                exact maintains_bind (visited location _ isGood)
                  fun _ => meets_pure fun _ holds => holds
            | listed listed =>
                refine maintains_bind (maintains_report (visited location _ isGood)) fun _ => ?_
                refine maintains_bind (maintains_visitEach each listed (place :: seen))
                  fun below => ?_
                cases below with
                | none => exact meets_pure fun _ holds => holds
                | some seen =>
                    exact maintains_bind (maintains_report (visited location _ isGood))
                      fun _ => meets_pure fun _ holds => holds
          · rw [if_neg isDirectory]
            exact maintains_bind (visited location .file isGood)
              (fun _ => meets_pure fun _ holds => holds) oracle answers world holds

theorem maintains_nftw (unread : Unread inv) (closed : Closed inv good)
    (visited : ∀ location flag, good location → Maintains fair inv (visitor location flag))
    (isGood : good location.withoutSlash) :
    Maintains fair inv (nftw depthFirst visitor location) := by
  refine meets_get_bind fun tree => ?_
  suffices rest : Maintains fair inv _ from rest.strengthen fun _ holds => holds.1
  cases tree.resolve location.withoutSlash with
  | ok place =>
      exact maintains_bind (maintains_visit unread closed visited _ _ isGood)
        fun _ => meets_pure fun _ holds => holds
  | error error =>
      cases error with
      | noEntry =>
          dsimp only
          split
          · exact maintains_bind (visited _ _ isGood) fun _ => meets_pure fun _ holds => holds
          · exact meets_pure fun _ holds => holds
      | notDirectory => exact meets_pure fun _ holds => holds
      | tooManyLinks => exact meets_pure fun _ holds => holds

end

end FileSystem
