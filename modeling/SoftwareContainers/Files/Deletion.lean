import SoftwareContainers.Files.RecursiveDelete
import SoftwareContainers.FileSystem.PlainWalk

namespace SoftwareContainers.RecursiveDelete

open Effect Effect.Act FileSystem FileSystem.FileTree

/-! When a deletion that returns true has deleted the directory. -/

variable {δ : Type}

def passed (tree : FileTree δ) : Event Disk → Option (FileTree δ)
  | ⟨.remove location, goes⟩ => if goes then tree.remove location else none
  | _ => some tree

def replay (tree : FileTree δ) (recorded : List (Event Disk)) : Option (FileTree δ) :=
  recorded.foldlM passed tree

theorem replay_concat {tree : FileTree δ} {recorded : List (Event Disk)} {event : Event Disk} :
    replay tree (recorded ++ [event]) = (replay tree recorded).bind (passed · event) := by
  rw [replay, List.foldlM_append]
  simp only [List.foldlM_cons, List.foldlM_nil, bind_pure]
  rfl

def Missing (location : Option Location) (tree : FileTree δ) : Prop :=
  ∀ present place, location = some present → tree.resolve present ≠ .ok place

/-- A program that returns true has deleted what the path leads to. -/
def Deletes (act : Act Disk Fault (FileTree δ) Bool) (location : Option Location)
    (oracle : Oracle Disk) (world : World Disk (FileTree δ)) : Prop :=
  (act.run oracle world).1 = .ok true → Missing location (act.run oracle world).2.state

/-- None of the removals of a program failed. -/
def AllRemoved (act : Act Disk Fault (FileTree δ) Bool) (oracle : Oracle Disk)
    (world : World Disk (FileTree δ)) : Prop :=
  ∃ recorded, (act.run oracle world).2.history = world.history ++ recorded ∧
    replay world.state recorded = some (act.run oracle world).2.state

section
variable {tree after : FileTree δ} {location : Location} {oracle : Oracle Disk}

theorem run_deleteFile_eq (location : Location) (flag : TypeFlag)
    (world : World Disk (FileTree δ)) :
    (deleteFile location flag).run oracle world = (.ok ⟨⟩,
      ⟨(passed world.state ⟨.remove location, oracle world.history (.remove location)⟩).getD
          world.state,
        world.history ++ [⟨.remove location, oracle world.history (.remove location)⟩]⟩) := by
  rw [deleteFile, Disk.remove, run_bind, run_ask_bind, passed]
  cases oracle world.history (.remove location) with
  | false => rfl
  | true =>
      rw [if_pos rfl, if_pos rfl, Disk.change, run_get_bind]
      cases world.state.remove location <;> rfl

theorem gone_of_remove {tree after : FileTree δ}
    (removed : tree.remove location.withoutSlash = some after) :
    Missing (some location) after := by
  rintro present place isLocation resolved
  obtain rfl := Option.some.inj isLocation
  obtain ⟨directory, name, leaf, spot, _, rfl⟩ := remove_eq_some removed
  obtain ⟨front, same, isName, leads, _⟩ := spot_eq_some spot
  have through := leads_of_resolve resolved
  rw [show location.names = front ++ [name] from same] at through
  obtain ⟨middle, fewer, _, early, late⟩ := through.split
  obtain rfl : middle = directory := (early.within (erase_within leaf)).unique leads
  have none : (tree.erase middle name leaf).find (middle ++ [name]) = none := by
    rw [find_erase, if_pos rfl]
  cases late with
  | dot => exact isName.1 rfl
  | up => exact isName.2 rfl
  | entry _ _ found _ _ => cases found.symm.trans none
  | link _ _ found _ => cases found.symm.trans none

/-- What was recorded since the beginning leads to the tree as it is, unless a removal
failed. -/
def Consistent (tree : FileTree δ) (history : History Disk)
    (world : World Disk (FileTree δ)) : Prop :=
  ∃ recorded, world.history = history ++ recorded ∧
    ∀ final, replay tree recorded = some final → final = world.state

theorem unread_consistent (tree : FileTree δ) (history : History Disk) :
    Unread (Consistent tree history) := by
  rintro world place listed ⟨recorded, isRecorded, same⟩
  refine ⟨recorded ++ [⟨.readdir place, listed⟩], ?_, fun final replayed => ?_⟩
  · rw [isRecorded, List.append_assoc]
  · rw [replay_concat] at replayed
    obtain ⟨middle, isMiddle, isFinal⟩ := Option.bind_eq_some_iff.mp replayed
    cases isFinal
    exact same _ isMiddle

theorem consistent_deleteFile {tree : FileTree δ} {history : History Disk}
    (location : Location) (flag : TypeFlag) :
    Maintains (fun _ => True) (Consistent tree history) (deleteFile location flag) := by
  rintro oracle _ world ⟨recorded, isRecorded, same⟩
  rw [run_deleteFile_eq]
  refine ⟨recorded ++ [⟨.remove location, oracle world.history (.remove location)⟩],
    (congrArg (· ++ _) isRecorded).trans (List.append_assoc ..), fun final replayed => ?_⟩
  rw [replay_concat] at replayed
  obtain ⟨middle, isMiddle, isFinal⟩ := Option.bind_eq_some_iff.mp replayed
  rw [same middle isMiddle] at isFinal
  dsimp only
  rw [isFinal, Option.getD_some]

theorem closed_anywhere (inv : World Disk (FileTree δ) → Prop) : Closed inv fun _ => True :=
  fun _ _ _ _ _ _ _ _ _ => trivial

theorem consistent_visitEach {tree : FileTree δ} {history : History Disk} (nesting : Nat)
    (location : Location) (listed : List String) (seen : List Place) :
    Maintains (fun _ => True) (Consistent tree history)
      (visitEach (visit true deleteFile nesting) location listed seen) :=
  maintains_visitEach (fun _ seen _ => maintains_visit (unread_consistent tree history)
    (closed_anywhere _) (fun location flag _ => consistent_deleteFile location flag) nesting seen
    trivial) listed seen

theorem last_call_of_visit {tree : FileTree δ} {history : History Disk} {nesting : Nat}
    {seen : List Place} {world after : World Disk (FileTree δ)}
    (consistent : Consistent tree history world)
    (visited : (visit true deleteFile nesting [] location).run oracle world =
      (.ok (some seen), after)) :
    ∃ between flag, Consistent tree history between ∧
      (deleteFile location flag).run oracle between = (.ok ⟨⟩, after) := by
  cases nesting with
  | zero => cases visited
  | succ nesting =>
      rw [visit, run_get_bind] at visited
      cases resolved : world.state.resolve location with
      | error error =>
          rw [resolved] at visited
          cases error with
          | noEntry =>
              rw [run_bind_ok (run_deleteFile_eq location .missing world)] at visited
              cases visited
              exact ⟨world, .missing, consistent, run_deleteFile_eq _ _ _⟩
          | notDirectory => cases visited
          | tooManyLinks => cases visited
      | ok place =>
          rw [resolved] at visited
          dsimp only at visited
          by_cases isDirectory : world.state.IsDirectory place
          · rw [if_pos isDirectory, if_neg List.not_mem_nil, run_ask_bind] at visited
            have opened := unread_consistent tree history world place
              (oracle world.history (.readdir place)) consistent
            cases read : oracle world.history (.readdir place) with
            | failed =>
                rw [read] at visited
                cases visited
            | denied =>
                rw [read] at visited opened
                dsimp only at visited
                rw [run_bind_ok (run_deleteFile_eq _ _ _)] at visited
                cases visited
                exact ⟨_, .unreadable, opened, run_deleteFile_eq _ _ _⟩
            | listed listed =>
                rw [read] at visited opened
                dsimp only at visited
                rw [run_bind, report, if_neg (by decide), run_pure] at visited
                dsimp only at visited
                have kept := consistent_visitEach nesting location listed [place] oracle
                  (fun _ _ => trivial) _ opened
                rw [run_bind] at visited
                cases below : (visitEach (visit true deleteFile nesting) location listed
                    [place]).run oracle
                    ⟨world.state, world.history ++ [⟨.readdir place, .listed listed⟩]⟩ with
                | mk result between =>
                    rw [below] at visited kept
                    cases result with
                    | error error => cases visited
                    | ok all =>
                        cases all with
                        | none => cases visited
                        | some seen =>
                            dsimp only at visited
                            rw [report, if_pos rfl, run_bind_ok (run_deleteFile_eq _ _ _)]
                              at visited
                            cases visited
                            exact ⟨between, .directory, kept, run_deleteFile_eq _ _ _⟩
          · rw [if_neg isDirectory, run_bind_ok (run_deleteFile_eq location .file world)]
              at visited
            cases visited
            exact ⟨world, .file, consistent, run_deleteFile_eq _ _ _⟩

theorem last_call_of_nftw {world after : World Disk (FileTree δ)}
    (walked : (nftw true deleteFile location).run oracle world = (.ok true, after)) :
    ∃ between flag, Consistent world.state world.history between ∧
      (deleteFile location.withoutSlash flag).run oracle between = (.ok ⟨⟩, after) := by
  have start : Consistent world.state world.history world :=
    ⟨[], (List.append_nil _).symm, fun final replayed => (Option.some.inj replayed).symm⟩
  rw [nftw, run_get_bind] at walked
  cases resolved : world.state.resolve location.withoutSlash with
  | error error =>
      rw [resolved] at walked
      cases error with
      | noEntry =>
          dsimp only at walked
          split at walked
          · rw [run_bind_ok (run_deleteFile_eq _ _ _)] at walked
            cases walked
            exact ⟨world, .missing, start, run_deleteFile_eq _ _ _⟩
          · cases walked
      | notDirectory => cases walked
      | tooManyLinks => cases walked
  | ok place =>
      rw [resolved] at walked
      dsimp only at walked
      rw [run_bind] at walked
      cases visited : (visit true deleteFile (world.state.entries.size + 1) []
          location.withoutSlash).run oracle world with
      | mk result between =>
          rw [visited] at walked
          cases result with
          | error error => cases walked
          | ok all =>
              cases all with
              | none => cases walked
              | some seen =>
                  cases walked
                  exact last_call_of_visit start visited

theorem gone_of_last_call {history : History Disk} {between after : World Disk (FileTree δ)}
    {flag : TypeFlag} {recorded : List (Event Disk)}
    (consistent : Consistent tree history between)
    (called : (deleteFile location.withoutSlash flag).run oracle between = (.ok ⟨⟩, after))
    (isRecorded : after.history = history ++ recorded)
    (replayed : replay tree recorded = some after.state) : Missing (some location) after.state := by
  obtain ⟨early, isEarly, same⟩ := consistent
  rw [run_deleteFile_eq] at called
  obtain ⟨_, rfl⟩ := Prod.mk.inj called
  dsimp only at isRecorded replayed ⊢
  have isLast : recorded = early ++ [⟨.remove location.withoutSlash,
      oracle between.history (.remove location.withoutSlash)⟩] := by
    refine List.append_cancel_left (isRecorded.symm.trans ?_)
    rw [← List.append_assoc, ← isEarly]
  rw [isLast, replay_concat] at replayed
  obtain ⟨middle, isMiddle, went⟩ := Option.bind_eq_some_iff.mp replayed
  obtain rfl := same middle isMiddle
  generalize (passed between.state _).getD between.state = final at went ⊢
  rw [passed] at went
  split at went
  · exact gone_of_remove went
  · cases went

/-- Whatever the tree is, a deletion that returns true has deleted when no removal failed. -/
theorem del_deletes_of_allRemoved {workingDirectory : Place} {dir : String}
    {world : World Disk (FileTree δ)}
    (allRemoved : AllRemoved (del workingDirectory dir) oracle world) :
    Deletes (del workingDirectory dir) (locate workingDirectory dir) oracle world := by
  obtain ⟨recorded, isRecorded, replayed⟩ := allRemoved
  intro returned
  rw [del] at isRecorded replayed returned ⊢
  cases located : locate workingDirectory dir with
  | none =>
      intro present place isLocation
      cases isLocation
  | some location =>
      rw [located] at isRecorded replayed returned
      dsimp only at isRecorded replayed returned ⊢
      obtain ⟨between, flag, consistent, called⟩ :=
        last_call_of_nftw (Prod.ext returned rfl)
      exact gone_of_last_call consistent called isRecorded replayed

end

/-! Without links, a removal that fails keeps all that the entry is in. -/

/-- Only what is in the region may have been removed, and no removal failed exactly when all
that had to go is gone. -/
structure Removal (region : Place → Prop) (gone : FileTree δ → Prop)
    (before after : World Disk (FileTree δ)) : Prop where
  within : after.state.Within before.state
  outside : ∀ place, ¬ region place → after.state.find place = before.state.find place
  recorded : ∃ recorded, after.history = before.history ++ recorded ∧
    ((gone after.state ∧ replay before.state recorded = some after.state) ∨
      (¬ gone after.state ∧ replay before.state recorded = none))

theorem replay_append {tree : FileTree δ} {first second : List (Event Disk)} :
    replay tree (first ++ second) = (replay tree first).bind (replay · second) := by
  rw [replay, List.foldlM_append]
  rfl

section
variable {region late : Place → Prop} {gone goneLate : FileTree δ → Prop}
  {before middle after : World Disk (FileTree δ)}

theorem Removal.congr {other : FileTree δ → Prop} (removal : Removal region gone before after)
    (same : gone after.state ↔ other after.state) : Removal region other before after where
  within := removal.within
  outside := removal.outside
  recorded := by
    obtain ⟨recorded, isRecorded, outcome⟩ := removal.recorded
    rw [same] at outcome
    exact ⟨recorded, isRecorded, outcome⟩

theorem Removal.widen {larger : Place → Prop} (removal : Removal region gone before after)
    (inside : ∀ place, region place → larger place) : Removal larger gone before after where
  within := removal.within
  outside place isOutside := removal.outside place fun isIn => isOutside (inside place isIn)
  recorded := removal.recorded

theorem Removal.trans (first : Removal region gone before middle)
    (second : Removal late goneLate middle after) (kept : gone middle.state ↔ gone after.state) :
    Removal (fun place => region place ∨ late place)
      (fun tree => gone tree ∧ goneLate tree) before after where
  within := second.within.trans first.within
  outside place isOutside := by
    obtain ⟨notFirst, notLate⟩ := not_or.mp isOutside
    rw [second.outside place notLate, first.outside place notFirst]
  recorded := by
    obtain ⟨early, isEarly, earlyOutcome⟩ := first.recorded
    obtain ⟨others, isOthers, outcome⟩ := second.recorded
    refine ⟨early ++ others, by rw [isOthers, isEarly, List.append_assoc], ?_⟩
    rw [replay_append]
    rcases earlyOutcome with ⟨isGone, replayed⟩ | ⟨left, failed⟩
    · rw [replayed, Option.bind_some]
      rcases outcome with ⟨isGoneLate, replayedLate⟩ | ⟨leftLate, failedLate⟩
      · exact .inl ⟨⟨kept.mp isGone, isGoneLate⟩, replayedLate⟩
      · exact .inr ⟨fun both => leftLate both.2, failedLate⟩
    · rw [failed, Option.bind_none]
      exact .inr ⟨fun both => left (kept.mpr both.1), rfl⟩

theorem removal_none (world : World Disk (FileTree δ)) :
    Removal (fun _ => False) (fun _ => True) world world where
  within := .refl world.state
  outside _ _ := rfl
  recorded := ⟨[], (List.append_nil _).symm, .inl ⟨trivial, rfl⟩⟩

theorem removal_readdir (world : World Disk (FileTree δ)) (place : Place) (listing : Listing) :
    Removal (fun _ => False) (fun _ => True) world
      ⟨world.state, world.history ++ [⟨.readdir place, listing⟩]⟩ where
  within := .refl world.state
  outside _ _ := rfl
  recorded := ⟨[⟨.readdir place, listing⟩], rfl, .inl ⟨trivial, rfl⟩⟩

theorem removal_deleteFile {location : Location} {place : Place} {oracle : Oracle Disk}
    {world : World Disk (FileTree δ)}
    (named : ∀ directory name, world.state.spot location = some (directory, name) →
      directory ++ [name] = place)
    (found : world.state.find place ≠ none) (flag : TypeFlag) :
    ∃ after, (deleteFile location flag).run oracle world = (.ok ⟨⟩, after) ∧
      Removal (· = place) (fun tree => tree.find place = none) world after := by
  refine ⟨_, run_deleteFile_eq location flag world, ?_⟩
  generalize isEvent : (⟨.remove location, oracle world.history (.remove location)⟩ :
    Event Disk) = event
  cases went : passed world.state event with
  | none =>
      have failed : replay world.state [event] = none := by
        rw [replay, List.foldlM_cons, went]
        rfl
      exact ⟨.refl _, fun _ _ => rfl, [event], rfl, .inr ⟨found, failed⟩⟩
  | some after =>
      have removed : world.state.remove location = some after := by
        rw [← isEvent, passed] at went
        split at went
        · exact went
        · cases went
      obtain ⟨directory, name, leaf, spot, _, rfl⟩ := remove_eq_some removed
      obtain rfl := named directory name spot
      refine ⟨erase_within leaf, fun other different => ?_, [event], rfl, .inl ⟨?_, ?_⟩⟩
      · exact (find_erase leaf other).trans (if_neg fun same => different same.symm)
      · exact (find_erase leaf _).trans (if_pos rfl)
      · rw [replay, List.foldlM_cons, went]
        rfl

end

/-- A path names a directory itself, no link is below it, and nothing below it is on the
path. -/
structure DirectoryTree (tree : FileTree δ) (root : Location) (top : Place) : Prop where
  plain : tree.Plain root top
  itself : ∀ directory name, tree.spot root = some (directory, name) → directory ++ [name] = top
  direct : ∀ later : FileTree δ, (∀ place, (top <+: place → place = top) →
    later.find place = tree.find place) → later.resolve root = .ok top

/-- What leads to an entry is as it was. -/
structure Agrees (tree : FileTree δ) (top : Place) (rest : List String) (later : FileTree δ) :
    Prop where
  within : later.Within tree
  outside : ∀ place, ¬ top <+: place → later.find place = tree.find place
  above : ∀ front, front <+: rest → later.find (top ++ front) = tree.find (top ++ front)

section
variable {tree later : FileTree δ} {root : Location} {top : Place} {rest : List String}
  {oracle : Oracle Disk}

theorem Agrees.resolve_root (agrees : Agrees tree top rest later)
    (directoryTree : DirectoryTree tree root top) : later.resolve root = .ok top := by
  refine directoryTree.direct later fun place isTop => ?_
  by_cases below : top <+: place
  · rw [isTop below]
    have same := agrees.above [] List.nil_prefix
    rwa [List.append_nil] at same
  · exact agrees.outside place below

theorem Agrees.resolve_below (agrees : Agrees tree top rest later)
    (directoryTree : DirectoryTree tree root top) (found : tree.find (top ++ rest) ≠ none) :
    later.resolve (root.below rest) = .ok (top ++ rest) := by
  induction rest using List.reverseRecOn with
  | nil =>
      rw [List.append_nil]
      exact agrees.resolve_root directoryTree
  | append_singleton front name ih =>
      have isDirectory : tree.IsDirectory (top ++ front) :=
        isDirectory_parent (by rwa [List.append_assoc])
      obtain ⟨entry, isEntry⟩ := Option.ne_none_iff_exists'.mp found
      have front' : Agrees tree top front later :=
        ⟨agrees.within, agrees.outside,
          fun other isFront => agrees.above other (isFront.trans (List.prefix_append _ _))⟩
      refine resolve_below_concat (ih front' (isDirectory ▸ nofun))
        ((agrees.above _ (List.prefix_refl _)).trans isEntry) fun target isLink => ?_
      subst isLink
      exact directoryTree.plain.noLinks (front ++ [name]) target isEntry

theorem Agrees.spot_below (agrees : Agrees tree top rest later)
    (directoryTree : DirectoryTree tree root top) (found : tree.find (top ++ rest) ≠ none)
    (directory : Place) (name : String)
    (spot : later.spot (root.below rest) = some (directory, name)) :
    directory ++ [name] = top ++ rest := by
  rcases List.eq_nil_or_concat rest with rfl | ⟨front, last, rfl⟩
  · rw [List.append_nil]
    exact directoryTree.itself directory name (spot_within agrees.within spot)
  · rw [List.concat_eq_append] at spot found agrees ⊢
    have isDirectory : tree.IsDirectory (top ++ front) :=
      isDirectory_parent (by rwa [List.append_assoc])
    have front' : Agrees tree top front later :=
      ⟨agrees.within, agrees.outside,
        fun other isFront => agrees.above other (isFront.trans (List.prefix_append _ _))⟩
    rw [Location.below_concat] at spot
    obtain ⟨rfl, rfl⟩ := spot_child
      (front'.resolve_below directoryTree (isDirectory ▸ nofun)) spot
    exact List.append_assoc ..

/-- Nothing of what is at an entry and below it has been removed. -/
def Whole (tree : FileTree δ) (top : Place) (rest : List String) (later : FileTree δ) : Prop :=
  ∀ place, top ++ rest <+: place → later.find place = tree.find place

/-- What a visit of an entry does: it and all below it goes, or a removal fails. -/
def Empties (tree : FileTree δ) (top : Place) (oracle : Oracle Disk) (rest : List String)
    (act : List Place → Act Disk Fault (FileTree δ) (Option (List Place))) : Prop :=
  ∀ seen world, Agrees tree top rest world.state → Whole tree top rest world.state →
    (∀ place ∈ seen, ¬ top ++ rest <+: place) →
    ∃ seen' after, (act seen).run oracle world = (.ok (some seen'), after) ∧
      (∀ place ∈ seen', place ∈ seen ∨ top ++ rest <+: place) ∧
      Removal (top ++ rest <+: ·) (fun tree => tree.find (top ++ rest) = none) world after

theorem prefix_child (top : Place) (rest : List String) (name : String) :
    top ++ rest <+: top ++ (rest ++ [name]) := by
  rw [← List.append_assoc]
  exact List.prefix_append _ _

theorem not_prefix_child {top : Place} {rest front : List String} {name : String}
    (isFront : front <+: rest) : ¬ top ++ (rest ++ [name]) <+: top ++ front := by
  intro inside
  have short := isFront.length_le
  have long := inside.length_le
  simp only [List.length_append, List.length_singleton] at long
  omega

theorem Agrees.of_removal {region : Place → Prop} {gone : FileTree δ → Prop}
    {world after : World Disk (FileTree δ)} (agrees : Agrees tree top rest world.state)
    (removal : Removal region gone world after)
    (below : ∀ place, region place → ∃ name, top ++ (rest ++ [name]) <+: place) :
    Agrees tree top rest after.state where
  within := removal.within.trans agrees.within
  outside place isOutside := by
    have notIn : ¬ region place := by
      intro isIn
      obtain ⟨name, inside⟩ := below place isIn
      exact isOutside ((List.prefix_append _ _).trans inside)
    rw [removal.outside place notIn, agrees.outside place isOutside]
  above front isFront := by
    have notIn : ¬ region (top ++ front) := by
      intro isIn
      obtain ⟨name, inside⟩ := below _ isIn
      exact not_prefix_child isFront inside
    rw [removal.outside _ notIn, agrees.above front isFront]

theorem Agrees.child (agrees : Agrees tree top rest later) {name : String}
    (whole : Whole tree top (rest ++ [name]) later) : Agrees tree top (rest ++ [name]) later where
  within := agrees.within
  outside := agrees.outside
  above front isFront := by
    rcases List.prefix_concat_iff.mp isFront with rfl | isFront
    · exact whole _ (List.prefix_refl _)
    · exact agrees.above front isFront

theorem run_visitEach_removes
    {visit : List Place → Location → Act Disk Fault (FileTree δ) (Option (List Place))}
    {listed : List String} (nodup : listed.Nodup)
    (each : ∀ name ∈ listed, IsName name → Empties tree top oracle (rest ++ [name])
      fun seen => visit seen (root.below (rest ++ [name])))
    (seen : List Place) (world : World Disk (FileTree δ))
    (agrees : Agrees tree top rest world.state)
    (whole : ∀ name ∈ listed, Whole tree top (rest ++ [name]) world.state)
    (unseen : ∀ name ∈ listed, ∀ place ∈ seen, ¬ top ++ (rest ++ [name]) <+: place) :
    ∃ seen' after,
      (visitEach visit (root.below rest) listed seen).run oracle world = (.ok (some seen'), after) ∧
      (∀ place ∈ seen', place ∈ seen ∨ top ++ rest <+: place) ∧
      Removal (fun place => ∃ name ∈ listed, top ++ (rest ++ [name]) <+: place)
        (fun tree => ∀ name ∈ listed, IsName name → tree.find (top ++ (rest ++ [name])) = none)
        world after := by
  induction listed generalizing seen world with
  | nil =>
      refine ⟨seen, world, rfl, fun place member => .inl member, ?_⟩
      refine ((removal_none world).congr ?_).widen fun _ never => never.elim
      exact iff_of_true trivial fun name member => by cases member
  | cons name others ih =>
      obtain ⟨notAgain, nodup⟩ := List.nodup_cons.mp nodup
      have eachOther := fun other member => each other (List.mem_cons_of_mem name member)
      have wholeOther := fun other member => whole other (List.mem_cons_of_mem name member)
      have unseenOther := fun other member => unseen other (List.mem_cons_of_mem name member)
      by_cases isName : IsName name
      · obtain ⟨seen₁, between, visited, fresh₁, removal₁⟩ := each name List.mem_cons_self isName
          seen world (agrees.child (whole name List.mem_cons_self)) (whole name List.mem_cons_self)
          (unseen name List.mem_cons_self)
        have apart : ∀ other ∈ others, ∀ place, top ++ (rest ++ [other]) <+: place →
            ¬ top ++ (rest ++ [name]) <+: place :=
          fun other member place isOther isFirst =>
            notAgain (eq_of_prefixes isFirst isOther ▸ member)
        have whole₁ : ∀ other ∈ others, Whole tree top (rest ++ [other]) between.state := by
          intro other member place isOther
          rw [removal₁.outside place (apart other member place isOther),
            wholeOther other member place isOther]
        have unseen₁ : ∀ other ∈ others, ∀ place ∈ seen₁,
            ¬ top ++ (rest ++ [other]) <+: place := by
          intro other member place isSeen inside
          rcases fresh₁ place isSeen with isSeen | visited
          · exact unseenOther other member place isSeen inside
          · exact apart other member place inside visited
        obtain ⟨seen₂, after, below, fresh₂, removal₂⟩ := ih nodup eachOther seen₁ between
          (agrees.of_removal removal₁ fun _ inside => ⟨name, inside⟩) whole₁ unseen₁
        refine ⟨seen₂, after, ?_, fun place member => ?_, ?_⟩
        · rw [visitEach, if_neg (not_or.mpr isName), ← Location.below_concat,
            run_bind_ok visited]
          exact below
        · rcases fresh₂ place member with member | inside
          · rcases fresh₁ place member with member | inside
            · exact .inl member
            · exact .inr ((prefix_child top rest name).trans inside)
          · exact .inr inside
        · have kept : between.state.find (top ++ (rest ++ [name])) =
              after.state.find (top ++ (rest ++ [name])) := by
            refine (removal₂.outside _ ?_).symm
            rintro ⟨other, member, inside⟩
            exact apart other member _ inside (List.prefix_refl _)
          refine ((removal₁.trans removal₂ (by rw [kept])).congr ?_).widen ?_
          · rw [List.forall_mem_cons]
            exact and_congr_left' ⟨fun isGone _ => isGone, fun isGone => isGone isName⟩
          · rintro place (inside | ⟨other, member, inside⟩)
            · exact ⟨name, List.mem_cons_self, inside⟩
            · exact ⟨other, List.mem_cons_of_mem name member, inside⟩
      · obtain ⟨seen', after, below, fresh, removal⟩ := ih nodup eachOther seen world agrees
          wholeOther unseenOther
        refine ⟨seen', after, ?_, fresh, (removal.congr ?_).widen ?_⟩
        · rw [visitEach, if_pos (by simpa [IsName, or_iff_not_imp_left] using isName)]
          exact below
        · rw [List.forall_mem_cons]
          exact ⟨fun allGone => ⟨fun special => absurd special isName, allGone⟩, fun both => both.2⟩
        · rintro place ⟨other, member, inside⟩
          exact ⟨other, List.mem_cons_of_mem name member, inside⟩

theorem Whole.child (whole : Whole tree top rest later) (name : String) :
    Whole tree top (rest ++ [name]) later :=
  fun place inside => whole place ((prefix_child top rest name).trans inside)

/-- A visit removes an entry and all that is below it, unless a removal fails. -/
theorem run_visit_removes (directoryTree : DirectoryTree tree root top)
    (lists : Lists tree top oracle) {nesting : Nat}
    (deep : tree.entries.size < rest.length + nesting)
    (found : tree.find (top ++ rest) ≠ none) :
    Empties tree top oracle rest
      fun seen => visit true deleteFile nesting seen (root.below rest) := by
  induction nesting generalizing rest with
  | zero =>
      have shallow := FileTree.length_lt_size found
      rw [List.length_append] at shallow
      omega
  | succ nesting ih =>
      intro seen world agrees whole unseen
      have resolved := agrees.resolve_below directoryTree found
      have same := whole _ (List.prefix_refl (top ++ rest))
      by_cases isDirectory : tree.IsDirectory (top ++ rest)
      · have isDirectoryNow : world.state.IsDirectory (top ++ rest) := same.trans isDirectory
        obtain ⟨listed, read, nodup, isListed⟩ := lists world.history rest isDirectory
        have unseen₁ : ∀ name ∈ listed, ∀ place ∈ (top ++ rest) :: seen,
            ¬ top ++ (rest ++ [name]) <+: place := by
          intro name _ place member inside
          rcases List.mem_cons.mp member with rfl | member
          · exact not_prefix_child (List.prefix_refl rest) inside
          · exact unseen place member ((prefix_child top rest name).trans inside)
        obtain ⟨seen', between, below, fresh, removal⟩ := run_visitEach_removes nodup
          (fun name member isName => ih (by rw [List.length_append, List.length_singleton]; omega)
            (List.append_assoc .. ▸ (isListed name isName).mp member))
          ((top ++ rest) :: seen)
          ⟨world.state, world.history ++ [⟨.readdir (top ++ rest), .listed listed⟩]⟩ agrees
          (fun name _ => whole.child name) unseen₁
        have agreesBetween : Agrees tree top rest between.state := by
          refine Agrees.of_removal ?_ removal ?_
          · exact agrees
          · rintro place ⟨name, _, inside⟩
            exact ⟨name, inside⟩
        have foundBetween : between.state.find (top ++ rest) ≠ none :=
          (agreesBetween.above rest (List.prefix_refl rest)).symm ▸ found
        obtain ⟨after, deleted, last⟩ := removal_deleteFile
          (agreesBetween.spot_below directoryTree found) foundBetween .directory
        refine ⟨seen', after, ?_, fun place member => ?_, ?_⟩
        · change (visit true deleteFile (nesting + 1) seen (root.below rest)).run oracle world = _
          rw [visit, run_get_bind, resolved]
          dsimp only
          rw [if_pos isDirectoryNow,
            if_neg fun member => unseen _ member (List.prefix_refl _), run_ask_bind, read]
          dsimp only
          rw [run_bind, report, if_neg (by decide), run_pure]
          dsimp only
          rw [run_bind_ok below]
          dsimp only
          rw [report, if_pos rfl, run_bind_ok deleted, run_pure]
        · rcases fresh place member with member | inside
          · rcases List.mem_cons.mp member with rfl | member
            · exact .inr (List.prefix_refl _)
            · exact .inl member
          · exact .inr inside
        · have keptChildren : (∀ name ∈ listed, IsName name →
              between.state.find (top ++ (rest ++ [name])) = none) ↔
              ∀ name ∈ listed, IsName name →
                after.state.find (top ++ (rest ++ [name])) = none := by
            refine forall₂_congr fun name _ => ?_
            rw [last.outside (top ++ (rest ++ [name])) (by simp)]
          have noChildren : after.state.find (top ++ rest) = none → ∀ name ∈ listed,
              IsName name → after.state.find (top ++ (rest ++ [name])) = none := by
            intro isGone name _ _
            by_contra present
            rw [← List.append_assoc] at present
            cases isGone.symm.trans (isDirectory_parent present)
          have below := ((removal_readdir world (top ++ rest) (.listed listed)).trans removal
            Iff.rfl).trans last (by rw [true_and, true_and, keptChildren])
          refine (below.congr ?_).widen ?_
          · exact ⟨fun both => both.2, fun isGone => ⟨⟨trivial, noChildren isGone⟩, isGone⟩⟩
          · rintro place ((never | ⟨name, _, inside⟩) | rfl)
            · exact never.elim
            · exact (prefix_child top rest name).trans inside
            · exact List.prefix_refl _
      · have notDirectoryNow : ¬ world.state.IsDirectory (top ++ rest) :=
          fun isNow => isDirectory (same.symm.trans isNow)
        obtain ⟨after, deleted, last⟩ := removal_deleteFile
          (agrees.spot_below directoryTree found) (same.symm ▸ found) .file
        refine ⟨seen, after, ?_, fun place member => .inl member,
          last.widen fun place isPlace => isPlace ▸ List.prefix_refl _⟩
        change (visit true deleteFile (nesting + 1) seen (root.below rest)).run oracle world = _
        rw [visit, run_get_bind, resolved]
        dsimp only
        rw [if_neg notDirectoryNow, run_bind_ok deleted, run_pure]

theorem agrees_refl (tree : FileTree δ) (top : Place) (rest : List String) :
    Agrees tree top rest tree :=
  ⟨.refl tree, fun _ _ => rfl, fun _ _ => rfl⟩

/-- A deletion of a directory returns true, and the directory is gone exactly when no removal
failed. -/
theorem run_nftw_removes {location : Location}
    (directoryTree : DirectoryTree tree location.withoutSlash top)
    (lists : Lists tree top oracle) (history : History Disk) :
    ∃ after, (nftw true deleteFile location).run oracle ⟨tree, history⟩ = (.ok true, after) ∧
      Removal (top <+: ·) (fun tree => tree.find top = none) ⟨tree, history⟩ after := by
  have isTop : top ++ [] = top := List.append_nil top
  have found : tree.find (top ++ []) ≠ none := by
    rw [isTop, directoryTree.plain.isDirectory]
    exact Option.some_ne_none _
  have deep : tree.entries.size < ([] : List String).length + (tree.entries.size + 1) := by simp
  obtain ⟨seen, after, visited, _, removal⟩ := run_visit_removes directoryTree lists deep found []
    ⟨tree, history⟩ (agrees_refl tree top []) (fun _ _ => rfl) (List.forall_mem_nil _)
  rw [isTop] at removal
  change (visit true deleteFile (tree.entries.size + 1) [] location.withoutSlash).run oracle
    ⟨tree, history⟩ = _ at visited
  refine ⟨after, ?_, removal⟩
  rw [nftw, run_get_bind, directoryTree.plain.resolved]
  dsimp only
  rw [run_bind_ok visited]
  rfl

/-- Without links a deletion is right exactly when no removal fails. -/
theorem del_deletes_iff_allRemoved {workingDirectory : Place} {dir : String}
    {location : Location} (located : locate workingDirectory dir = some location)
    (directoryTree : DirectoryTree tree location.withoutSlash top)
    (lists : Lists tree top oracle) (history : History Disk) :
    Deletes (del workingDirectory dir) (some location) oracle ⟨tree, history⟩ ↔
      AllRemoved (del workingDirectory dir) oracle ⟨tree, history⟩ := by
  constructor
  · intro deletes
    obtain ⟨after, walked, removal⟩ := run_nftw_removes directoryTree lists history
    have ran : (del workingDirectory dir).run oracle ⟨tree, history⟩ = (.ok true, after) := by
      rw [del, located]
      exact walked
    rw [Deletes, ran] at deletes
    rw [AllRemoved, ran]
    obtain ⟨recorded, isRecorded, ⟨_, replayed⟩ | ⟨left, _⟩⟩ := removal.recorded
    · exact ⟨recorded, isRecorded, replayed⟩
    · obtain ⟨entry, isEntry⟩ := Option.ne_none_iff_exists'.mp left
      obtain rfl : entry = .directory := Option.some.inj
        ((removal.within top entry isEntry).symm.trans directoryTree.plain.isDirectory)
      have agrees : Agrees tree top [] after.state := by
        refine ⟨removal.within, removal.outside, fun front isFront => ?_⟩
        obtain rfl := List.prefix_nil.mp isFront
        rw [List.append_nil, isEntry]
        exact directoryTree.plain.isDirectory.symm
      have leads := leads_of_resolve (agrees.resolve_root directoryTree)
      have present : after.state.resolve location = .ok top := resolve_of_leads leads isEntry
      exact absurd present (deletes rfl location top rfl)
  · intro allRemoved
    rw [← located]
    exact del_deletes_of_allRemoved allRemoved

theorem run_clean_of_gone {workingDirectory : Place} {path : String}
    {world : World Disk (FileTree δ)} (gone : Missing (locate workingDirectory path) world.state) :
    (DirectoryCleanUpHandler.clean workingDirectory path).run oracle world = (.ok true, world) := by
  rw [DirectoryCleanUpHandler.clean, Disk.present]
  cases located : locate workingDirectory path with
  | none => rfl
  | some location =>
      rw [located] at gone
      cases resolved : world.state.resolve location with
      | ok place => exact absurd resolved (gone location place rfl)
      | error error =>
          rw [run_bind, run_get_bind, Option.map_some, resolved]
          rfl

theorem run_clean_of_present {workingDirectory : Place} {path : String}
    {world : World Disk (FileTree δ)} {location : Location} {place : Place}
    (located : locate workingDirectory path = some location)
    (resolved : world.state.resolve location = .ok place) :
    (DirectoryCleanUpHandler.clean workingDirectory path).run oracle world =
      (del workingDirectory path).run oracle world := by
  rw [DirectoryCleanUpHandler.clean, Disk.present, located, run_bind, run_get_bind,
    Option.map_some, resolved]
  rfl

theorem clean_deletes_of_allRemoved {workingDirectory : Place} {path : String}
    {world : World Disk (FileTree δ)}
    (allRemoved : AllRemoved (DirectoryCleanUpHandler.clean workingDirectory path) oracle world) :
    Deletes (DirectoryCleanUpHandler.clean workingDirectory path)
      (locate workingDirectory path) oracle world := by
  by_cases gone : Missing (locate workingDirectory path) world.state
  · rw [Deletes, run_clean_of_gone gone]
    exact fun _ => gone
  · simp only [Missing, not_forall, not_not] at gone
    obtain ⟨location, place, located, resolved⟩ := gone
    have same : (DirectoryCleanUpHandler.clean workingDirectory path).run oracle world =
        (del workingDirectory path).run oracle world := run_clean_of_present located resolved
    rw [AllRemoved, same] at allRemoved
    rw [Deletes, same]
    exact del_deletes_of_allRemoved allRemoved

/-- When no removal fails, a deletion that returns true has deleted, and so has the handler.
For a directory without links, a removal that fails is all that makes them wrong. -/
theorem deletion_is_real_iff (workingDirectory : Place) (dir : String) (oracle : Oracle Disk)
    (tree : FileTree δ) (history : History Disk) :
    (AllRemoved (del workingDirectory dir) oracle ⟨tree, history⟩ →
      Deletes (del workingDirectory dir) (locate workingDirectory dir) oracle ⟨tree, history⟩) ∧
    (AllRemoved (DirectoryCleanUpHandler.clean workingDirectory dir) oracle ⟨tree, history⟩ →
      Deletes (DirectoryCleanUpHandler.clean workingDirectory dir)
        (locate workingDirectory dir) oracle ⟨tree, history⟩) ∧
    ∀ location top, locate workingDirectory dir = some location →
      DirectoryTree tree location.withoutSlash top → Lists tree top oracle →
      (Deletes (del workingDirectory dir) (some location) oracle ⟨tree, history⟩ ↔
        AllRemoved (del workingDirectory dir) oracle ⟨tree, history⟩) ∧
      (Deletes (DirectoryCleanUpHandler.clean workingDirectory dir) (some location) oracle
          ⟨tree, history⟩ ↔
        AllRemoved (DirectoryCleanUpHandler.clean workingDirectory dir) oracle
          ⟨tree, history⟩) := by
  refine ⟨del_deletes_of_allRemoved, clean_deletes_of_allRemoved, ?_⟩
  intro location top located directoryTree lists
  have exactly := del_deletes_iff_allRemoved located directoryTree lists history
  refine ⟨exactly, ?_⟩
  have leads := leads_of_resolve directoryTree.plain.resolved
  have resolved : tree.resolve location = .ok top :=
    resolve_of_leads leads directoryTree.plain.isDirectory
  rw [Deletes, AllRemoved, run_clean_of_present located resolved]
  exact exactly

theorem isName_dir : IsName "dir" := by decide

theorem isName_kept : IsName "kept" := by decide

def oneFile : FileTree Unit :=
  let dir := bare.put [] "dir" .directory isName_dir (by decide +kernel) (by decide +kernel)
  dir.put ["dir"] "kept" (.regular ()) isName_kept (by decide +kernel) (by decide +kernel)

def listing (removable : Location → Bool) : Oracle Disk
  | _, .readdir place => .listed (oneFile.children place)
  | _, .mkdir _ => true
  | _, .remove location => removable location
  | _, .copy _ _ => none

theorem find_oneFile (rest : List String) :
    oneFile.find (["dir"] ++ rest) =
      if rest = ["kept"] then some (.regular ()) else if rest = [] then some .directory
      else none := by
  rw [oneFile, find_put, find_put, find, bare, getElem?_insert]
  rcases rest with _ | ⟨name, _ | ⟨next, rest⟩⟩
  · simp
  · by_cases isKept : name = "kept"
    · simp [isKept]
    · simp [isKept, Ne.symm isKept]
  · simp

theorem directoryTree_oneFile : DirectoryTree oneFile ⟨[], ["dir"], false⟩ ["dir"] where
  plain := by
    refine ⟨by decide +kernel, by decide +kernel, fun rest target => ?_⟩
    rw [find_oneFile]
    split
    · exact nofun
    · split <;> exact nofun
  itself := by
    intro directory name isSpot
    have isDir : oneFile.spot ⟨[], ["dir"], false⟩ = some ([], "dir") := by decide +kernel
    cases isDir.symm.trans isSpot
    rfl
  direct := by
    intro later same
    have isDirectory : later.IsDirectory ["dir"] :=
      (same ["dir"] fun _ => rfl).trans (by decide +kernel)
    exact follow_of_leads (.entry later.root isName_dir isDirectory (fun _ isLink => by cases isLink)
      (.here _ _))

theorem oneFile_is_deleted :
    Deletes (del [] "/dir") (some ⟨[], ["dir"], false⟩) (listing fun _ => true) ⟨oneFile, []⟩ := by
  have holds := (deletion_is_real_iff [] "/dir" (listing fun _ => true) oneFile []).2.2
    ⟨[], ["dir"], false⟩ ["dir"] (by decide +kernel) directoryTree_oneFile
    fun _ _ _ => ⟨_, rfl, oneFile.nodup_children _, fun _ _ => mem_children⟩
  refine holds.1.mpr ⟨_, rfl, ?_⟩
  rfl

/-- The file is not removed, and the directory stays. -/
theorem deletion_of_kept_file :
    ¬ ∀ (workingDirectory : Place) (dir : String) (oracle : Oracle Disk) (tree : FileTree Unit),
      Deletes (del workingDirectory dir) (locate workingDirectory dir) oracle ⟨tree, []⟩ ∧
      Deletes (DirectoryCleanUpHandler.clean workingDirectory dir) (locate workingDirectory dir)
        oracle ⟨tree, []⟩ := by
  intro claim
  have gone := (claim [] "/dir" (listing fun location => location.names ≠ ["dir", "kept"])
    oneFile).1 (by decide +kernel)
  exact gone ⟨[], ["dir"], false⟩ ["dir"] (by decide +kernel) (by decide +kernel)

end

end SoftwareContainers.RecursiveDelete
