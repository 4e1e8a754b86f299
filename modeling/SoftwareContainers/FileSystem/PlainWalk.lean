import Mathlib.Data.Set.Insert
import SoftwareContainers.FileSystem.Walk

namespace FileSystem

open Effect Effect.Act

/-! A walk over a directory without links: each entry is visited once, after the one it is
in. -/

def Location.below (location : Location) (rest : List String) : Location :=
  rest.foldl Location.child location

theorem Location.below_concat (location : Location) (rest : List String) (name : String) :
    location.below (rest ++ [name]) = (location.below rest).child name :=
  List.foldl_concat ..

def Entry.flag {δ : Type} : Entry δ → TypeFlag
  | .directory => .directory
  | _ => .file

namespace FileTree

variable {δ : Type}

/-- A path leads to a directory, and no link is below it. -/
structure Plain (tree : FileTree δ) (root : Location) (top : Place) : Prop where
  resolved : tree.resolve root = .ok top
  isDirectory : tree.IsDirectory top
  noLinks : ∀ rest target, tree.find (top ++ rest) ≠ some (.link target)

structure Walkable (tree : FileTree δ) (root : Location) (top : Place) : Prop where
  resolved : tree.resolve root = .ok top
  present : tree.find top ≠ none
  noLinks : ∀ rest target, tree.find (top ++ rest) ≠ some (.link target)

variable {tree later : FileTree δ} {root : Location} {top : Place} {rest : List String}

theorem Grows.find_ne_none {place : Place} (grows : tree.Grows later)
    (found : tree.find place ≠ none) : later.find place ≠ none := by
  cases entry : tree.find place with
  | none => exact absurd entry found
  | some entry =>
      intro absent
      have shape := grows place _ (shape_of_find ‹_›)
      rw [FileTree.shape, absent] at shape
      cases shape

theorem Grows.not_isDirectory {place : Place} (grows : tree.Grows later)
    (found : tree.find place ≠ none) (notDirectory : ¬ tree.IsDirectory place) :
    ¬ later.IsDirectory place := by
  intro isDirectory
  cases isEntry : tree.find place with
  | none => exact found isEntry
  | some entry =>
      have shape := grows place _ (shape_of_find isEntry)
      rw [isDirectory_iff_shape.mp isDirectory] at shape
      cases entry with
      | directory => exact notDirectory isEntry
      | _ => cases shape

theorem resolve_below_concat {front : List String} {name : String} {entry : Entry δ}
    (resolved : tree.resolve (root.below front) = .ok (top ++ front))
    (found : tree.find (top ++ (front ++ [name])) = some entry)
    (noLink : ∀ target, entry ≠ .link target) :
    tree.resolve (root.below (front ++ [name])) = .ok (top ++ (front ++ [name])) := by
  rw [Location.below_concat]
  refine resolve_child ((leads_of_resolve resolved).append ?_)
  rw [← List.append_assoc] at found ⊢
  have present : tree.find (top ++ front ++ [name]) ≠ none := found ▸ Option.some_ne_none entry
  exact .entry (isDirectory_parent present) (isName_of_find present) found noLink (.here 0 _)

theorem Walkable.resolve_below (walkable : tree.Walkable root top) (grows : tree.Grows later)
    (found : tree.find (top ++ rest) ≠ none) :
    later.resolve (root.below rest) = .ok (top ++ rest) := by
  induction rest using List.reverseRecOn with
  | nil =>
      rw [List.append_nil]
      exact resolve_grows grows walkable.resolved
  | append_singleton front name ih =>
      have isDirectory : tree.IsDirectory (top ++ front) :=
        isDirectory_parent (by rwa [List.append_assoc])
      obtain ⟨entry, present⟩ := Option.ne_none_iff_exists'.mp (grows.find_ne_none found)
      refine resolve_below_concat (ih (isDirectory ▸ nofun)) present fun target isLink => ?_
      subst isLink
      obtain ⟨before, isBefore⟩ := Option.ne_none_iff_exists'.mp found
      have same := grows _ _ (shape_of_find isBefore)
      rw [find_link_iff_shape.mp present] at same
      cases before with
      | link other => exact walkable.noLinks (front ++ [name]) other isBefore
      | _ => cases same

end FileTree

section

variable {δ ε : Type} {tree : FileTree δ} {root : Location} {top : Place}
  {visitor : Visitor ε δ} {oracle : Oracle Disk}
  {inv : Set (List String) → World Disk (FileTree δ) → Prop} {rest : List String}

def Lists (tree : FileTree δ) (top : Place) (oracle : Oracle Disk) : Prop :=
  ∀ history rest, tree.IsDirectory (top ++ rest) →
    ∃ listed, oracle history (.readdir (top ++ rest)) = .listed listed ∧ listed.Nodup ∧
      ∀ name, IsName name → (name ∈ listed ↔ tree.find (top ++ rest ++ [name]) ≠ none)

def Fails (tree : FileTree δ) (top : Place) (oracle : Oracle Disk) : Prop :=
  ∃ history rest, tree.IsDirectory (top ++ rest) ∧
    oracle history (.readdir (top ++ rest)) = .failed

def ListsOrFails (tree : FileTree δ) (top : Place) (oracle : Oracle Disk) : Prop :=
  ∀ history rest, tree.IsDirectory (top ++ rest) →
    oracle history (.readdir (top ++ rest)) = .failed ∨
    ∃ listed, oracle history (.readdir (top ++ rest)) = .listed listed ∧ listed.Nodup ∧
      ∀ name, IsName name → (name ∈ listed ↔ tree.find (top ++ rest ++ [name]) ≠ none)

theorem Lists.listsOrFails (lists : Lists tree top oracle) : ListsOrFails tree top oracle :=
  fun history rest isDirectory => .inr (lists history rest isDirectory)

theorem Lists.not_fails (lists : Lists tree top oracle) : ¬ Fails tree top oracle := by
  rintro ⟨history, rest, isDirectory, failed⟩
  obtain ⟨listed, read, _⟩ := lists history rest isDirectory
  cases read.symm.trans failed

/-- What the visitor keeps of what has been visited: it makes the tree larger only. -/
structure Visits (tree : FileTree δ) (root : Location) (top : Place) (visitor : Visitor ε δ)
    (oracle : Oracle Disk) (inv : Set (List String) → World Disk (FileTree δ) → Prop) :
    Prop where
  grows : ∀ {done world}, inv done world → tree.Grows world.state
  unread : ∀ {done world} (rest listed), inv done world →
    inv done { world with history := world.history ++ [⟨.readdir (top ++ rest), listed⟩] }
  visited : ∀ {done world rest entry}, inv done world → tree.find (top ++ rest) = some entry →
    (∀ front name, rest = front ++ [name] → front ∈ done) →
    ∃ after, (visitor (root.below rest) entry.flag).run oracle world = (.ok ⟨⟩, after) ∧
      inv (insert rest done) after

/-- The entries at a place and below it. -/
def Below (tree : FileTree δ) (top : Place) (rest : List String) : Set (List String) :=
  { other | rest <+: other ∧ tree.find (top ++ other) ≠ none }

theorem below_eq {listed : List String} (found : tree.find (top ++ rest) ≠ none)
    (lists : ∀ name, IsName name → (name ∈ listed ↔ tree.find (top ++ rest ++ [name]) ≠ none)) :
    Below tree top rest = insert rest
      { other | ∃ name ∈ listed, IsName name ∧ other ∈ Below tree top (rest ++ [name]) } := by
  ext other
  constructor
  · rintro ⟨⟨more, rfl⟩, present⟩
    cases more with
    | nil => exact .inl (List.append_nil rest)
    | cons name more =>
        have isFound : tree.find (top ++ rest ++ [name]) ≠ none := by
          cases more with
          | nil => rwa [List.append_assoc]
          | cons next more =>
              have isDirectory : tree.IsDirectory (top ++ rest ++ [name]) := by
                refine @FileTree.isDirectory_of_find_append _ _ _ next more ?_
                simpa using present
              exact isDirectory ▸ nofun
        have isName := FileTree.isName_of_find isFound
        refine .inr ⟨name, (lists name isName).mpr isFound, isName, ?_, present⟩
        exact ⟨more, by simp⟩
  · rintro (rfl | ⟨name, _, _, inside, present⟩)
    · exact ⟨List.prefix_refl _, found⟩
    · exact ⟨(List.prefix_append rest [name]).trans inside, present⟩

/-- What a visit of an entry does, unless a directory is not listed. -/
def Explores (tree : FileTree δ) (top : Place) (oracle : Oracle Disk)
    (inv : Set (List String) → World Disk (FileTree δ) → Prop) (rest : List String)
    (act : List Place → Act Disk ε (FileTree δ) (Option (List Place))) : Prop :=
  ∀ done seen world, inv done world → (∀ front name, rest = front ++ [name] → front ∈ done) →
    (∀ place ∈ seen, ¬ top ++ rest <+: place) →
    (∃ after, (act seen).run oracle world = (.ok none, after) ∧ Fails tree top oracle) ∨
    ∃ seen' after, (act seen).run oracle world = (.ok (some seen'), after) ∧
      (∀ place ∈ seen', place ∈ seen ∨ top ++ rest <+: place) ∧
      inv (done ∪ Below tree top rest) after

theorem eq_of_prefixes {place : Place} {first second : String}
    (isFirst : top ++ (rest ++ [first]) <+: place)
    (isSecond : top ++ (rest ++ [second]) <+: place) : first = second := by
  have same := List.prefix_of_prefix_length_le isFirst isSecond (by simp)
  have equal := same.eq_of_length (by simp)
  simpa using equal

theorem not_seen_below {seen : List Place} (unseen : ∀ place ∈ seen, ¬ top ++ rest <+: place)
    (name : String) :
    ∀ place ∈ (top ++ rest) :: seen, ¬ top ++ (rest ++ [name]) <+: place := by
  intro place member inside
  rcases List.mem_cons.mp member with rfl | member
  · have le := inside.length_le
    simp only [List.length_append, List.length_singleton] at le
    omega
  · refine unseen place member (.trans ?_ inside)
    exact ⟨[name], List.append_assoc ..⟩

theorem seen_after {seen seen₁ seen₂ : List Place} {name : String}
    (first : ∀ place ∈ seen₁, place ∈ seen ∨ top ++ (rest ++ [name]) <+: place)
    (second : ∀ place ∈ seen₂, place ∈ seen₁ ∨ top ++ rest <+: place) :
    ∀ place ∈ seen₂, place ∈ seen ∨ top ++ rest <+: place := by
  intro place member
  rcases second place member with member | inside
  · refine (first place member).imp_right fun inside => ?_
    exact (List.prefix_append _ _).trans (List.append_assoc .. ▸ inside)
  · exact .inr inside

theorem run_visitEach
    {visit : List Place → Location → Act Disk ε (FileTree δ) (Option (List Place))}
    {listed : List String} (nodup : listed.Nodup)
    (each : ∀ name ∈ listed, IsName name →
      Explores tree top oracle inv (rest ++ [name])
        fun seen => visit seen (root.below (rest ++ [name])))
    (done : Set (List String)) (seen : List Place) (world : World Disk (FileTree δ))
    (holds : inv done world) (isDone : rest ∈ done)
    (unseen : ∀ name ∈ listed, ∀ place ∈ seen, ¬ top ++ (rest ++ [name]) <+: place) :
    (∃ after, (visitEach visit (root.below rest) listed seen).run oracle world =
      (.ok none, after) ∧ Fails tree top oracle) ∨
    ∃ seen' after,
      (visitEach visit (root.below rest) listed seen).run oracle world = (.ok (some seen'), after) ∧
      (∀ place ∈ seen', place ∈ seen ∨ top ++ rest <+: place) ∧
      inv (done ∪ { other | ∃ name ∈ listed,
        IsName name ∧ other ∈ Below tree top (rest ++ [name]) }) after := by
  induction listed generalizing done seen world with
  | nil =>
      refine .inr ⟨seen, world, rfl, fun place member => .inl member, ?_⟩
      simpa using holds
  | cons name others ih =>
      obtain ⟨notAgain, nodup⟩ := List.nodup_cons.mp nodup
      have eachOther := fun other member => each other (List.mem_cons_of_mem name member)
      by_cases isName : IsName name
      · rw [visitEach, if_neg (not_or.mpr isName), ← Location.below_concat]
        have parents : ∀ front last, rest ++ [name] = front ++ [last] → front ∈ done := by
          intro front last same
          obtain ⟨rfl, _⟩ := List.append_inj' same rfl
          exact isDone
        rcases each name List.mem_cons_self isName done seen world holds parents
          (unseen name List.mem_cons_self) with
          ⟨between, stopped, fails⟩ | ⟨seen₁, between, visited, fresh₁, holds₁⟩
        · exact .inl ⟨between, run_bind_ok stopped, fails⟩
        rw [run_bind_ok visited]
        have unseen₁ : ∀ other ∈ others, ∀ place ∈ seen₁,
            ¬ top ++ (rest ++ [other]) <+: place := by
          intro other member place isSeen inside
          rcases fresh₁ place isSeen with isSeen | visited
          · exact unseen other (List.mem_cons_of_mem name member) place isSeen inside
          · exact notAgain (eq_of_prefixes inside visited ▸ member)
        refine (ih nodup eachOther _ seen₁ between holds₁ (.inl isDone) unseen₁).imp_right ?_
        rintro ⟨seen₂, after, others, fresh₂, holds₂⟩
        refine ⟨seen₂, after, others, seen_after fresh₁ fresh₂, ?_⟩
        convert holds₂ using 1
        rw [Set.union_assoc]
        congr 1
        ext other
        simp [isName]
      · rw [visitEach, if_pos (by simpa [IsName, or_iff_not_imp_left] using isName)]
        refine (ih nodup eachOther done seen world holds isDone fun other member =>
          unseen other (List.mem_cons_of_mem name member)).imp_right ?_
        rintro ⟨seen', after, others, fresh, holds'⟩
        refine ⟨seen', after, others, fresh, ?_⟩
        convert holds' using 1
        congr 1
        ext other
        simp [isName]

theorem below_of_not_directory (found : tree.find (top ++ rest) ≠ none)
    (notDirectory : ¬ tree.IsDirectory (top ++ rest)) : Below tree top rest = {rest} := by
  ext other
  constructor
  · rintro ⟨⟨more, rfl⟩, present⟩
    cases more with
    | nil => exact List.append_nil rest
    | cons name more =>
        rw [← List.append_assoc] at present
        exact absurd (FileTree.isDirectory_of_find_append present) notDirectory
  · rintro rfl
    exact ⟨List.prefix_refl _, found⟩

theorem explores_of_not_directory (walkable : tree.Walkable root top)
    (visits : Visits tree root top visitor oracle inv) (nesting : Nat)
    (found : tree.find (top ++ rest) ≠ none) (notDirectory : ¬ tree.IsDirectory (top ++ rest)) :
    Explores tree top oracle inv rest
      fun seen => visit false visitor (nesting + 1) seen (root.below rest) := by
  intro done seen world holds parents _
  have grows := visits.grows holds
  obtain ⟨entry, isEntry⟩ := Option.ne_none_iff_exists'.mp found
  have isFile : entry.flag = .file := by
    cases entry with
    | directory => exact absurd isEntry notDirectory
    | _ => rfl
  obtain ⟨after, visited, holds'⟩ := visits.visited holds isEntry parents
  refine .inr ⟨seen, after, ?_, fun place member => .inl member, ?_⟩
  · change (visit false visitor (nesting + 1) seen (root.below rest)).run oracle world = _
    rw [visit, run_get_bind, walkable.resolve_below grows found]
    dsimp only
    rw [if_neg (grows.not_isDirectory found notDirectory), ← isFile, run_bind_ok visited,
      run_pure]
  · rw [below_of_not_directory found notDirectory, Set.union_singleton]
    exact holds'

theorem run_visit (walkable : tree.Walkable root top) (lists : ListsOrFails tree top oracle)
    (visits : Visits tree root top visitor oracle inv) {nesting : Nat}
    (deep : tree.entries.size < rest.length + nesting)
    (found : tree.find (top ++ rest) ≠ none) :
    Explores tree top oracle inv rest
      fun seen => visit false visitor nesting seen (root.below rest) := by
  induction nesting generalizing rest with
  | zero =>
      have shallow := FileTree.length_lt_size found
      rw [List.length_append] at shallow
      omega
  | succ nesting ih =>
      by_cases isDirectory : tree.IsDirectory (top ++ rest)
      case neg => exact explores_of_not_directory walkable visits nesting found isDirectory
      intro done seen world holds parents unseen
      have grows := visits.grows holds
      change (∃ after, (visit false visitor (nesting + 1) seen (root.below rest)).run oracle
        world = (.ok none, after) ∧ _) ∨ ∃ seen' after, (visit false visitor (nesting + 1) seen
          (root.below rest)).run oracle world = _ ∧ _
      rw [visit, run_get_bind, walkable.resolve_below grows found]
      dsimp only
      rw [if_pos (grows.isDirectory isDirectory),
        if_neg fun member => unseen _ member (List.prefix_refl _), run_ask_bind]
      rcases lists world.history rest isDirectory with failed | ⟨listed, read, nodup, isListed⟩
      · rw [failed]
        exact .inl ⟨_, rfl, world.history, rest, isDirectory, failed⟩
      obtain ⟨between, visited, holds₁⟩ :=
        visits.visited (visits.unread rest (.listed listed) holds) isDirectory parents
      rw [Entry.flag] at visited
      rw [read]
      dsimp only
      rw [report, if_pos (by decide), run_bind_ok visited]
      rcases run_visitEach nodup
        (fun name member isName => ih (by rw [List.length_append, List.length_singleton]; omega)
          (List.append_assoc .. ▸ (isListed name isName).mp member))
        (insert rest done) ((top ++ rest) :: seen) between holds₁ (.inl rfl)
        (fun name _ => not_seen_below unseen name) with
        ⟨after, stopped, fails⟩ | ⟨seen', after, below, fresh, holds₂⟩
      · exact .inl ⟨after, run_bind_ok stopped, fails⟩
      refine .inr ⟨seen', after, ?_, fun place member => ?_, ?_⟩
      · rw [run_bind_ok below]
        dsimp only
        rw [report, if_neg (by decide), run_bind, run_pure]
        rfl
      · rcases fresh place member with member | inside
        · rcases List.mem_cons.mp member with rfl | member
          · exact .inr (List.prefix_refl _)
          · exact .inl member
        · exact .inr inside
      · rw [below_eq found isListed, Set.union_insert, ← Set.insert_union]
        exact holds₂

/-- The walk visits every entry, or it is seen that it does not. -/
theorem run_nftw (walkable : tree.Walkable root.withoutSlash top)
    (lists : ListsOrFails tree top oracle)
    (visits : Visits tree root.withoutSlash top visitor oracle inv)
    {world : World Disk (FileTree δ)} (isStart : world.state = tree) (holds : inv ∅ world) :
    ∃ after, ((nftw false visitor root).run oracle world = (.ok false, after) ∧
        Fails tree top oracle) ∨
      (nftw false visitor root).run oracle world = (.ok true, after) ∧
        inv { rest | tree.find (top ++ rest) ≠ none } after := by
  have found : tree.find (top ++ []) ≠ none := by
    rw [List.append_nil]
    exact walkable.present
  have deep : tree.entries.size < ([] : List String).length + (tree.entries.size + 1) := by simp
  rw [nftw, run_get_bind, isStart, walkable.resolved]
  rcases run_visit walkable lists visits deep found ∅ [] world
    holds (fun front name same => by simp at same) (List.forall_mem_nil _) with
    ⟨after, stopped, fails⟩ | ⟨seen, after, visited, _, holds⟩
  · exact ⟨after, .inl ⟨run_bind_ok stopped, fails⟩⟩
  refine ⟨after, .inr ⟨run_bind_ok visited, ?_⟩⟩
  · convert holds using 1
    ext rest
    simp [Below]

end

end FileSystem
