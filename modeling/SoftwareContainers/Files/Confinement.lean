import SoftwareContainers.Files.RecursiveDelete

namespace SoftwareContainers.RecursiveDelete

open Effect Effect.Act FileSystem FileSystem.FileTree

/-! Which entries a deletion can remove: those of the subtree, and those that its links
lead to. -/

variable {δ : Type}

section

variable (tree : FileTree δ) (location : Location)

/-- In the subtree of the directory a path leads to. -/
def Inside (place : Place) : Prop :=
  ∃ root, tree.resolve location.withoutSlash = .ok root ∧ tree.IsDirectory root ∧ root <+: place

/-- In the subtree, or the entry that the path itself names. -/
def Own (place : Place) : Prop :=
  Inside tree location place ∨
    ∃ directory name, tree.spot location.withoutSlash = some (directory, name) ∧
      place = directory ++ [name]

/-- A link in the subtree leads to a directory that is not. -/
structure Escape (directory : Place) (name : String) (goal : Place) : Prop where
  inside : Inside tree location directory
  isName : IsName name
  isLink : ∃ target, tree.find (directory ++ [name]) = some (.link target)
  leads : Leads tree MAXSYMLINKS directory [name] goal
  isDirectory : tree.IsDirectory goal
  outside : ¬ Inside tree location goal

/-- A path the walk may come to: it leads to no directory that is not in the subtree, and
the entry it names is one to be removed. -/
structure Confined (other : Location) : Prop where
  goal : ∀ place, tree.resolve other = .ok place → tree.IsDirectory place →
    Inside tree location place
  spot : ∀ directory name, tree.spot other = some (directory, name) →
    Own tree location (directory ++ [name])

/-- Nothing is gained, and nothing is lost but what is to be removed. -/
structure Spared (current : FileTree δ) : Prop where
  within : current.Within tree
  spared : ∀ place, ¬ Own tree location place → current.find place = tree.find place

end

variable {tree : FileTree δ} {location : Location}

theorem Inside.child {directory : Place} (inside : Inside tree location directory)
    (name : String) : Inside tree location (directory ++ [name]) := by
  obtain ⟨root, resolved, isDirectory, below⟩ := inside
  exact ⟨root, resolved, isDirectory, below.trans (List.prefix_append _ _)⟩

theorem confined_start : Confined tree location location.withoutSlash where
  goal place resolved isDirectory := ⟨place, resolved, isDirectory, List.prefix_rfl⟩
  spot directory name spot := .inr ⟨directory, name, spot, rfl⟩

/-- Below a directory of the subtree there is only more of it, or a link. -/
theorem closed_confined
    (noEscape : ∀ directory name goal, ¬ Escape tree location directory name goal) :
    Closed (fun world => Spared tree location world.state) (Confined tree location) := by
  intro world other place name spared confined resolved isDirectory isName
  have resolvedBefore := resolve_within spared.within resolved
  have inside : Inside tree location place :=
    confined.goal place resolvedBefore (spared.within _ _ isDirectory)
  refine ⟨fun goal child isGoal => ?_, fun directory last spot => ?_⟩
  · have leads := leads_of_resolve_child resolvedBefore child
    by_contra outside
    cases leads with
    | dot => exact isName.1 rfl
    | up => exact isName.2 rfl
    | entry _ _ _ _ here =>
        cases here
        exact outside (inside.child name)
    | link isPlace _ found rest =>
        exact noEscape place name goal ⟨inside, isName, ⟨_, found⟩,
          .link isPlace isName found rest, isGoal, outside⟩
  · obtain ⟨rfl, rfl⟩ := spot_child resolvedBefore spot
    exact .inl (inside.child last)

theorem spares_deleteFile (other : Location) (flag : TypeFlag)
    (confined : Confined tree location other) :
    Maintains (fun _ => True) (fun world => Spared tree location world.state)
      (deleteFile other flag) := by
  refine maintains_bind ?_ fun _ => meets_pure fun _ spared => spared
  refine maintains_bind (maintains_call fun _ _ spared => spared) fun goes => ?_
  refine meets_ite (fun _ => ?_) fun _ => meets_pure fun _ spared => spared
  intro oracle _ world spared
  rw [Disk.change, run_get_bind]
  cases removed : world.state.remove other with
  | none => exact spared
  | some after =>
      obtain ⟨directory, name, leaf, spot, _, rfl⟩ := remove_eq_some removed
      have own := confined.spot directory name (spot_within spared.within spot)
      refine ⟨(erase_within leaf).trans spared.within, fun place foreign => ?_⟩
      have different : directory ++ [name] ≠ place := fun same => foreign (same ▸ own)
      rw [← spared.spared place foreign]
      exact (find_erase leaf place).trans (if_neg different)

/-! The other way round: a link that leads out of the subtree is followed. -/

/-- Every call goes through, and each name of a directory is listed once. -/
structure Honest (tree : FileTree δ) (oracle : Oracle Disk) : Prop where
  readdir : ∀ history place, ∃ listed, oracle history (.readdir place) = .listed listed ∧
    listed.Nodup ∧ ∀ name, name ∈ listed ↔ tree.find (place ++ [name]) ≠ none
  remove : ∀ history location, oracle history (.remove location) = true

def inFront (name : Option String) (listed : List String) : List String :=
  match name with
  | none => listed
  | some name => if name ∈ listed then name :: listed.erase name else listed

theorem perm_inFront (name : Option String) (listed : List String) :
    (inFront name listed).Perm listed := by
  cases name with
  | none => exact .refl listed
  | some name =>
      rw [inFront]
      split
      · rename_i member
        exact (List.perm_cons_erase member).symm
      · exact .refl listed

def listingFirst (tree : FileTree δ) (first : Place → Option String) : Oracle Disk
  | _, .readdir place => .listed (inFront (first place) (tree.children place))
  | _, .mkdir _ | _, .remove _ => true
  | _, .copy _ _ => none

theorem honest_listingFirst (tree : FileTree δ) (first : Place → Option String) :
    Honest tree (listingFirst tree first) where
  readdir _ place := ⟨_, rfl, (perm_inFront _ _).nodup_iff.mpr (tree.nodup_children place),
    fun _ => (perm_inFront _ _).mem_iff.trans mem_children⟩
  remove _ _ := rfl

theorem listingFirst_readdir {first : Place → Option String} {place : Place} {name : String}
    (isFirst : first place = some name) (found : tree.find (place ++ [name]) ≠ none)
    (history : History Disk) :
    listingFirst tree first history (.readdir place) =
      .listed (name :: (tree.children place).erase name) := by
  change Listing.listed (inFront (first place) (tree.children place)) = _
  rw [isFirst, inFront, if_pos (mem_children.mpr found)]

section

variable {holds : World Disk (FileTree δ) → Prop} {oracle : Oracle Disk} {other : Location}
  {place : Place} {name : String} {listed : List String}

theorem visit_into (unread : Unread holds)
    (everywhere : ∀ location flag, Maintains (fun _ => True) holds (deleteFile location flag))
    (resolved : tree.resolve other = .ok place) (isDirectory : tree.IsDirectory place)
    {seen : List Place} (unseen : place ∉ seen) (isName : IsName name)
    (history : History Disk) (read : oracle history (.readdir place) = .listed (name :: listed))
    (nesting : Nat)
    (first : holds ((visit true deleteFile nesting (place :: seen) (other.child name)).run
      oracle ⟨tree, history ++ [⟨.readdir place, .listed (name :: listed)⟩]⟩).2) :
    holds ((visit true deleteFile (nesting + 1) seen other).run oracle ⟨tree, history⟩).2 := by
  have anything : Answers (fun _ => True) oracle := fun _ _ => trivial
  have closed : Closed holds fun _ => True := fun _ _ _ _ _ _ _ _ _ => trivial
  have visits (seen : List Place) (location : Location) :
      Maintains (fun _ => True) holds
        (visit true deleteFile nesting seen location : Act Disk Fault (FileTree δ) _) :=
    maintains_visit unread closed (fun location flag _ => everywhere location flag) nesting seen
      trivial
  rw [visit, run_get_bind, resolved]
  dsimp only
  rw [if_pos isDirectory, if_neg unseen, run_ask_bind, read]
  dsimp only
  rw [run_bind, report, if_neg (by decide), run_pure]
  dsimp only
  refine holds_after_bind anything ?_ fun below => ?_
  · rw [visitEach, if_neg (not_or.mpr isName)]
    refine holds_after_bind anything first fun seen => ?_
    cases seen with
    | none => exact meets_pure fun _ holds => holds
    | some seen =>
        exact maintains_visitEach (fun name seen _ => visits seen (other.child name)) listed seen
  · cases below with
    | none => exact meets_pure fun _ holds => holds
    | some seen =>
        exact maintains_bind (maintains_report (everywhere other .directory))
          fun _ => meets_pure fun _ holds => holds

/-- The walk goes down to a link, and over it. -/
theorem holds_of_route (unread : Unread holds)
    (everywhere : ∀ location flag, Maintains (fun _ => True) holds (deleteFile location flag))
    {first : Place → Option String} {directory goal : Place} {root : Place}
    (outside : ¬ root <+: goal) (found : tree.find (directory ++ [name]) ≠ none)
    (leads : Leads tree MAXSYMLINKS directory [name] goal)
    (toward : ∀ place next rest, root <+: place → place ++ next :: rest = directory ++ [name] →
      first place = some next)
    (atGoal : ∀ other nesting seen history, tree.resolve other = .ok goal → goal ∉ seen →
      2 ≤ nesting → holds ((visit true deleteFile nesting seen other).run
        (listingFirst tree first) ⟨tree, history⟩).2)
    (down : List String) {seen : List Place} {nesting : Nat} (history : History Disk)
    (direct : Leads tree 0 other.place other.names place) (below : root <+: place)
    (onRoute : place ++ down = directory)
    (above : ∀ visited ∈ seen, root <+: visited ∧ visited.length < place.length)
    (enough : down.length + 3 ≤ nesting) :
    holds ((visit true deleteFile nesting seen other).run (listingFirst tree first)
      ⟨tree, history⟩).2 := by
  obtain ⟨nesting, rfl⟩ := Nat.exists_eq_add_of_le' (Nat.le_trans (Nat.le_add_left 1 _) enough)
  have unseen : place ∉ seen := fun member => Nat.lt_irrefl _ (above place member).2
  induction down generalizing other place seen nesting history with
  | nil =>
      obtain rfl : place = directory := (List.append_nil place).symm.trans onRoute
      have isDirectory := isDirectory_parent found
      refine visit_into unread everywhere
        (resolve_of_leads (direct.mono (Nat.zero_le _)) isDirectory) isDirectory unseen
        (isName_of_find found) history
        (listingFirst_readdir (toward place name [] below rfl) found history) nesting ?_
      refine atGoal _ _ _ _ (resolve_child (direct.append_of_direct leads)) ?_ (by
        simp only [List.length_nil] at enough
        omega)
      rw [List.mem_cons, not_or]
      exact ⟨fun same => outside (same ▸ below), fun member => outside (above goal member).1⟩
  | cons next rest ih =>
      have whole : place ++ [next] ++ (rest ++ [name]) = directory ++ [name] := by
        rw [← onRoute]
        simp
      obtain ⟨head, tail, more⟩ := List.exists_cons_of_ne_nil (List.append_ne_nil_of_right_ne_nil
        rest (List.cons_ne_nil name []))
      have isDirectory : tree.IsDirectory (place ++ [next]) := by
        rw [more] at whole
        exact isDirectory_of_find_append (whole ▸ found)
      have present : tree.find (place ++ [next]) ≠ none := by
        rw [isDirectory]
        exact nofun
      have isPlace := isDirectory_parent present
      have isName := isName_of_find present
      have isNext : first place = some next :=
        toward place next (rest ++ [name]) below (by rw [← whole]; simp)
      refine visit_into unread everywhere
        (resolve_of_leads (direct.mono (Nat.zero_le _)) isPlace) isPlace unseen isName history
        (listingFirst_readdir isNext present history) nesting ?_
      simp only [List.length_cons] at enough
      obtain ⟨fewer, rfl⟩ := Nat.exists_eq_add_of_le' (show 1 ≤ nesting by omega)
      refine ih _ (direct.append (.entry isPlace isName isDirectory nofun (.here 0 _)))
        (below.trans (List.prefix_append _ _)) ?_ ?_ fewer ?_ ?_
      · rw [List.append_assoc]
        exact onRoute
      · intro visited member
        rw [List.length_append, List.length_singleton]
        rcases List.mem_cons.mp member with rfl | member
        · exact ⟨below, Nat.lt_succ_self _⟩
        · exact ⟨(above visited member).1, Nat.lt_succ_of_lt (above visited member).2⟩
      · omega
      · intro member
        rcases List.mem_cons.mp member with same | member
        · simp at same
        · have less := (above _ member).2
          rw [List.length_append, List.length_singleton] at less
          omega

end

theorem maintains_deleteFile {holds : World Disk (FileTree δ) → Prop}
    (asked : ∀ world event, holds world →
      holds { world with history := world.history ++ [event] })
    (smaller : ∀ world after, after.Within world.state → holds world →
      holds { world with state := after }) (other : Location) (flag : TypeFlag) :
    Maintains (fun _ => True) holds (deleteFile other flag) := by
  refine maintains_bind ?_ fun _ => meets_pure fun _ held => held
  refine maintains_bind (maintains_call fun world _ held => asked world _ held) fun goes => ?_
  refine meets_ite (fun _ => ?_) fun _ => meets_pure fun _ held => held
  intro oracle _ world held
  rw [Disk.change, run_get_bind]
  cases removed : world.state.remove other with
  | none => exact held
  | some after => exact smaller world after (remove_within removed) held

section

variable {first : Place → Option String} {other : Location} {goal : Place} {file : String}

def Opened (goal : Place) (world : World Disk (FileTree δ)) : Prop :=
  ∃ listing, (⟨.readdir goal, listing⟩ : Event Disk) ∈ world.history

theorem opened_asked (world : World Disk (FileTree δ)) (event : Event Disk)
    (opened : Opened goal world) :
    Opened goal { world with history := world.history ++ [event] } := by
  obtain ⟨listed, member⟩ := opened
  exact ⟨listed, List.mem_append_left _ member⟩

theorem opened_deleteFile (other : Location) (flag : TypeFlag) :
    Maintains (fun _ => True) (Opened goal : World Disk (FileTree δ) → Prop)
      (deleteFile other flag) :=
  maintains_deleteFile opened_asked (fun _ _ _ opened => opened) other flag

theorem opened_at_goal (isDirectory : tree.IsDirectory goal) (nesting : Nat)
    (seen : List Place) (history : History Disk) (resolved : tree.resolve other = .ok goal)
    (unseen : goal ∉ seen) (enough : 2 ≤ nesting) :
    Opened goal ((visit true deleteFile nesting seen other).run (listingFirst tree first)
      ⟨tree, history⟩).2 := by
  obtain ⟨nesting, rfl⟩ := Nat.exists_eq_add_of_le' (Nat.le_of_succ_le enough)
  have unread : Unread (Opened goal : World Disk (FileTree δ) → Prop) :=
    fun world _ _ opened => opened_asked world _ opened
  have closed : Closed (Opened goal : World Disk (FileTree δ) → Prop) fun _ => True :=
    fun _ _ _ _ _ _ _ _ _ => trivial
  have visits (seen : List Place) (location : Location) :
      Maintains (fun _ => True) (Opened goal)
        (visit true deleteFile nesting seen location : Act Disk Fault (FileTree δ) _) :=
    maintains_visit unread closed (fun location flag _ => opened_deleteFile location flag)
      nesting seen trivial
  rw [visit, run_get_bind, resolved]
  dsimp only
  rw [if_pos isDirectory, if_neg unseen, run_ask_bind]
  dsimp only [listingFirst]
  rw [run_bind, report, if_neg (by decide), run_pure]
  dsimp only
  suffices rest : Maintains (fun _ => True) (Opened goal) _ from
    rest _ (fun _ _ => trivial) _ ⟨_, List.mem_append_right _ (List.mem_singleton.mpr rfl)⟩
  refine maintains_bind (maintains_visitEach (fun name seen _ => visits seen (other.child name))
    _ _) fun below => ?_
  cases below with
  | none => exact meets_pure fun _ opened => opened
  | some seen =>
      exact maintains_bind (maintains_report (opened_deleteFile other .directory))
        fun _ => meets_pure fun _ opened => opened

def Gone (place : Place) (world : World Disk (FileTree δ)) : Prop := world.state.find place = none

theorem gone_deleteFile {place : Place} (other : Location) (flag : TypeFlag) :
    Maintains (fun _ => True) (Gone place : World Disk (FileTree δ) → Prop)
      (deleteFile other flag) := by
  refine maintains_deleteFile (fun _ _ gone => gone) (fun world after within gone => ?_) other flag
  cases found : after.find place with
  | none => exact found
  | some entry => exact absurd (within place entry found) (by rw [gone]; exact nofun)

theorem gone_at_goal {entry : Entry δ} (found : tree.find (goal ++ [file]) = some entry)
    (notDirectory : entry ≠ .directory) (noLink : ∀ target, entry ≠ .link target)
    (isFirst : first goal = some file) (nesting : Nat) (seen : List Place)
    (history : History Disk) (resolved : tree.resolve other = .ok goal) (unseen : goal ∉ seen)
    (enough : 2 ≤ nesting) :
    Gone (goal ++ [file]) ((visit true deleteFile nesting seen other).run
      (listingFirst tree first) ⟨tree, history⟩).2 := by
  obtain ⟨nesting, rfl⟩ := Nat.exists_eq_add_of_le' enough
  have present : tree.find (goal ++ [file]) ≠ none := by
    rw [found]
    exact nofun
  have isDirectory := isDirectory_parent present
  have isName := isName_of_find present
  have noDirectory : ¬ tree.IsDirectory (goal ++ [file]) := fun isDirectory =>
    notDirectory (Option.some.inj (found.symm.trans isDirectory))
  have leads := leads_of_resolve resolved
  refine visit_into (fun _ _ _ gone => gone) gone_deleteFile resolved isDirectory unseen isName
    history (listingFirst_readdir isFirst present history) (nesting + 1) ?_
  have child : tree.resolve (other.child file) = .ok (goal ++ [file]) :=
    resolve_child (leads.append (.entry isDirectory isName found noLink (.here 0 _)))
  have spot : tree.spot (other.child file) = some (goal, file) :=
    spot_of_leads rfl isName leads isDirectory
  have leaf := isEmpty_of_not_directory noDirectory
  rw [visit, run_get_bind, child]
  dsimp only
  rw [if_neg noDirectory, deleteFile, Disk.remove]
  dsimp only [run_bind, run_ask, listingFirst]
  rw [if_pos rfl, Disk.change, run_get_bind, remove_of_leaf spot present leaf]
  exact (find_erase leaf _).trans (if_pos rfl)

end

def toward (tree : FileTree δ) (directory : Place) (name : String) (goal : Place)
    (file : Option String) : Oracle Disk :=
  listingFirst tree fun place =>
    if place = goal then file else ((directory ++ [name]).drop place.length).head?

section

variable {workingDirectory : Place} {dir : String} {directory goal : Place} {name : String}

theorem holds_of_escape {holds : World Disk (FileTree δ) → Prop} (unread : Unread holds)
    (everywhere : ∀ location flag, Maintains (fun _ => True) holds (deleteFile location flag))
    (located : locate workingDirectory dir = some location)
    (escape : Escape tree location directory name goal) {start : Place}
    (direct : Leads tree 0 location.place location.names start) (file : Option String)
    (atGoal : ∀ other nesting seen history, tree.resolve other = .ok goal → goal ∉ seen →
      2 ≤ nesting → holds ((visit true deleteFile nesting seen other).run
        (toward tree directory name goal file) ⟨tree, history⟩).2) :
    holds ((del workingDirectory dir).run (toward tree directory name goal file)
      ⟨tree, []⟩).2 := by
  obtain ⟨root, resolved, isRoot, below⟩ := escape.inside
  have leads : Leads tree MAXSYMLINKS location.withoutSlash.place location.withoutSlash.names
      root := leads_of_resolve resolved
  obtain rfl : start = root := (direct.mono (Nat.zero_le _)).unique leads
  obtain ⟨down, onRoute⟩ := below
  obtain ⟨target, isLink⟩ := escape.isLink
  have found : tree.find (directory ++ [name]) ≠ none := by
    rw [isLink]
    exact nofun
  have outside : ¬ start <+: goal := fun inside =>
    escape.outside ⟨start, resolved, isRoot, inside⟩
  have size := length_lt_size found
  have deep : down.length + 3 ≤ tree.entries.size + 1 := by
    have nonempty : start ≠ [] := fun empty => outside (empty ▸ List.nil_prefix)
    have positive := List.length_pos_iff.mpr nonempty
    rw [← onRoute, List.length_append, List.length_append, List.length_singleton] at size
    omega
  have onTheWay (place : Place) (next : String) (rest : List String) (inside : start <+: place)
      (same : place ++ next :: rest = directory ++ [name]) :
      (if place = goal then file else ((directory ++ [name]).drop place.length).head?) =
        some next := by
    have notGoal : place ≠ goal := fun isGoal => outside (isGoal ▸ inside)
    rw [if_neg notGoal, ← same, List.drop_left, List.head?_cons]
  have visited : holds ((visit true deleteFile (tree.entries.size + 1) []
      location.withoutSlash).run (toward tree directory name goal file) ⟨tree, []⟩).2 :=
    holds_of_route unread everywhere outside found escape.leads onTheWay atGoal down [] direct
      List.prefix_rfl onRoute (List.forall_mem_nil _) deep
  have anything : Answers (fun _ => True) (toward tree directory name goal file) :=
    fun _ _ => trivial
  rw [del, located]
  dsimp only
  rw [nftw, run_get_bind, resolved]
  dsimp only
  exact holds_after_bind anything visited fun _ => meets_pure fun _ held => held

theorem foreign_file (escape : Escape tree location directory name goal) {start : Place}
    (direct : Leads tree 0 location.place location.names start) {file : String}
    {entry : Entry δ} (found : tree.find (goal ++ [file]) = some entry)
    (notDirectory : entry ≠ .directory) : ¬ Own tree location (goal ++ [file]) := by
  have noDirectory : ¬ tree.IsDirectory (goal ++ [file]) := fun isDirectory =>
    notDirectory (Option.some.inj (found.symm.trans isDirectory))
  obtain ⟨root, resolved, isRoot, below⟩ := escape.inside
  have leads : Leads tree MAXSYMLINKS location.withoutSlash.place location.withoutSlash.names
      root := leads_of_resolve resolved
  obtain rfl : start = root := (direct.mono (Nat.zero_le _)).unique leads
  rintro (⟨root, sameRoot, isDirectory, inside⟩ | ⟨parent, last, spot, same⟩)
  · obtain rfl : start = root := Except.ok.inj (resolved.symm.trans sameRoot)
    rcases List.prefix_concat_iff.mp inside with same | inside
    · exact noDirectory (same ▸ isDirectory)
    · exact escape.outside ⟨start, resolved, isDirectory, inside⟩
  · obtain ⟨front, names, isName, early, _⟩ := spot_eq_some spot
    change location.names = _ at names
    rw [names] at direct
    obtain ⟨middle, fewer, none, toMiddle, toStart⟩ := direct.split
    obtain rfl : middle = parent := (toMiddle.mono (Nat.zero_le _)).unique early
    obtain rfl : fewer = 0 := Nat.le_zero.mp none
    cases toStart with
    | dot => exact isName.1 rfl
    | up => exact isName.2 rfl
    | entry _ _ _ _ here =>
        cases here
        exact noDirectory (same ▸ isRoot)

/-- Without a link out of the subtree nothing else is touched.  With one, the walk may enter
the directory the link leads to, and may remove each file in it. -/
theorem del_confined (located : locate workingDirectory dir = some location) :
    ((∀ directory name goal, ¬ Escape tree location directory name goal) →
      ∀ oracle history place, ¬ Own tree location place →
        ((del workingDirectory dir).run oracle ⟨tree, history⟩).2.state.find place =
          tree.find place) ∧
    ∀ directory name goal start, Escape tree location directory name goal →
      Leads tree 0 location.place location.names start →
      (∃ oracle, Honest tree oracle ∧
        Opened goal ((del workingDirectory dir).run oracle ⟨tree, []⟩).2) ∧
      ∀ file entry, tree.find (goal ++ [file]) = some entry → entry ≠ .directory →
        (∀ target, entry ≠ .link target) →
        ∃ oracle, Honest tree oracle ∧ ¬ Own tree location (goal ++ [file]) ∧
          ((del workingDirectory dir).run oracle ⟨tree, []⟩).2.state.find (goal ++ [file]) =
            none := by
  refine ⟨fun noEscape oracle history place foreign => ?_, ?_⟩
  · rw [del, located]
    exact (maintains_nftw (fun _ _ _ spared => spared) (closed_confined noEscape)
      spares_deleteFile confined_start oracle (fun _ _ => trivial) ⟨tree, history⟩
      ⟨.refl tree, fun _ _ => rfl⟩).spared place foreign
  · intro directory name goal start escape direct
    refine ⟨⟨toward tree directory name goal none, honest_listingFirst tree _, ?_⟩, ?_⟩
    · exact holds_of_escape (fun world _ _ opened => opened_asked world _ opened)
        opened_deleteFile located escape direct none fun other nesting seen history resolved =>
          opened_at_goal escape.isDirectory nesting seen history resolved
    · intro file entry found notDirectory noLink
      refine ⟨toward tree directory name goal (some file), honest_listingFirst tree _, ?_, ?_⟩
      · exact foreign_file escape direct found notDirectory
      · exact holds_of_escape (fun _ _ _ gone => gone) gone_deleteFile located escape direct
          (some file) fun other nesting seen history resolved =>
            gone_at_goal found notDirectory noLink (if_pos rfl) nesting seen history resolved

end

theorem isName_upper : IsName "upper" := by decide

theorem isName_file : IsName "file" := by decide

def linkedOut : FileTree Unit :=
  let upper := bare.put [] "upper" .directory isName_upper bare.root (by decide +kernel)
  let link := upper.put ["upper"] "link" (.link "/home") (by decide) (by decide +kernel)
    (by decide +kernel)
  let home := link.put [] "home" .directory (by decide) link.root (by decide +kernel)
  home.put ["home"] "file" (.regular ()) isName_file (by decide +kernel) (by decide +kernel)

theorem file_removed_through_link :
    ¬ ∀ place, ¬ Own linkedOut ⟨[], ["upper"], false⟩ place →
      ((del [] "/upper").run (listingFirst linkedOut fun _ => none)
        ⟨linkedOut, []⟩).2.state.find place = linkedOut.find place := by
  intro confined
  have resolved : linkedOut.resolve ⟨[], ["upper"], false⟩ = .ok ["upper"] := by decide +kernel
  have foreign : ¬ Own linkedOut ⟨[], ["upper"], false⟩ ["home", "file"] := by
    rintro (⟨root, sameRoot, _, inside⟩ | ⟨directory, name, spot, same⟩)
    · obtain rfl : ["upper"] = root := Except.ok.inj (resolved.symm.trans sameRoot)
      exact absurd inside (by decide)
    · have isSpot : linkedOut.spot ⟨[], ["upper"], false⟩ = some ([], "upper") := by
        decide +kernel
      cases isSpot.symm.trans spot
      exact absurd same (by decide)
  have removed : ((del [] "/upper").run (listingFirst linkedOut fun _ => none)
      ⟨linkedOut, []⟩).2.state.find ["home", "file"] = none := by decide +kernel
  have kept : linkedOut.find ["home", "file"] ≠ none := by decide +kernel
  exact kept ((confined ["home", "file"] foreign).symm.trans removed)

theorem del_confined_linkedOut :
    ((∀ directory name goal, ¬ Escape linkedOut ⟨[], ["upper"], false⟩ directory name goal) →
      ∀ oracle history place, ¬ Own linkedOut ⟨[], ["upper"], false⟩ place →
        ((del [] "/upper").run oracle ⟨linkedOut, history⟩).2.state.find place =
          linkedOut.find place) ∧
    ∀ directory name goal start, Escape linkedOut ⟨[], ["upper"], false⟩ directory name goal →
      Leads linkedOut 0 [] ["upper"] start →
      (∃ oracle, Honest linkedOut oracle ∧
        Opened goal ((del [] "/upper").run oracle ⟨linkedOut, []⟩).2) ∧
      ∀ file entry, linkedOut.find (goal ++ [file]) = some entry → entry ≠ .directory →
        (∀ target, entry ≠ .link target) →
        ∃ oracle, Honest linkedOut oracle ∧
          ¬ Own linkedOut ⟨[], ["upper"], false⟩ (goal ++ [file]) ∧
          ((del [] "/upper").run oracle ⟨linkedOut, []⟩).2.state.find (goal ++ [file]) = none :=
  del_confined (by decide +kernel)

end SoftwareContainers.RecursiveDelete
