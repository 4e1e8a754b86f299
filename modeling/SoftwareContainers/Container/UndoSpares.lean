import SoftwareContainers.Container.UndoMounts

namespace SoftwareContainers

open Effect Effect.Act FileSystem

namespace FileToolkitWithUndo

/-! What each method does to the mounts that are held. -/

abbrev Safe {α : Type} (old : List String) (pre : World Undo FileToolkitWithUndo → Prop)
    (post : Except Fault α → World Undo FileToolkitWithUndo → Prop) (act : Method α) : Prop :=
  Secures (Relied old) Spares pre post act

/-- What holds when a method returns, and what holds when it throws. -/
def Ends {α : Type} (returned : α → World Undo FileToolkitWithUndo → Prop)
    (thrown : World Undo FileToolkitWithUndo → Prop) :
    Except Fault α → World Undo FileToolkitWithUndo → Prop
  | .ok value => returned value
  | .error _ => thrown

abbrev Returns {α : Type} (old : List String) (pre : World Undo FileToolkitWithUndo → Prop)
    (after : α → World Undo FileToolkitWithUndo → Prop) (act : Method α) : Prop :=
  Safe old pre (Ends after fun _ => False) act

theorem returns_bind {α β : Type} {old : List String} {pre : World Undo FileToolkitWithUndo → Prop}
    {after : α → World Undo FileToolkitWithUndo → Prop}
    {post : Except Fault β → World Undo FileToolkitWithUndo → Prop}
    {act : Method α} {next : α → Method β} (first : Returns old pre after act)
    (rest : ∀ value, Safe old (after value) post (next value)) : Safe old pre post (act >>= next) :=
  secures_bind _ first rest fun _ _ never => never.elim

theorem Returns.given {α : Type} {old : List String} {pre : World Undo FileToolkitWithUndo → Prop}
    {after : α → World Undo FileToolkitWithUndo → Prop} {act : Method α}
    (returns : Returns old pre after act) (fact : Prop) :
    Returns old (fun world => pre world ∧ fact) (fun value world => after value world ∧ fact)
      act := by
  refine (Secures.given returns fact).weaken (fun _ holds => holds) fun result _ after => ?_
  cases result with
  | ok value => exact after
  | error error => exact after.1

theorem Returns.imp {α : Type} {old : List String} {pre : World Undo FileToolkitWithUndo → Prop}
    {after : α → World Undo FileToolkitWithUndo → Prop}
    {post : Except Fault α → World Undo FileToolkitWithUndo → Prop} {act : Method α}
    (returns : Returns old pre after act)
    (ended : ∀ value world, after value world → post (.ok value) world) :
    Safe old pre post act := by
  refine Secures.weaken returns (fun _ holds => holds) fun result world after => ?_
  cases result with
  | ok value => exact ended value world after
  | error error => exact after.elim

def isPlain : UndoCall → Bool
  | .mount .. | .umount2 .. | .del _ => false
  | _ => true

section

variable {α : Type} {old made : List String} {pending away : List Place} {path dst : String}
  {world : World Undo FileToolkitWithUndo}

theorem Held.plain {call : UndoCall} {answer : call.Answer}
    (held : Held old made pending away world) (plain : isPlain call = true) :
    Held old made pending away { world with history := world.history ++ [⟨call, answer⟩] } := by
  have same : mountsAfter (mountsOf world.history) ⟨call, answer⟩ = mountsOf world.history := by
    cases call with
    | mount | umount2 | del => cases plain
    | _ => rfl
  refine held.record fun other handled _ most => ?_
  rw [same]
  exact most

theorem spares_plain {call : UndoCall} (plain : isPlain call = true) (before : History Undo)
    (answer : call.Answer) : Spares before ⟨call, answer⟩ := by
  cases call with
  | mount | umount2 | del => cases plain
  | _ => trivial

theorem Held.free (held : Held old made [] away world) (member : path ∈ made) :
    Free (mountsOf world.history) path := by
  intro mounted isMounted below
  have some : 0 < mountedAt (mountsOf world.history) mounted.place :=
    List.countP_pos_iff.mpr ⟨mounted, isMounted, by simp⟩
  have none := held.own mounted.place ⟨path, member, below⟩
  rw [List.count_nil] at none
  omega

theorem safe_plain {call : UndoCall} (plain : isPlain call = true) :
    Returns old (Held old made pending away) (fun _ => Held old made pending away)
      (FileToolkitWithUndo.call call) :=
  secures_ask call fun world answer held _ =>
    ⟨spares_plain plain world.history answer, held.plain plain⟩

theorem safe_plain_bind {call : UndoCall} (plain : isPlain call = true)
    {post : Except Fault α → World Undo FileToolkitWithUndo → Prop}
    {next : call.Answer → Method α}
    (rest : ∀ answer, Safe old (Held old made pending away) post (next answer)) :
    Safe old (Held old made pending away) post (FileToolkitWithUndo.call call >>= next) :=
  returns_bind (safe_plain plain) rest

theorem safe_mkdir (path : String) :
    Returns old (Held old made pending away)
      (fun done => Held old (if done then made ++ [path] else made) pending away)
      (call (.mkdir path)) := by
  refine secures_ask (I := Undo) (.mkdir path) fun world done held relied => ⟨trivial, ?_⟩
  cases done with
  | false => exact held.plain rfl
  | true =>
      refine (held.plain rfl).create ?_ ?_
      · rw [mountsOf_concat]
        exact relied.1 rfl
      · rw [madeIn_concat]
        exact List.mem_append_right _ List.mem_cons_self

theorem safe_mount (source target fstype : String) (flags : List String) (data : String) :
    Returns old (Held old made pending away)
      (fun done => Held old made (if done then place target :: pending else pending) away)
      (call (.mount source target fstype flags data)) := by
  refine secures_ask (I := Undo) (.mount source target fstype flags data)
    fun world done held _ => ⟨trivial, ?_⟩
  cases done with
  | false => exact held.record fun _ _ _ most => most
  | true => exact held.mount

theorem safe_remount (source target fstype : String) {flags : List String} (data : String)
    (changes : changesMount flags = true) :
    Returns old (Held old made pending away) (fun _ => Held old made pending away)
      (call (.mount source target fstype flags data)) := by
  refine secures_ask (I := Undo) (.mount source target fstype flags data)
    fun world done held _ => ?_
  refine ⟨trivial, held.record fun _ _ _ most => ?_⟩
  rw [mountsAfter, changes, Bool.not_true, Bool.and_false, if_neg Bool.false_ne_true]
  exact most

/-! What is removed is what the call has made. -/

theorem safe_del (member : path ∈ made) :
    Returns old (Held old made [] away) (fun _ => Held old made [] away) (call (.del path)) := by
  refine secures_ask (I := Undo) (.del path) fun world _ held _ => ?_
  exact ⟨fun mounted isMounted _ below => (held.free member mounted isMounted below).elim,
    held.record fun _ _ _ most => most⟩

theorem safe_cleanDirectory (member : path ∈ made) :
    Returns old (Held old made [] away) (fun _ => Held old made [] away) (cleanDirectory path) := by
  refine safe_plain_bind rfl fun isThere => secures_ite (fun _ => ?_) fun _ => ?_
  · exact secures_pure fun _ held => held
  · exact returns_bind (safe_del member) fun _ => secures_pure fun _ held => held

theorem safe_cleanDirectories {paths : List String} (mine : paths ⊆ made) :
    Returns old (Held old made [] away) (fun _ => Held old made [] away)
      (cleanDirectories paths) := by
  induction paths with
  | nil => exact secures_pure fun _ held => held
  | cons path rest ih =>
      obtain ⟨member, mine⟩ := List.cons_subset.mp mine
      exact returns_bind (safe_cleanDirectory member) fun _ => ih mine

theorem safe_destroyCreateDir {own : List String} (mine : own ⊆ made) :
    Returns old (Held old made [] away) (fun _ => Held old made [] away) (destroyCreateDir own) :=
  safe_cleanDirectories fun _ member => mine (List.mem_reverse.mp member)

theorem safe_createDirectoryWithin (depth : Nat) (path : String) (made : List String) :
    Safe old (Held old made pending away)
      (Ends (fun result => Held old result.2 pending away) (Held old [] pending away))
      (createDirectoryWithin depth path made) := by
  induction depth generalizing path made with
  | zero => exact secures_throw fun _ held => held.forget (List.nil_subset _)
  | succ depth ih =>
      refine safe_plain_bind rfl fun isThere => secures_ite (fun _ => ?_) fun _ => ?_
      · exact secures_pure fun _ held => held
      · refine secures_bind _ (ih (parentPath path) made) (fun result => ?_)
          fun _ _ held => held
        obtain ⟨parentMade, made⟩ := result
        refine secures_ite (fun _ => secures_pure fun _ held => held) fun _ => ?_
        refine returns_bind (safe_mkdir path) fun done => ?_
        cases done with
        | false => exact secures_pure fun _ held => held
        | true =>
            refine secures_ite (fun never => absurd never Bool.false_ne_true) fun _ => ?_
            refine secures_ite (fun _ => ?_) fun _ => ?_
            · exact secures_pure fun _ held => held.forget (List.subset_append_left _ _)
            · exact secures_pure fun _ held => held

theorem safe_createDirectories (paths made : List String) :
    Safe old (Held old made pending away)
      (Ends (fun result => Held old result.2 pending away) (Held old [] pending away))
      (createDirectories paths made) := by
  induction paths generalizing made with
  | nil => exact secures_pure fun _ held => held
  | cons path rest ih =>
      refine secures_bind _ (safe_createDirectoryWithin _ path made) (fun result => ?_)
        fun _ _ held => held
      obtain ⟨created, made⟩ := result
      exact secures_ite (fun _ => secures_pure fun _ held => held) fun _ => ih made

/-! What has been mounted is unmounted, or a handler is there for it. -/

theorem safe_umount2 (path flag : String) :
    Returns old (Held old made (place path :: pending) away)
      (fun done => Held old made (if done then pending else place path :: pending) away)
      (call (.umount2 path flag)) := by
  refine secures_ask (I := Undo) (.umount2 path flag) fun world done held _ => ⟨trivial, ?_⟩
  cases done with
  | false => exact held.record fun _ _ _ most => most
  | true => exact held.unmount

theorem safe_cleanMount (path : String) :
    Returns old (Held old made (place path :: pending) away) (fun _ => Held old made pending away)
      (cleanMount path) := by
  refine returns_bind (safe_umount2 path "MNT_DETACH") fun done => ?_
  cases done with
  | true => exact secures_pure fun _ held => held
  | false =>
      refine secures_ask (I := Undo) (.umount2 path "MNT_FORCE")
        fun world forced held relied => ⟨trivial, ?_⟩
      cases forced with
      | true => exact held.unmount
      | false => exact held.notMounted (relied.2 rfl rfl)

theorem safe_keepCreateDir {own : List String} :
    Returns old
      (fun world => Held old (made ++ own) pending away world ∧ ∀ other ∈ away, ¬ In own other)
      (fun _ => Held old made pending away) (keepCreateDir own) := by
  refine secures_modify fun world holds => ?_
  obtain ⟨held, isAway⟩ := holds
  obtain ⟨madeMine, ownMine⟩ := List.append_subset.mp held.ownMade
  constructor
  · intro dirs member
    rcases List.mem_append.mp member with member | member
    · exact held.keptMade dirs member
    · obtain rfl := List.mem_singleton.mp member
      exact ownMine
  · exact madeMine
  · intro dirs member other inside
    rcases List.mem_append.mp member with member | member
    · exact held.kept dirs member other inside
    · obtain rfl := List.mem_singleton.mp member
      exact (held.own other ((in_append _ _ _).mpr (.inr inside))).trans (Nat.le_add_left _ _)
  · intro other inside
    exact held.own other ((in_append _ _ _).mpr (.inl inside))
  · intro other isOther dirs member inside
    rcases List.mem_append.mp member with member | member
    · exact held.away other isOther dirs member inside
    · obtain rfl := List.mem_singleton.mp member
      exact isAway other isOther inside

theorem undoneAt_eq (handlers : List CleanUpHandler) (other : Place) :
    undoneAt handlers other = (handlers.filterMap unmountedBy).count other := by
  rw [undoneAt, List.count_filterMap]
  exact List.countP_congr fun handler _ => by simp

theorem undoneAt_append (handlers more : List CleanUpHandler) (other : Place) :
    undoneAt (handlers ++ more) other =
      undoneAt handlers other + (more.filterMap unmountedBy).count other := by
  rw [undoneAt, List.countP_append, ← undoneAt, ← undoneAt, undoneAt_eq more]

theorem safe_addHandlers {handlers : List CleanUpHandler}
    (undone : handlers.filterMap unmountedBy = pending) :
    Returns old (Held old [] pending away) (fun _ => Held old [] [] away)
      (addHandlers handlers) := by
  refine secures_modify fun world held =>
    ⟨held.keptMade, held.ownMade, fun dirs member other inside => ?_, ?_, held.away⟩
  · rw [undoneAt_append, undone, List.count_nil, Nat.add_zero]
    exact held.kept dirs member other inside
  · exact fun other inside => (not_in_nil other inside).elim

end

end FileToolkitWithUndo

end SoftwareContainers
