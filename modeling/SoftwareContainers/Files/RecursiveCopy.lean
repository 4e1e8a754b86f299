import Mathlib.Data.List.Infix
import Mathlib.Data.List.TakeWhile
import SoftwareContainers.Base.Fault
import SoftwareContainers.Files.Paths
import SoftwareContainers.FileSystem.Copy
import SoftwareContainers.FileSystem.PlainWalk

namespace SoftwareContainers

open Effect Effect.Act FileSystem FileSystem.FileTree

/-! `class RecursiveCopy`, and `OverlaySyncCleanupHandler`, which uses it. -/

variable {β : Type}

/-- The path that `ftw` reports: slashes at the end of the directory are dropped. -/
def walkedPath (dir : String) (below : List String) : String :=
  let top := match dropTrailingSlashes dir.toList with
    | [] => "/"
    | path => String.ofList path
  below.foldl
    (fun path name => if endsWithSlash path then path ++ name else path ++ "/" ++ name) top

def dstPathOf (srcRoot dstRoot srcPath : String) : String :=
  if srcRoot.toList <:+: srcPath.toList then
    buildPath dstRoot (String.ofList (srcPath.toList.drop srcRoot.length))
  else buildPath dstRoot srcPath

/-- The switch over the type of an entry: what `mkdir` and the streams do is not looked at,
and other entries are passed over. -/
def copyEntry (location : Location) (flag : TypeFlag) (dstPath : Option Location) :
    Act Disk Fault (FileTree (List β)) PUnit :=
  match dstPath, flag with
  | some target, .directory => do
      let _ ← Disk.mkdir target
      return ⟨⟩
  | some target, .file => do
      let _ ← Disk.copy location target
      return ⟨⟩
  | _, _ => return ⟨⟩

def copyFile (workingDirectory : Place) (srcRoot dstRoot : String) :
    Visitor Fault (List β) := fun location flag =>
  let srcPath := walkedPath srcRoot (location.names.drop (names srcRoot).length)
  copyEntry location flag (locate workingDirectory (dstPathOf srcRoot dstRoot srcPath))

/-- `RecursiveCopy::copy`: `ftw` is `nftw` that reports a directory first. -/
def RecursiveCopy.copy (workingDirectory : Place) (src dst : String) :
    Act Disk Fault (FileTree (List β)) Bool :=
  match locate workingDirectory src with
  | none => return false
  | some location => nftw false (copyFile workingDirectory src dst) location

structure OverlaySyncCleanupHandler where
  src : String
  dst : String

def OverlaySyncCleanupHandler.clean (workingDirectory : Place)
    (handler : OverlaySyncCleanupHandler) : Act Disk Fault (FileTree (List β)) Bool :=
  RecursiveCopy.copy workingDirectory handler.src handler.dst

namespace RecursiveCopy

/-! The path of the copy. -/

theorem names_below (location : Location) (rest : List String) :
    (location.below rest).names = location.names ++ rest := by
  induction rest using List.reverseRecOn with
  | nil => exact (List.append_nil _).symm
  | append_singleton front name ih =>
      rw [Location.below_concat, Location.child, ih, List.append_assoc]

theorem dropTrailingSlashes_of_noSlash {text : String} (noSlash : endsWithSlash text = false) :
    dropTrailingSlashes text.toList = text.toList := by
  rcases List.eq_nil_or_concat text.toList with empty | ⟨front, last, same⟩
  · rw [empty]
    rfl
  · rw [endsWithSlash, same, List.concat_eq_append, List.getLast?_concat] at noSlash
    rw [same, List.concat_eq_append, dropTrailingSlashes, List.reverse_append,
      List.reverse_singleton, List.singleton_append,
      List.dropWhile_cons_of_neg (by simpa using noSlash), List.reverse_cons,
      List.reverse_reverse]

theorem endsWithSlash_append {name : String} (isName : IsFileName name) (path : List Char) :
    endsWithSlash (String.ofList (path ++ name.toList)) = false := by
  have nonempty : name.toList ≠ [] := by simpa using isName.1
  rw [endsWithSlash, String.toList_ofList, List.getLast?_append_of_ne_nil _ nonempty,
    List.getLast?_eq_getLast_of_ne_nil nonempty]
  have last := List.getLast_mem nonempty
  rw [decide_eq_false_iff_not]
  intro isSlash
  exact isName.2 (Option.some.inj isSlash ▸ last)

theorem walkedPath_eq {dir : String} (nonempty : dir ≠ "") (noSlash : endsWithSlash dir = false)
    {rest : List String} (areNames : ∀ name ∈ rest, IsFileName name) :
    walkedPath dir rest = String.ofList (dir.toList ++ textBelow rest) := by
  have walk : ∀ path : List Char, endsWithSlash (String.ofList path) = false →
      rest.foldl (fun path name =>
        if endsWithSlash path then path ++ name else path ++ "/" ++ name) (String.ofList path) =
        String.ofList (path ++ textBelow rest) := by
    induction rest with
    | nil =>
        intro path _
        rw [textBelow, List.flatMap_nil, List.append_nil]
        rfl
    | cons name rest ih =>
        intro path noSlash
        have isName := areNames name List.mem_cons_self
        have step : String.ofList path ++ "/" ++ name =
            String.ofList (path ++ '/' :: name.toList) :=
          String.toList_inj.mp (by simp)
        rw [List.foldl_cons, if_neg (by rw [noSlash]; exact Bool.false_ne_true), step,
          ih (fun other member => areNames other (List.mem_cons_of_mem _ member)) _ ?_]
        · rw [textBelow, textBelow, List.flatMap_cons, List.append_assoc, List.cons_append]
        · have ends := endsWithSlash_append isName (path ++ ['/'])
          rwa [List.append_assoc] at ends
  rw [walkedPath, dropTrailingSlashes_of_noSlash noSlash]
  split
  · rename_i empty
    exact absurd (String.toList_eq_nil_iff.mp empty) nonempty
  · rw [String.ofList_toList]
    have walked := walk dir.toList (by rwa [String.ofList_toList])
    rwa [String.ofList_toList] at walked

theorem textBelow_concat (front : List String) (name : String) :
    textBelow (front ++ [name]) = textBelow front ++ '/' :: name.toList := by
  rw [textBelow, textBelow, List.flatMap_append, List.flatMap_singleton]

theorem below_concat (location : Location) (rest : List String) (name : String) :
    location.below (rest ++ [name]) =
      ⟨location.place, location.names ++ (rest ++ [name]), false⟩ := by
  have samePlace : (location.below rest).place = location.place := by
    induction rest using List.reverseRecOn with
    | nil => rfl
    | append_singleton front name ih => rw [Location.below_concat, Location.child, ih]
  rw [Location.below_concat, Location.child, names_below, samePlace, List.append_assoc]

theorem buildPath_textBelow {dst name : String} (nonempty : dst ≠ "") (isName : IsFileName name)
    (rest : List String) :
    buildPath dst (String.ofList (textBelow (name :: rest))) =
      String.ofList (dropTrailingSlashes dst.toList ++ textBelow (name :: rest)) := by
  obtain ⟨head, tail, same⟩ := List.exists_cons_of_ne_nil
    (show name.toList ≠ [] by simpa using isName.1)
  have noSlash : head ≠ '/' := fun isSlash => isName.2 (by simp [same, isSlash])
  rw [buildPath, if_neg nonempty, if_neg (by simp [textBelow]), String.toList_ofList, textBelow,
    List.flatMap_cons, List.cons_append, List.dropWhile_cons_of_pos rfl, same, List.cons_append,
    List.dropWhile_cons_of_neg (by simpa using noSlash)]

theorem isAbsolute_below {dst : String} (nonempty : dst ≠ "") (name : String)
    (rest : List String) :
    isAbsolute (String.ofList (dropTrailingSlashes dst.toList ++ textBelow (name :: rest))) =
      isAbsolute dst := by
  obtain ⟨head, tail, same⟩ := List.exists_cons_of_ne_nil
    (show dst.toList ≠ [] by simpa using nonempty)
  rw [isAbsolute, isAbsolute, String.toList_ofList, same]
  cases dropped : dropTrailingSlashes (head :: tail) with
  | nil =>
      have allSlashes : head = '/' := by
        rw [dropTrailingSlashes, List.reverse_eq_nil_iff] at dropped
        simpa using List.dropWhile_eq_nil_iff.mp dropped head (by simp)
      rw [textBelow, List.flatMap_cons, allSlashes]
      rfl
  | cons first others =>
      have isPrefix : dropTrailingSlashes (head :: tail) <+: head :: tail := by
        rw [dropTrailingSlashes, ← List.reverse_suffix, List.reverse_reverse]
        exact List.dropWhile_suffix _
      rw [dropped] at isPrefix
      rw [(List.cons_prefix_cons.mp isPrefix).1]
      rfl

theorem locate_dstPath {workingDirectory : Place} {src dst : String} {target : Location}
    (nonempty : src ≠ "") (noSlash : endsWithSlash src = false)
    (located : locate workingDirectory dst = some target) {rest : List String}
    (areNames : ∀ name ∈ rest, IsFileName name) :
    locate workingDirectory (dstPathOf src dst (walkedPath src rest)) =
      some (target.below rest) := by
  have isTarget : dst ≠ "" ∧ target = ⟨start workingDirectory dst, names dst, endsWithSlash dst⟩ := by
    rw [locate] at located
    split at located
    · cases located
    · exact ⟨‹_›, (Option.some.inj located).symm⟩
  have inside : src.toList <:+: (src.toList ++ textBelow rest) := List.infix_append' [] _ _
  rw [walkedPath_eq nonempty noSlash areNames, dstPathOf, String.toList_ofList, if_pos inside,
    ← String.length_toList, List.drop_left]
  cases rest with
  | nil =>
      rw [textBelow, List.flatMap_nil, buildPath, if_neg isTarget.1, if_pos rfl]
      exact located
  | cons name rest =>
      have isName := areNames name List.mem_cons_self
      have ends : endsWithSlash (String.ofList
          (dropTrailingSlashes dst.toList ++ textBelow (name :: rest))) = false := by
        obtain ⟨front, last, same⟩ := (List.eq_nil_or_concat (name :: rest)).resolve_left
          (List.cons_ne_nil _ _)
        rw [List.concat_eq_append] at same
        rw [same, textBelow_concat, ← List.singleton_append, ← List.append_assoc,
          ← List.append_assoc]
        exact endsWithSlash_append (areNames last (by rw [same]; simp)) _
      rw [buildPath_textBelow isTarget.1 isName, locate, if_neg (by simp [textBelow]),
        names_textBelow areNames, names_trailingSlashes, String.ofList_toList, start,
        isAbsolute_below isTarget.1, ends]
      obtain ⟨front, last, same⟩ := (List.eq_nil_or_concat (name :: rest)).resolve_left
        (List.cons_ne_nil _ _)
      rw [List.concat_eq_append] at same
      rw [same, below_concat, isTarget.2]
      rfl

end RecursiveCopy

end SoftwareContainers
