import SoftwareContainers.Base.Path
import SoftwareContainers.Container.Toolkit

namespace SoftwareContainers

open Effect Effect.Act

/-! `class FileToolkitWithUndo` with the directories it makes: each call has a `CreateDir` of
its own, which removes them unless it is kept.  What is done in the container is one call. -/

inductive UndoCall where
  | existsInFileSystem (path : String)
  | isDirectory (path : String)
  | mkdir (path : String)
  | mkdtemp (template : String)
  | touch (path : String)
  | unlink (path : String)
  | mount (source target fstype : String) (flags : List String) (data : String)
  | umount2 (path flag : String)
  | recursiveCopy (src dst : String)
  | del (dir : String)
  | ensureContainerRunning
  | executeSync (function : Job)

/-- `del` answers which paths it has removed; `nftw` does not stop at mounts. -/
abbrev UndoCall.Answer : UndoCall → Type
  | .mkdtemp _ => Option String
  | .del _ => Bool × List String
  | _ => Bool

abbrev Undo : Interface := ⟨UndoCall, UndoCall.Answer⟩

/-- The handlers, and the `m_rollbackCleaners` of each `CreateDir` that is kept. -/
structure FileToolkitWithUndo where
  cleanupHandlers : List CleanUpHandler
  createDirList : List (List String)

namespace FileToolkitWithUndo

abbrev Method (α : Type) := Act Undo Fault FileToolkitWithUndo α

def call (call : UndoCall) : Method call.Answer := ask (I := Undo) call

def addHandlers (handlers : List CleanUpHandler) : Method PUnit :=
  modify fun self => { self with cleanupHandlers := self.cleanupHandlers ++ handlers }

def pathInList (path : String) : Method Bool := do
  return (← get).cleanupHandlers.any fun element => element.queryName == path

/-! A `CreateDir` is the list of the directories that it has made. -/

/-- `CreateDir::createDirectory`, which has no end where the depth runs out. -/
def createDirectoryWithin : Nat → String → List String → Method (Bool × List String)
  | 0, _, _ => throw .undefined
  | depth + 1, path, made => do
      if ← call (.isDirectory path) then
        return (true, made)
      else
        let (parentMade, made) ← createDirectoryWithin depth (parentPath path) made
        if !parentMade then
          return (false, made)
        else if !(← call (.mkdir path)) then
          return (false, made)
        else if path ∈ made then
          return (true, made)
        else
          return (true, made ++ [path])

def createDirectory (path : String) (made : List String) : Method (Bool × List String) :=
  createDirectoryWithin (path.length + 2) path made

/-- `DirectoryCleanUpHandler::clean`. -/
def cleanDirectory (path : String) : Method Bool := do
  if !(← call (.existsInFileSystem path)) then
    return true
  else
    return (← call (.del path)).1

def cleanDirectories : List String → Method PUnit
  | [] => return ⟨⟩
  | path :: rest => do
      let _ ← cleanDirectory path
      cleanDirectories rest

/-- `CreateDir::~CreateDir`: the handlers are taken from the back. -/
def destroyCreateDir (made : List String) : Method PUnit := cleanDirectories made.reverse

def keepCreateDir (made : List String) : Method PUnit :=
  modify fun self => { self with createDirList := self.createDirList ++ [made] }

/-- `MountCleanUpHandler::clean`: a lazy unmount, then a forced one. -/
def cleanMount (path : String) : Method Bool := do
  if ← call (.umount2 path "MNT_DETACH") then
    return true
  else
    call (.umount2 path "MNT_FORCE")

def cleanHandler : CleanUpHandler → Method Bool
  | .file path => call (.unlink path)
  | .mount path => cleanMount path
  | .overlaySync src dst => call (.recursiveCopy src dst)

/-- The mount that `bindMount` begins with, and the directories made for it; they are
removed when one of them cannot be made. -/
def firstBindMount (src dst tmpContainerRoot : String) (writeBufferEnabled : Bool) :
    Method (Bool × List String) := do
  let overlay ← (if writeBufferEnabled then call (.isDirectory src) else pure false)
  if overlay then
    let root :=
      if tmpContainerRoot = "" then "/tmp/sc-bindmount-" else tmpContainerRoot ++ "/bindmount-"
    match ← call (.mkdtemp (root ++ "upper-XXXXXX")) with
    | none => throw (.softwareContainerError "Failed to create directory from template: ")
    | some upperDir =>
        match ← call (.mkdtemp (root ++ "work-XXXXXX")) with
        | none =>
            destroyCreateDir [upperDir]
            throw (.softwareContainerError "Failed to create directory from template: ")
        | some workDir =>
            let mounted ← call (.mount "overlay" dst "overlay" []
              ("lowerdir=" ++ src ++ ",upperdir=" ++ upperDir ++ ",workdir=" ++ workDir))
            return (mounted, [upperDir, workDir])
  else
    let mounted ← call (.mount src dst "" ["MS_BIND"] "")
    return (mounted, [])

def bindMount (src dst tmpContainerRoot : String) (readOnly writeBufferEnabled : Bool) :
    Method Bool := do
  if !(← call (.existsInFileSystem src)) then
    return false
  else if !(← call (.existsInFileSystem dst)) then
    return false
  else
    let (mounted, made) ← firstBindMount src dst tmpContainerRoot writeBufferEnabled
    if !mounted then
      destroyCreateDir made
      return false
    else
      let remounted ←
        (if readOnly && !writeBufferEnabled then
          call (.mount src dst "" ["MS_REMOUNT", "MS_RDONLY", "MS_BIND"] "")
        else pure true)
      if !remounted then
        destroyCreateDir made
        return false
      else
        keepCreateDir made
        return true

def createDirectories : List String → List String → Method (Bool × List String)
  | [], made => return (true, made)
  | path :: rest, made => do
      let (created, made) ← createDirectory path made
      if !created then
        return (false, made)
      else
        createDirectories rest made

/-- A mount on directories that are made for it, and the handlers that undo it. -/
def mountOn (directories : List String) (source dst fstype data : String)
    (handlers : List CleanUpHandler) : Method Bool := do
  let (created, made) ← createDirectories directories []
  if !created then
    destroyCreateDir made
    return false
  else if !(← call (.mount source dst fstype [] data)) then
    destroyCreateDir made
    return false
  else
    addHandlers handlers
    keepCreateDir made
    return true

def overlayMount (lower upper work dst : String) : Method Bool :=
  mountOn [lower, upper, work, dst] "overlay" dst "overlay"
    ("lowerdir=" ++ lower ++ ",upperdir=" ++ upper ++ ",workdir=" ++ work)
    [.mount dst, .overlaySync upper lower]

def tmpfsMount (dst : String) (maxSize : Int) : Method Bool :=
  mountOn [dst] "tmpfs" dst "tmpfs" ("size=" ++ toString maxSize) [.mount dst]

/-! The bind mounts of a container. -/

/-- What a container knows of its directories. -/
structure Places where
  containerRoot : String
  writeBufferEnabled : Bool

def Places.gatewaysDir (places : Places) : String := buildPath places.containerRoot "/gateways"

/-- Make the mount appear at `pathInContainer`, in a place created for it. -/
def moveMount (pathInContainer tempDirInContainer tempDirInContainerOnHost : String) :
    Method Bool := do
  if !(← call (.executeSync (.createParentDirectories (parentPath pathInContainer)))) then
    return false
  else
    let target : Job :=
      if ← call (.isDirectory tempDirInContainerOnHost) then
        .createParentDirectories pathInContainer
      else
        .touch pathInContainer
    if !(← call (.executeSync target)) then
      return false
    else
      call (.executeSync (.moveMount tempDirInContainer pathInContainer))

/-- The part of `bindMountCore` behind the mount. -/
def showInContainer (pathInContainer tempDirInContainerOnHost : String) (readonly : Bool) :
    Method Bool := do
  let tempDirInContainer := buildPath "/gateways" (baseName pathInContainer)
  let moved ←
    (if tempDirInContainer ≠ pathInContainer then
      moveMount pathInContainer tempDirInContainer tempDirInContainerOnHost
    else
      pure true)
  if !moved then
    return false
  else if readonly then
    call (.executeSync (.remountReadOnly pathInContainer))
  else
    return true

def bindMountCore (places : Places) (pathInHost pathInContainer tempDirInContainerOnHost : String)
    (readonly : Bool) : Method Bool := do
  if !(← call .ensureContainerRunning) then
    return false
  else
    match pathInContainer.toList.head? with
    | none => throw .undefined
    | some front =>
        if front ≠ '/' then
          return false
        else if !(← bindMount pathInHost tempDirInContainerOnHost places.containerRoot readonly
            places.writeBufferEnabled) then
          return false
        else
          showInContainer pathInContainer tempDirInContainerOnHost readonly

def createMountTarget (pathIsDirectory : Bool) (tempPath : String) :
    Method (Bool × List String) := do
  if pathIsDirectory then
    createDirectory tempPath []
  else if ← pathInList tempPath then
    return (true, [])
  else
    return (← call (.touch tempPath), [])

/-- The target is made, and removed again when the mount fails, also by an exception. -/
def mountAtTarget (places : Places) (pathInHost pathInContainer tempPath : String)
    (pathIsDirectory readOnly : Bool) : Method Bool := do
  let (created, made) ← createMountTarget pathIsDirectory tempPath
  if !created then
    destroyCreateDir made
    return false
  else
    let mounted ← tryCatch (bindMountCore places pathInHost pathInContainer tempPath readOnly)
      fun error => do
        destroyCreateDir made
        throw error
    if !mounted then
      let _ ← cleanMount tempPath
      destroyCreateDir made
      return false
    else
      keepCreateDir made
      addHandlers
        (if pathIsDirectory then [.mount tempPath] else [.file tempPath, .mount tempPath])
      return true

def bindMountInContainer (places : Places) (pathInHost pathInContainer : String)
    (readOnly : Bool) : Method Bool := do
  if !(← call (.existsInFileSystem pathInHost)) then
    return false
  else if !(← call (.executeSync (.checkMountpoint pathInContainer))) then
    return false
  else
    let tempPath := buildPath places.gatewaysDir (baseName pathInContainer)
    let pathIsDirectory ← call (.isDirectory pathInHost)
    mountAtTarget places pathInHost pathInContainer tempPath pathIsDirectory readOnly

/-- The handlers are taken from the back; then the directories that were kept go. -/
def cleanHandlers : List CleanUpHandler → Method PUnit
  | [] => return ⟨⟩
  | handler :: rest => do
      let _ ← cleanHandler handler
      cleanHandlers rest

def destroyEach : List (List String) → Method PUnit
  | [] => return ⟨⟩
  | made :: rest => do
      destroyCreateDir made
      destroyEach rest

/-- `FileToolkitWithUndo::~FileToolkitWithUndo`, and then its members. -/
def destructor : Method PUnit := do
  let self ← get
  cleanHandlers self.cleanupHandlers.reverse
  destroyEach self.createDirList
  set (⟨[], []⟩ : FileToolkitWithUndo)

/-- The calls that mount something. -/
inductive MountCall where
  | bindMountInContainer (pathInHost pathInContainer : String) (readOnly : Bool)
  | bindMount (src dst tmpContainerRoot : String) (readOnly writeBufferEnabled : Bool)
  | overlayMount (lower upper work dst : String)
  | tmpfsMount (dst : String) (maxSize : Int)

def MountCall.act (places : Places) : MountCall → Method Bool
  | .bindMountInContainer pathInHost pathInContainer readOnly =>
      FileToolkitWithUndo.bindMountInContainer places pathInHost pathInContainer readOnly
  | .bindMount src dst tmpContainerRoot readOnly writeBufferEnabled =>
      FileToolkitWithUndo.bindMount src dst tmpContainerRoot readOnly writeBufferEnabled
  | .overlayMount lower upper work dst => FileToolkitWithUndo.overlayMount lower upper work dst
  | .tmpfsMount dst maxSize => FileToolkitWithUndo.tmpfsMount dst maxSize

end FileToolkitWithUndo

end SoftwareContainers
