import SoftwareContainers.Container.Sys

namespace SoftwareContainers

open Effect Effect.Act

/-! `class FileToolkitWithUndo`, a base of `Container` and `SoftwareContainer`.  Its
state is the list of handlers that undo what was done; the directories created on
the way are the environment's. -/

inductive CleanUpHandler where
  | file (path : String)
  | mount (path : String)
  | overlaySync (src dst : String)
  deriving DecidableEq, Repr

def CleanUpHandler.queryName : CleanUpHandler → String
  | .file path => path
  | _ => ""

abbrev Toolkit := Act Sys Fault (List CleanUpHandler)

namespace Toolkit

def addHandlers (handlers : List CleanUpHandler) : Toolkit PUnit :=
  modify (· ++ handlers)

def pathInList (path : String) : Toolkit Bool := do
  return (← get).any fun element => element.queryName == path

/-- `MountCleanUpHandler::clean`: a lazy unmount, then a forced one. -/
def cleanMount {σ : Type} (path : String) : Act Sys Fault σ Bool := do
  if ← sys (.umount2 path "MNT_DETACH") then
    return true
  else
    sys (.umount2 path "MNT_FORCE")

/-- `CreateDir::createTempDirectoryFromTemplate`. -/
def createTempDirectory (template : String) : Toolkit String := do
  match ← sys (.mkdtemp template) with
  | some dir => return dir
  | none =>
      throw (.softwareContainerError "Failed to create directory from template: ")

def firstBindMount (src dst tmpContainerRoot : String) (writeBufferEnabled : Bool) :
    Toolkit Bool := do
  let overlay ←
    (if writeBufferEnabled then sys (.isDirectory src) else pure false)
  if overlay then
    let root :=
      if tmpContainerRoot = "" then "/tmp/sc-bindmount-"
      else tmpContainerRoot ++ "/bindmount-"
    let upperDir ← createTempDirectory (root ++ "upper-XXXXXX")
    let workDir ← createTempDirectory (root ++ "work-XXXXXX")
    sys (.mount "overlay" dst "overlay" []
      ("lowerdir=" ++ src ++ ",upperdir=" ++ upperDir ++ ",workdir=" ++ workDir))
  else
    sys (.mount src dst "" ["MS_BIND"] "")

def bindMount (src dst tmpContainerRoot : String)
    (readOnly writeBufferEnabled : Bool) : Toolkit Bool := do
  if !(← sys (.existsInFileSystem src)) then
    return false
  else if !(← sys (.existsInFileSystem dst)) then
    return false
  else if !(← firstBindMount src dst tmpContainerRoot writeBufferEnabled) then
    return false
  else if readOnly && !writeBufferEnabled then
    sys (.mount src dst "" ["MS_REMOUNT", "MS_RDONLY", "MS_BIND"] "")
  else
    return true

def createDirectories : List String → Toolkit Bool
  | [] => return true
  | path :: rest => do
      if !(← sys (.createDirectory path)) then
        return false
      else
        createDirectories rest

def overlayMount (lower upper work dst : String) : Toolkit Bool := do
  if !(← createDirectories [lower, upper, work, dst]) then
    return false
  else if !(← sys (.mount "overlay" dst "overlay" []
      ("lowerdir=" ++ lower ++ ",upperdir=" ++ upper ++ ",workdir=" ++ work))) then
    return false
  else
    addHandlers [.mount dst, .overlaySync upper lower]
    return true

def tmpfsMount (dst : String) (maxSize : Int) : Toolkit Bool := do
  if !(← sys (.createDirectory dst)) then
    return false
  else if !(← sys (.mount "tmpfs" dst "tmpfs" [] ("size=" ++ toString maxSize))) then
    return false
  else
    addHandlers [.mount dst]
    return true

def createSharedMountPoint (path : String) : Toolkit Bool := do
  if !(← sys (.mount path path "" ["MS_BIND"] "")) then
    return false
  else if !(← sys (.mount path path "" ["MS_UNBINDABLE"] "")) then
    return false
  else if !(← sys (.mount path path "" ["MS_SHARED"] "")) then
    return false
  else
    addHandlers [.mount path]
    return true

def writeToFile (path content : String) : Toolkit Bool := do
  if !(← sys (.writeToFile path content)) then
    return false
  else if ← pathInList path then
    return true
  else
    addHandlers [.file path]
    return true

end Toolkit

end SoftwareContainers
