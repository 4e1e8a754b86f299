import SoftwareContainers.Base.Path
import SoftwareContainers.Base.Text
import SoftwareContainers.Container.Child
import SoftwareContainers.Container.Toolkit

namespace SoftwareContainers

open Effect Effect.Act

/-! `class Container`: one LXC container and the state the program believes it in.
Every call to LXC is recorded together with that state, but for those that only a log line
needs. -/

structure Container where
  id : String
  configFile : String
  rootFSPath : String
  containerRoot : String
  writeBufferEnabled : Bool
  hasContainer : Bool
  gatewayEnvironmentVariables : EnvironmentVariables
  shutdownTimeout : Int
  state : Container.ContainerState
  cleanupHandlers : List CleanUpHandler

namespace Container

abbrev Method := Act Sys Fault Container

def new (id configFile containerRoot : String) (writeBufferEnabled : Bool)
    (shutdownTimeout : Int) : Container where
  id := id
  configFile := configFile
  rootFSPath := ""
  containerRoot := containerRoot
  writeBufferEnabled := writeBufferEnabled
  hasContainer := false
  gatewayEnvironmentVariables := ∅
  shutdownTimeout := shutdownTimeout
  state := .default
  cleanupHandlers := []

def toolkitLens : Lens Container (List CleanUpHandler) where
  get := cleanupHandlers
  set cleanupHandlers self := { self with cleanupHandlers }
  get_set _ _ := rfl
  set_set _ _ _ := rfl

def toolkit {α : Type} (act : Toolkit α) : Method α := zoom toolkitLens act

def lxc (call : LxcCall) : Method call.Answer := do
  let self ← get
  sys (.lxc self.id self.state call)

def setState (state : ContainerState) : Method PUnit :=
  modify fun self => { self with state }

abbrev GATEWAYS_PATH := "/gateways"
abbrev LXCTEMPLATE := "lxc-softwarecontainer"
abbrev INVALID_PID : Int := -1

def gatewaysDir (self : Container) : String :=
  buildPath self.containerRoot GATEWAYS_PATH

/-- `initialize`, a word Lean keeps for itself. -/
def initializeContainer : Method Bool := do
  let self ← get
  if self.state.value < ContainerState.prepared.value then
    if !(← sys (.createDirectory self.gatewaysDir)) then
      return false
    else if !(← toolkit (Toolkit.createSharedMountPoint self.gatewaysDir)) then
      return false
    else
      setState .prepared
      return true
  else
    return true

def rollbackCreate : Method Bool := do
  if (← get).hasContainer then
    lxc .put
    modify fun self => { self with hasContainer := false }
    return false
  else
    return false

/-- The file system part of `create`; what `overlayMount` returns is not looked at. -/
def mountRootFS : Method PUnit := do
  let root ← sys (.globalConfigItem "lxc.lxcpath")
  modify fun self =>
    { self with rootFSPath := buildPath (buildPath root self.id) "rootfs" }
  let self ← get
  if self.writeBufferEnabled then
    let _ ← toolkit (Toolkit.overlayMount
      (self.containerRoot ++ "/rootfs-lower") (self.containerRoot ++ "/rootfs-upper")
      (self.containerRoot ++ "/rootfs-work") self.rootFSPath)
    return ⟨⟩
  else
    return ⟨⟩

def create : Method Bool := do
  let self ← get
  if self.state.value ≥ ContainerState.created.value then
    return false
  else if self.id = "" then
    return false
  else
    sys (.setenv "GATEWAY_DIR" self.gatewaysDir)
    if !(← lxc .containerNew) then
      rollbackCreate
    else
      modify fun self => { self with hasContainer := true }
      if ← lxc .isDefined then
        rollbackCreate
      else if !(← lxc (.loadConfig self.configFile)) then
        rollbackCreate
      else
        mountRootFS
        if !(← lxc (.create LXCTEMPLATE)) then
          modify fun self => { self with rootFSPath := "" }
          rollbackCreate
        else
          setState .created
          return true

/-- A true answer of `wait` is taken for the end of the time. -/
def waitForState (state : String) (timeout : Int) : Method Bool := do
  let currentState ← lxc .state
  if currentState ≠ state then
    let expired ← lxc (.wait state timeout)
    return !expired
  else
    return true

def ensureContainerRunning : Method Bool := do
  let self ← get
  if self.state = .frozen then
    return false
  else if self.state.value < ContainerState.started.value then
    return false
  else if !(← lxc .isRunning) then
    waitForState "RUNNING" 20
  else
    return true

def start : Method Bool := do
  let self ← get
  if self.state.value < ContainerState.created.value then
    return false
  else if !(← lxc (.start ["env", "/bin/sleep", "100000000"])) then
    return false
  else
    let _ ← lxc .initPid
    setState .started
    ensureContainerRunning

def setCgroupItem (subsys value : String) : Method Bool :=
  lxc (.setCgroupItem subsys value)

/-- The variables given to the process, and those set by gateways that are not among them. -/
def actualVariables (self : Container) (environment : EnvironmentVariables) :
    EnvironmentVariables :=
  self.gatewayEnvironmentVariables.toList.foldl
    (fun actual var =>
      if environment.contains var.1 then actual else actual.insert var.1 var.2)
    environment

/-- Start a function; the pid is left as it was when that fails. -/
def execute (function : Job) (pid : Int) (environment : EnvironmentVariables)
    (stdin stdout stderr : Int) : Method (Bool × Int) := do
  if !(← ensureContainerRunning) then
    return (false, pid)
  else
    let self ← get
    let strings := (self.actualVariables environment).toList.map fun var =>
      var.1 ++ "=" ++ var.2
    match ← lxc (.attach function strings stdin stdout stderr) with
    | some attached => return (true, attached)
    | none => return (false, pid)

def executeCommand (shellParseArgv : String → Option (List String))
    (commandLine : String) (pid : Int) (environment : EnvironmentVariables)
    (workingDirectory : String) (stdin stdout stderr : Int) :
    Method (Bool × Int) := do
  if !(← ensureContainerRunning) then
    return (false, pid)
  else
    match shellParseArgv commandLine with
    | none => throw .shellError
    | some arguments =>
        execute (.command arguments workingDirectory) pid environment
          stdin stdout stderr

/-- A function that was started and waited for: how its process ended, if there is
one, and what `waitpid` answered. -/
structure FunctionRun where
  started : Bool
  pid : Int
  fate : Option WaitStatus
  waited : Option WaitStatus
  deriving DecidableEq, Repr

/-- `waitForProcessTermination`: the status variable stays 0 when `waitpid` fails.
The status of a process started here is how it ended. -/
def FunctionRun.exitStatus (run : FunctionRun) : Nat :=
  match run.waited with
  | none => 0
  | some status => (run.fate.getD status).exitStatus

/-- Start a function and wait for it. -/
def runFunction (function : Job) (pid : Int) (stdin stdout stderr : Int) :
    Method FunctionRun := do
  let (started, pid) ← execute function pid ∅ stdin stdout stderr
  let fate ← (if started then some <$> Child.run function else pure none)
  let waited ← sys (.waitpid pid)
  return { started, pid, fate, waited }

def executeSync (function : Job) (pid : Int) : Method (Bool × Int) := do
  let run ← runFunction function pid (-1) 1 2
  return (run.started && run.exitStatus == 0, run.pid)

/-- `start` and `wait` of a `FunctionJob`; what `start` returns is not looked at. -/
def runFunctionJob (function : Job) : Method FunctionRun :=
  runFunction function 0 (-1) (-1) (-1)

def stop : Method Bool := do
  let self ← get
  if self.state.value ≥ ContainerState.started.value then
    if ← lxc .stop then
      let _ ← waitForState "STOPPED" 20
      return true
    else
      return false
  else
    return false

def killInit : Method PUnit := do
  if (← lxc .initPid) ≠ INVALID_PID then
    sys (.kill (← lxc .initPid))
  else
    return ⟨⟩

def shutdown (timeout : Int) : Method Bool := do
  let self ← get
  if self.state.value < ContainerState.started.value then
    return false
  else
    killInit
    let success ← lxc (.shutdown timeout)
    let stopped ← (if success then pure true else stop)
    if !stopped then
      return false
    else
      setState .created
      return true

/-- The overlay is in the way of `destroy` until it is unmounted. -/
def unmountRootFS : Method Bool := do
  let self ← get
  if self.writeBufferEnabled then
    sys (.umount self.rootFSPath)
  else
    return true

def destroy (timeout : Int) : Method Bool := do
  let self ← get
  if self.state.value < ContainerState.created.value then
    return false
  else
    let stopped ←
      (if self.state.value ≥ ContainerState.started.value then shutdown timeout
      else pure true)
    if !stopped then
      return false
    else if !(← unmountRootFS) then
      return false
    else if !(← lxc .destroy) then
      return false
    else
      setState .destroyed
      return true

def remountReadOnlyInContainer (path : String) : Method Bool := do
  let (ret, _) ← executeSync (.remountReadOnly path) INVALID_PID
  return ret

/-- Make the mount appear at `pathInContainer`, in a place created for it. -/
def moveMount (pathInContainer tempDirInContainer tempDirInContainerOnHost : String) :
    Method Bool := do
  let (parentCreated, pid) ←
    executeSync (.createParentDirectories (parentPath pathInContainer)) INVALID_PID
  if !parentCreated then
    return false
  else
    let target : Job :=
      if ← sys (.isDirectory tempDirInContainerOnHost) then
        .createParentDirectories pathInContainer
      else
        .touch pathInContainer
    let (targetCreated, pid) ← executeSync target pid
    if !targetCreated then
      return false
    else
      let (moved, _) ←
        executeSync (.moveMount tempDirInContainer pathInContainer) pid
      return moved

def bindMountCore (pathInHost pathInContainer tempDirInContainerOnHost : String)
    (readonly : Bool) : Method Bool := do
  if !(← ensureContainerRunning) then
    return false
  else
    match pathInContainer.toList.head? with
    | none => throw .undefined
    | some front =>
        let self ← get
        if front ≠ '/' then
          return false
        else if !(← toolkit (Toolkit.bindMount pathInHost tempDirInContainerOnHost
            self.containerRoot readonly self.writeBufferEnabled)) then
          return false
        else
          let tempDirInContainer := buildPath GATEWAYS_PATH (baseName pathInContainer)
          let moved ←
            (if tempDirInContainer ≠ pathInContainer then
              moveMount pathInContainer tempDirInContainer tempDirInContainerOnHost
            else
              pure true)
          if !moved then
            return false
          else if readonly then
            remountReadOnlyInContainer pathInContainer
          else
            return true

def createMountTarget (pathIsDirectory : Bool) (tempPath : String) : Method Bool := do
  if pathIsDirectory then
    sys (.createDirectory tempPath)
  else if ← toolkit (Toolkit.pathInList tempPath) then
    return true
  else
    sys (.touch tempPath)

def bindMountInContainer (pathInHost pathInContainer : String) (readOnly : Bool) :
    Method Bool := do
  if !(← sys (.existsInFileSystem pathInHost)) then
    return false
  else
    let (notMounted, _) ← executeSync (.checkMountpoint pathInContainer) INVALID_PID
    if !notMounted then
      return false
    else
      let tempPath := buildPath (← get).gatewaysDir (baseName pathInContainer)
      let pathIsDirectory ← sys (.isDirectory pathInHost)
      if !(← createMountTarget pathIsDirectory tempPath) then
        return false
      else if !(← bindMountCore pathInHost pathInContainer tempPath readOnly) then
        let _ ← Toolkit.cleanMount tempPath
        return false
      else
        toolkit (Toolkit.addHandlers
          (if pathIsDirectory then [.mount tempPath] else [.file tempPath, .mount tempPath]))
        return true

def mountDevice (pathInHost : String) : Method Bool := do
  if !(← ensureContainerRunning) then
    return false
  else
    lxc (.addDeviceNode pathInHost)

/-- The script of all variables, for whoever attaches by hand. -/
def exportScript (environment : EnvironmentVariables) : String :=
  String.join (environment.toList.map fun var =>
    "export " ++ var.1 ++ "='" ++ var.2 ++ "'\n")

def setEnvironmentVariable (var val : String) : Method Bool := do
  let self ← get
  if self.state.value < ContainerState.created.value then
    return false
  else
    modify fun self => { self with
      gatewayEnvironmentVariables := self.gatewayEnvironmentVariables.insert var val }
    let self ← get
    let _ ← toolkit (Toolkit.writeToFile (buildPath self.gatewaysDir "env")
      (exportScript self.gatewayEnvironmentVariables))
    return true

def suspend : Method Bool := do
  let self ← get
  if self.state.value < ContainerState.started.value then
    return false
  else if self.state = .frozen then
    return false
  else if !(← lxc .freeze) then
    throw (.softwareContainerError "Could not suspend the container.")
  else
    setState .frozen
    return true

def resume : Method Bool := do
  let self ← get
  if self.state.value < ContainerState.frozen.value then
    return false
  else if !(← lxc .unfreeze) then
    throw (.softwareContainerError "Could not resume the container.")
  else
    setState .started
    return true

def shutdownIfStarted : Method PUnit := do
  let self ← get
  if self.state.value ≥ ContainerState.started.value then
    let _ ← shutdown self.shutdownTimeout
    return ⟨⟩
  else
    return ⟨⟩

def destroyIfCreated : Method PUnit := do
  let self ← get
  if self.state.value ≥ ContainerState.created.value then
    let _ ← destroy self.shutdownTimeout
    return ⟨⟩
  else
    return ⟨⟩

/-- `~Container`. -/
def destructor : Method PUnit := do
  if (← get).hasContainer then
    shutdownIfStarted
    destroyIfCreated
    lxc .put
    modify fun self => { self with hasContainer := false }
  else
    return ⟨⟩

end Container

end SoftwareContainers
