import SoftwareContainers.Library.Gateways

namespace SoftwareContainers

open Effect Effect.Act

/-! The public operations of `class SoftwareContainer` on its own container and
gateways. -/

abbrev LibraryContainer := SoftwareContainer AnyGateway Container

namespace SoftwareContainer

abbrev Method := Act Sys Fault LibraryContainer

def containerLens : Lens LibraryContainer Container where
  get self := self.container
  set container self := { self with container }
  get_set _ _ := rfl
  set_set _ _ _ := rfl

def onContainer {α : Type} (method : Container.Method α) : Method α :=
  zoom containerLens method

def setState (containerState : ContainerState) : Method PUnit :=
  modify fun self => { self with containerState }

/-! The constructor. -/

/-- `CMAKE_INSTALL_FULL_BINDIR` with the default prefix. -/
abbrev INSTALL_BINDIR := "/usr/local/bin"

def checkContainerRoot {σ : Type} (rootDir : String) : Act Sys Fault σ PUnit := do
  if !(← sys (.isDirectory rootDir)) then
    if !(← sys (.createDirectory rootDir)) then
      throw (.softwareContainerError "Failed to create container root directory")
    else
      let _ ← sys (.isDirectoryEmpty rootDir)
      return ⟨⟩
  else
    let _ ← sys (.isDirectoryEmpty rootDir)
    return ⟨⟩

def networkSetup (config : SoftwareContainerConfig) : List String :=
  [buildPath INSTALL_BINDIR "setup_softwarecontainer.sh", config.bridgeDevice] ++
    (if config.shouldCreateBridge then
      [config.bridgeIPAddress, config.bridgeNetmask,
        toString config.bridgeNetmaskBitLength, config.bridgeNetAddr]
    else [])

def checkNetworkSettings {σ : Type} (config : SoftwareContainerConfig) :
    Act Sys Fault σ PUnit := do
  match ← sys (.spawnSync (networkSetup config)) with
  | .spawned returnCode =>
      if returnCode ≠ 0 then
        throw (.softwareContainerError
          "Return code of setup_softwarecontainer.sh is non-zero")
      else
        return ⟨⟩
  | _ =>
      throw (.softwareContainerError "Failed to spawn setup_softwarecontainer.sh: ")

/-- `tmpfsMount` takes the size as an `int`; what it returns is not looked at. -/
def mountContainerRoot {σ : Type} (config : SoftwareContainerConfig)
    (containerRoot : String) : Act Sys Fault σ PUnit := do
  if config.writeBufferEnabled then
    let tmpfsSize : Int :=
      if config.temporaryFileSystemWriteBufferEnableds then
        toInt config.temporaryFileSystemSize
      else 100485760
    let _ ← runOn ([] : List CleanUpHandler) (Toolkit.tmpfsMount containerRoot tmpfsSize)
    return ⟨⟩
  else
    return ⟨⟩

def start : Container.Method Bool := do
  if !(← Container.initializeContainer) then
    return false
  else if !(← Container.create) then
    return false
  else
    Container.start

def createGateways (containerID : Int) (config : SoftwareContainerConfig)
    (containerId : String) : List AnyGateway :=
  let containerDir := buildPath config.sharedMountsDir containerId
  [.file .new,
    .network (.new containerID config.bridgeDevice config.bridgeIPAddress
      (config.bridgeNetmaskBitLength % 256).toNat),
    .pulse .new,
    .deviceNode .new,
    .dbus (.new (buildPath containerDir "gateways") containerId),
    .cgroups .new,
    .wayland .new,
    .environment .new]

/-- Start the container; one that does not start is destroyed with the object. -/
def init (containerID : Int) : Container.Method PUnit := do
  if !(← start) then
    Container.destructor
    throw (.softwareContainerError
      ("Could not initialize SoftwareContainer, container ID: " ++ toString containerID))
  else
    return ⟨⟩

def construct {σ : Type} (containerID : Int) (config : SoftwareContainerConfig) :
    Act Sys Fault σ LibraryContainer := do
  let containerId := "SC-" ++ toString containerID
  let containerRoot := buildPath config.sharedMountsDir containerId
  checkContainerRoot containerRoot
  mountContainerRoot config containerRoot
  checkNetworkSettings config
  let (_, container) ← runOn
    (Container.new containerId config.containerConfigPath containerRoot
      config.writeBufferEnabled config.containerShutdownTimeout)
    (init containerID)
  return {
    containerID := containerID
    containerState := .ready
    container := container
    gateways := createGateways containerID config containerId
    config := config
    previouslyConfigured := false }

/-! The other operations. -/

def assertReady (message : String) : Method PUnit := do
  assertValidState
  let self ← get
  if self.containerState ≠ .ready then
    throw (.invalidOperationError (message ++ self.id))
  else
    return ⟨⟩

def createFunctionJob : Method PUnit :=
  assertReady "Invalid to execute code in non ready container "

def createCommandJob (command : String) : Method String := do
  assertReady "Invalid to execute code in non ready container "
  return command

def bindMount (pathOnHost pathInContainer : String) (readonly : Bool) : Method Bool := do
  assertReady "Invalid to bind mount in non ready container "
  onContainer (Container.bindMountInContainer pathOnHost pathInContainer readonly)

def invalidate (message : String) : Method PUnit := do
  setState .invalid
  let self ← get
  throw (.containerError (message ++ self.id))

def suspend : Method PUnit := do
  assertReady "Invalid to suspend non ready container "
  if !(← onContainer Container.suspend) then
    invalidate "Failed to suspend container "
  else
    setState .suspended

def resume : Method PUnit := do
  assertValidState
  let self ← get
  if self.containerState ≠ .suspended then
    throw (.invalidOperationError ("Invalid to resume non suspended container " ++ self.id))
  else if !(← onContainer Container.resume) then
    invalidate "Failed to resume container "
  else
    setState .ready

/-- Whether a teardown was clean is only logged. -/
def shutdownGateway : Act Sys Fault (AnyGateway × Container) (Option PUnit) := do
  if AnyGateway.gatewayClass.isActivated (← get).1 then
    let _ ← AnyGateway.gatewayClass.teardown
    return none
  else
    return none

def destroyGateway : Act Sys Fault (AnyGateway × Container) (Option PUnit) := do
  AnyGateway.destructor
  return none

def shutdownGateways : Method PUnit := do
  let _ ← zoom gatewaysLens (sweep shutdownGateway)
  let _ ← zoom gatewaysLens (sweep destroyGateway)
  modify fun self => { self with gateways := [] }

def shutdown (timeout : Int) : Method PUnit := do
  assertValidState
  let self ← get
  if self.containerState ≠ .ready ∧ self.containerState ≠ .suspended then
    throw (.invalidOperationError
      ("Invalid to shut down container which is not ready or suspended " ++ self.id))
  else
    shutdownGateways
    if !(← onContainer (Container.destroy timeout)) then
      invalidate "Could not destroy the container during shutdown "
    else
      setState .terminated

/-- The public operations, each with its arguments. -/
inductive Operation where
  | startGateways (gwConfig : GatewayConfiguration)
  | createFunctionJob
  | createCommandJob (command : String)
  | bindMount (pathOnHost pathInContainer : String) (readonly : Bool)
  | suspend
  | resume
  | shutdown (timeout : Int)

def perform : Operation → Method PUnit
  | .startGateways gwConfig => do
      let _ ← startGateways AnyGateway.gatewayClass gwConfig
      return ⟨⟩
  | .createFunctionJob => createFunctionJob
  | .createCommandJob command => do
      let _ ← createCommandJob command
      return ⟨⟩
  | .bindMount pathOnHost pathInContainer readonly => do
      let _ ← bindMount pathOnHost pathInContainer readonly
      return ⟨⟩
  | .suspend => suspend
  | .resume => resume
  | .shutdown timeout => shutdown timeout

end SoftwareContainer

end SoftwareContainers
