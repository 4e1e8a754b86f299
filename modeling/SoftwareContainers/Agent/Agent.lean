import SoftwareContainers.Agent.Options
import SoftwareContainers.Configuration.ConfigStore
import SoftwareContainers.Effect.Entry

namespace SoftwareContainers

open Effect Effect.Act

/-! `class SoftwareContainerAgent`, for any kind of container `κ` that its factory
creates. -/

structure CommandJob where
  command : String
  workingDirectory : String
  env : EnvironmentVariables
  stdin : Int
  stdout : Int
  stderr : Int
  pid : Int

def CommandJob.new (command : String) : CommandJob where
  command := command
  workingDirectory := ""
  env := ∅
  stdin := -1
  stdout := -1
  stderr := -1
  pid := 0

/-- The factory, and what the agent calls on a container and on the jobs it makes. -/
structure ContainerClass (κ : Type) where
  createContainer : Int → SoftwareContainerConfig → Act Sys Fault Unit κ
  startGateways : GatewayConfiguration → Act Sys Fault κ Bool
  previouslyConfigured : κ → Bool
  createCommandJob : String → Act Sys Fault κ CommandJob
  startJob : CommandJob → Act Sys Fault κ (Bool × Int)
  bindMount : String → String → Bool → Act Sys Fault κ Bool
  suspend : Act Sys Fault κ PUnit
  resume : Act Sys Fault κ PUnit
  shutdown : Int → Act Sys Fault κ PUnit
  destructor : Act Sys Fault κ PUnit

/-- What a container reads of a configuration: its ids, and a copy of each array. -/
def GatewayConfig.handedOver (self : GatewayConfig) (heap : JsonHeap) :
    Option GatewayConfiguration :=
  self.ids.foldlM (fun gwConfig id => do
    return gwConfig.insert id (.array (← self.config id heap))) ∅

/-- The pool is a vector whose last element is handed out next. -/
structure SoftwareContainerAgent (κ : Type) where
  containers : Std.ExtTreeMap Int κ
  containerIdPool : List Int
  options : DynamicContainerOptions
  containerConfig : SoftwareContainerConfig
  filteredConfigStore : ConfigStore
  defaultConfigStore : ConfigStore
  heap : JsonHeap
  connections : List Int

namespace SoftwareContainerAgent

variable {κ α : Type}

abbrev Method (κ : Type) := Act Sys Fault (SoftwareContainerAgent κ)

abbrev INT32_MAX : Int := 2147483647

def containersLens : Lens (SoftwareContainerAgent κ) (Std.ExtTreeMap Int κ) where
  get self := self.containers
  set containers self := { self with containers }
  get_set _ _ := rfl
  set_set _ _ _ := rfl

def optionsLens : Lens (SoftwareContainerAgent κ) DynamicContainerOptions where
  get self := self.options
  set options self := { self with options }
  get_set _ _ := rfl
  set_set _ _ _ := rfl

/-- The constructor, with what the loaders of the two stores have loaded. -/
def construct (containerConfig : SoftwareContainerConfig)
    (manifests defaultManifests : List Json) :
    Except StoreFault (SoftwareContainerAgent κ) := do
  let (filteredConfigStore, heap) ← ConfigStore.load manifests .empty
  let (defaultConfigStore, heap) ← ConfigStore.load defaultManifests heap
  return {
    containers := ∅
    containerIdPool := [0]
    options := .new
    containerConfig := containerConfig
    filteredConfigStore := filteredConfigStore
    defaultConfigStore := defaultConfigStore
    heap := heap
    connections := [] }

def assertContainerExists (containerID : Int) : Method κ PUnit := do
  let invalid := "Invalid Container ID: " ++ toString containerID
  if containerID ≥ INT32_MAX then
    throw (.softwareContainerError (invalid ++ ". ID can not be greater than INT32"))
  else if containerID < 0 then
    throw (.softwareContainerError (invalid ++ ". ID can not be negative"))
  else if !(← get).containers.contains containerID then
    throw (.softwareContainerError (invalid ++ ". No container matching that ID exists."))
  else
    return ⟨⟩

/-- Call a method of the container that `getContainer` finds. -/
def onContainer (containerID : Int) (method : Act Sys Fault κ α) : Method κ α := do
  assertContainerExists containerID
  onEntry containersLens containerID .undefined method

/-! Steps on the heap. -/

def onHeap (step : JsonHeap → Option (α × JsonHeap)) : Method κ α := do
  match step (← get).heap with
  | none => throw .undefined
  | some (result, heap) =>
      modify fun self => { self with heap }
      return result

def destroyConfig (conf : GatewayConfig) : Method κ PUnit :=
  onHeap fun heap => (conf.destructor heap).map fun heap => (⟨⟩, heap)

/-- A local configuration goes however the method ends. -/
def withConfig (conf : GatewayConfig) (method : Method κ α) : Method κ α := do
  let ended ← (attempt method : Method κ (Except Fault α))
  destroyConfig conf
  match ended with
  | .ok value => return value
  | .error error => throw error

section

variable (cls : ContainerClass κ)

/-! The life of a container. -/

def destroyContainer (container : κ) : Method κ PUnit := do
  let _ ← runOn container cls.destructor
  return ⟨⟩

def releaseContainer : Option κ → Method κ PUnit
  | none => return ⟨⟩
  | some container => destroyContainer cls container

def forgetContainer (containerID : Int) : Method κ PUnit := do
  assertContainerExists containerID
  modify fun self => { self with
    containers := self.containers.erase containerID
    containerIdPool := self.containerIdPool ++ [containerID] }

def deleteContainer (containerID : Int) : Method κ PUnit := do
  let container := (← get).containers[containerID]?
  forgetContainer containerID
  releaseContainer cls container

def findSuitableId : Method κ Int := do
  let pool := (← get).containerIdPool
  match pool.getLast? with
  | none => throw .undefined
  | some availableID =>
      if pool.length > 1 then
        modify fun self => { self with containerIdPool := pool.dropLast }
        return availableID
      else if availableID ≥ INT32_MAX then
        throw .undefined
      else
        modify fun self => { self with containerIdPool := [availableID + 1] }
        return availableID

/-- `m_containers[containerID] = container`. -/
def assignContainer (containerID : Int) (container : κ) : Method κ PUnit := do
  let replaced := (← get).containers[containerID]?
  modify fun self =>
    { self with containers := self.containers.insert containerID container }
  releaseContainer cls replaced

def createContainer (jsonLoads : String → Except String Json) (config : String) :
    Method κ Int := do
  let options ← zoom optionsLens (ContainerOptionParser.parse jsonLoads config)
  let containerConfig := options.toConfig (← get).containerConfig
  let containerID ← findSuitableId
  let (container, _) ← runOn () (cls.createContainer containerID containerConfig)
  assignContainer cls containerID container
  return containerID

def shutdownContainer (containerID : Int) : Method κ PUnit := do
  let self ← get
  onContainer containerID (cls.shutdown self.containerConfig.containerShutdownTimeout)
  let container := (← get).containers[containerID]?
  tryCatch (forgetContainer containerID) fun error =>
    if error.isSoftwareContainerError then
      throw (.softwareContainerError ("Could not delete the container" ++ error.what))
    else
      throw error
  releaseContainer cls container

/-! The gateways of a container. -/

def updateGatewayConfigs (containerID : Int) (configs : GatewayConfig) : Method κ Bool := do
  assertContainerExists containerID
  match configs.handedOver (← get).heap with
  | none => throw .undefined
  | some gwConfig => onContainer containerID (cls.startGateways gwConfig)

/-- Both configurations are local to the method. -/
def setCapabilities (containerID : Int) (capabilities : List String) : Method κ PUnit := do
  if capabilities = [] then
    return ⟨⟩
  else
    let self ← get
    let gatewayConfigs ← onHeap self.defaultConfigStore.configs
    let filteredConfigs ← onHeap (self.filteredConfigStore.configsByID capabilities)
    if filteredConfigs.isEmpty then
      withConfig gatewayConfigs (withConfig filteredConfigs
        (throw (.softwareContainerError "One or more capabilities were not found")))
    else
      let gatewayConfigs ← onHeap (GatewayConfig.appendAll filteredConfigs gatewayConfigs)
      withConfig gatewayConfigs (withConfig filteredConfigs do
        if !(← updateGatewayConfigs cls containerID gatewayConfigs) then
          throw (.softwareContainerError
            "Could not set gateway configuration for capability")
        else
          return ⟨⟩)

def setDefaultCapabilities (containerID : Int) : Method κ PUnit := do
  let self ← get
  let gatewayConfigs ← onHeap self.defaultConfigStore.configs
  withConfig gatewayConfigs do
    if !(← updateGatewayConfigs cls containerID gatewayConfigs) then
      throw (.softwareContainerError
        ("Could not set default capabilities on container " ++ toString containerID))
    else
      return ⟨⟩

/-! The other methods. -/

def listContainers : Method κ (List Int) := do
  return (← get).containers.keys

def listCapabilities : Method κ (List String) := do
  return (← get).filteredConfigStore.IDs

def ensureConfigured (containerID : Int) : Method κ PUnit := do
  let configured ← onContainer containerID do
    return cls.previouslyConfigured (← get)
  if !configured then
    setDefaultCapabilities cls containerID
  else
    return ⟨⟩

/-- `execute` from the job on.  The listener is added for the process once it has been
started. -/
def runCommand (containerID : Int) (cmdLine workingDirectory outputFile : String)
    (env : EnvironmentVariables) : Method κ Int := do
  let job ← onContainer containerID (cls.createCommandJob cmdLine)
  let output ← sys (.openFile outputFile)
  let (started, pid) ← onContainer containerID
    (cls.startJob { job with stdout := output, stderr := output, env, workingDirectory })
  if !started then
    throw (.softwareContainerError "Could not start job")
  else
    modify fun self => { self with connections := self.connections ++ [pid] }
    return pid

def execute (containerID : Int) (cmdLine workingDirectory outputFile : String)
    (env : EnvironmentVariables) : Method κ Int := do
  ensureConfigured cls containerID
  runCommand cls containerID cmdLine workingDirectory outputFile env

def suspendContainer (containerID : Int) : Method κ PUnit :=
  onContainer containerID cls.suspend

def resumeContainer (containerID : Int) : Method κ PUnit :=
  onContainer containerID cls.resume

def bindMount (containerID : Int) (pathInHost pathInContainer : String)
    (readOnly : Bool) : Method κ PUnit := do
  if !(← onContainer containerID (cls.bindMount pathInHost pathInContainer readOnly)) then
    throw (.softwareContainerError
      ("Unable to bind mount " ++ pathInHost ++ " to " ++ pathInContainer))
  else
    return ⟨⟩

end

inductive Operation where
  | listContainers
  | listCapabilities
  | createContainer (config : String)
  | deleteContainer (containerID : Int)
  | shutdownContainer (containerID : Int)
  | execute (containerID : Int) (cmdLine workingDirectory outputFile : String)
      (env : EnvironmentVariables)
  | suspendContainer (containerID : Int)
  | resumeContainer (containerID : Int)
  | bindMount (containerID : Int) (pathInHost pathInContainer : String) (readOnly : Bool)
  | setCapabilities (containerID : Int) (capabilities : List String)

inductive Answer where
  | none
  | containerIDs (containerIDs : List Int)
  | capabilities (capabilities : List String)
  | containerID (containerID : Int)
  | pid (pid : Int)
  deriving DecidableEq, Repr

def perform (cls : ContainerClass κ) (jsonLoads : String → Except String Json) :
    Operation → Method κ Answer
  | .listContainers => .containerIDs <$> listContainers
  | .listCapabilities => .capabilities <$> listCapabilities
  | .createContainer config => .containerID <$> createContainer cls jsonLoads config
  | .deleteContainer containerID => (fun _ => .none) <$> deleteContainer cls containerID
  | .shutdownContainer containerID => (fun _ => .none) <$> shutdownContainer cls containerID
  | .execute containerID cmdLine workingDirectory outputFile env =>
      .pid <$> execute cls containerID cmdLine workingDirectory outputFile env
  | .suspendContainer containerID => (fun _ => .none) <$> suspendContainer cls containerID
  | .resumeContainer containerID => (fun _ => .none) <$> resumeContainer cls containerID
  | .bindMount containerID pathInHost pathInContainer readOnly =>
      (fun _ => .none) <$> bindMount cls containerID pathInHost pathInContainer readOnly
  | .setCapabilities containerID capabilities =>
      (fun _ => .none) <$> setCapabilities cls containerID capabilities

end SoftwareContainerAgent

end SoftwareContainers
