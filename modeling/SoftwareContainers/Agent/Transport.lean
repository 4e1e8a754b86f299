import SoftwareContainers.Agent.Agent
import SoftwareContainers.Effect.Invariant

namespace SoftwareContainers

open Effect Effect.Act

/-! Agents that do the same on other containers. -/

namespace SoftwareContainerAgent

variable {κ κ' α : Type}

structure Memory where
  filteredConfigStore : ConfigStore
  defaultConfigStore : ConfigStore
  heap : JsonHeap

def memory (self : SoftwareContainerAgent κ) : Memory :=
  ⟨self.filteredConfigStore, self.defaultConfigStore, self.heap⟩

def transport (erase : κ' → κ) (change : Memory → Memory)
    (self : SoftwareContainerAgent κ') : SoftwareContainerAgent κ where
  containers := self.containers.map fun _ container => erase container
  containerIdPool := self.containerIdPool
  options := self.options
  containerConfig := self.containerConfig
  filteredConfigStore := (change self.memory).filteredConfigStore
  defaultConfigStore := (change self.memory).defaultConfigStore
  heap := (change self.memory).heap
  connections := self.connections

end SoftwareContainerAgent

structure ErasesClass {κ κ' : Type} (erase : κ' → κ) (ghosted : ContainerClass κ')
    (cls : ContainerClass κ) : Prop where
  createContainer : ∀ containerID config oracle world,
    (cls.createContainer containerID config).run oracle world =
      (((ghosted.createContainer containerID config).run oracle world).1.map erase,
        ((ghosted.createContainer containerID config).run oracle world).2)
  startGateways : ∀ gwConfig,
    Erases erase (ghosted.startGateways gwConfig) (cls.startGateways gwConfig)
  previouslyConfigured : ∀ container,
    cls.previouslyConfigured (erase container) = ghosted.previouslyConfigured container
  createCommandJob : ∀ command,
    Erases erase (ghosted.createCommandJob command) (cls.createCommandJob command)
  startJob : ∀ job, Erases erase (ghosted.startJob job) (cls.startJob job)
  bindMount : ∀ pathInHost pathInContainer readOnly,
    Erases erase (ghosted.bindMount pathInHost pathInContainer readOnly)
      (cls.bindMount pathInHost pathInContainer readOnly)
  suspend : Erases erase ghosted.suspend cls.suspend
  resume : Erases erase ghosted.resume cls.resume
  shutdown : ∀ timeout, Erases erase (ghosted.shutdown timeout) (cls.shutdown timeout)
  destructor : Erases erase ghosted.destructor cls.destructor

theorem ErasesClass.refl {κ : Type} (cls : ContainerClass κ) : ErasesClass id cls cls where
  createContainer containerID config oracle world := by
    cases (cls.createContainer containerID config).run oracle world with
    | mk result after => cases result <;> rfl
  startGateways _ _ _ := rfl
  previouslyConfigured _ := rfl
  createCommandJob _ _ _ := rfl
  startJob _ _ _ := rfl
  bindMount _ _ _ _ _ := rfl
  suspend _ _ := rfl
  resume _ _ := rfl
  shutdown _ _ _ := rfl
  destructor _ _ := rfl

namespace SoftwareContainerAgent

variable {κ κ' α : Type} {erase : κ' → κ} {change : Memory → Memory}

/-! The methods that have nothing to do with the stores. -/

theorem erases_assertContainerExists (containerID : Int) :
    Erases (transport erase change) (assertContainerExists containerID : Method κ' PUnit)
      (assertContainerExists containerID) := by
  refine erases_ite (erases_throw _) (erases_ite (erases_throw _)
    (erases_get_bind fun self => ?_))
  have same : (transport erase change self).containers.contains containerID =
      self.containers.contains containerID := Std.ExtTreeMap.contains_map
  rw [same]
  exact erases_ite (erases_throw _) (erases_pure _)

theorem erases_onContainer {ghosted : Act Sys Fault κ' α} {method : Act Sys Fault κ α}
    (containerID : Int) (erases : Erases erase ghosted method) :
    Erases (transport erase change) (onContainer containerID ghosted)
      (onContainer containerID method) :=
  erases_bind (erases_assertContainerExists containerID) fun _ =>
    erases_onEntry (fun _ => rfl) (fun _ _ => rfl) containerID _ erases

theorem erases_forgetContainer (containerID : Int) :
    Erases (transport erase change) (forgetContainer containerID : Method κ' PUnit)
      (forgetContainer containerID) := by
  refine erases_bind (erases_assertContainerExists containerID) fun _ =>
    erases_modify fun self => ?_
  have same : (self.containers.map fun _ container => erase container).erase containerID =
      (self.containers.erase containerID).map fun _ container => erase container := by
    apply Std.ExtTreeMap.ext_getElem?
    intro id
    rw [getElem?_erase, Std.ExtTreeMap.getElem?_map, Std.ExtTreeMap.getElem?_map,
      getElem?_erase]
    split <;> rfl
  rw [transport, transport, same]
  rfl

theorem erases_findSuitableId :
    Erases (transport erase change) (findSuitableId : Method κ' Int) findSuitableId := by
  refine erases_get_bind fun self => ?_
  dsimp only [transport]
  cases self.containerIdPool.getLast? with
  | none => exact erases_throw _
  | some availableID =>
      exact erases_ite (erases_bind (erases_modify fun _ => rfl) fun _ => erases_pure _)
        (erases_ite (erases_throw _)
          (erases_bind (erases_modify fun _ => rfl) fun _ => erases_pure _))

theorem getElem?_transport (self : SoftwareContainerAgent κ') (containerID : Int) :
    (transport erase change self).containers[containerID]? =
      self.containers[containerID]?.map erase :=
  Std.ExtTreeMap.getElem?_map

section

variable {ghosted : ContainerClass κ'} {cls : ContainerClass κ}
  (erases : ErasesClass erase ghosted cls)

include erases

theorem erases_destroyContainer (container : κ') :
    Erases (transport erase change) (destroyContainer ghosted container)
      (destroyContainer cls (erase container)) := by
  intro oracle world
  have same := erases.destructor oracle ⟨container, world.history⟩
  dsimp only at same
  rw [destroyContainer, destroyContainer, run_bind, run_bind, run_runOn, run_runOn, same]
  cases (ghosted.destructor.run oracle ⟨container, world.history⟩).1 <;> rfl

theorem erases_releaseContainer (container : Option κ') :
    Erases (transport erase change) (releaseContainer ghosted container)
      (releaseContainer cls (container.map erase)) := by
  cases container with
  | none => exact erases_pure _
  | some container => exact erases_destroyContainer erases container

theorem erases_assignContainer (containerID : Int) (container : κ') :
    Erases (transport erase change) (assignContainer ghosted containerID container)
      (assignContainer cls containerID (erase container)) := by
  refine erases_get_bind fun self => ?_
  rw [getElem?_transport]
  refine erases_bind (erases_modify fun self => ?_)
    fun _ => erases_releaseContainer erases self.containers[containerID]?
  rw [transport, transport, map_insert]
  rfl

theorem erases_createContainer (jsonLoads : String → Except String Json) (config : String) :
    Erases (transport erase change) (createContainer ghosted jsonLoads config)
      (createContainer cls jsonLoads config) := by
  have parsed : Erases (transport erase change)
      (zoom optionsLens (ContainerOptionParser.parse jsonLoads config) : Method κ' _)
      (zoom optionsLens (ContainerOptionParser.parse jsonLoads config)) :=
    fun _ _ => rfl
  refine erases_bind parsed fun options => erases_get_bind fun self =>
    erases_bind erases_findSuitableId fun containerID => ?_
  have made := erases.createContainer containerID (options.toConfig self.containerConfig)
  exact @erases_runOn_bind _ _ _ _ _ _ _ (transport erase change) erase _ () _ _
    (fun container => do
      assignContainer ghosted containerID container
      return containerID)
    (fun container => do
      assignContainer cls containerID container
      return containerID) made fun container =>
    erases_bind (erases_assignContainer erases containerID container) fun _ => erases_pure _

theorem erases_deleteContainer (containerID : Int) :
    Erases (transport erase change) (deleteContainer ghosted containerID)
      (deleteContainer cls containerID) := by
  refine erases_get_bind fun self => ?_
  rw [getElem?_transport]
  exact erases_bind (erases_forgetContainer containerID)
    fun _ => erases_releaseContainer erases self.containers[containerID]?

theorem erases_shutdownContainer (containerID : Int) :
    Erases (transport erase change) (shutdownContainer ghosted containerID)
      (shutdownContainer cls containerID) := by
  refine erases_get_bind fun self => erases_bind
    (erases_onContainer containerID (erases.shutdown _)) fun _ =>
    erases_get_bind fun self => ?_
  rw [getElem?_transport]
  refine erases_bind ?_ fun _ =>
    erases_releaseContainer erases self.containers[containerID]?
  exact erases_tryCatch (erases_forgetContainer containerID) fun error =>
    erases_ite (erases_throw _) (erases_throw _)

theorem erases_runCommand (containerID : Int)
    (cmdLine workingDirectory outputFile : String) (env : EnvironmentVariables) :
    Erases (transport erase change)
      (runCommand ghosted containerID cmdLine workingDirectory outputFile env)
      (runCommand cls containerID cmdLine workingDirectory outputFile env) :=
  erases_bind (erases_onContainer containerID (erases.createCommandJob cmdLine)) fun _ =>
    erases_bind (erases_ask _) fun _ =>
    erases_bind (erases_onContainer containerID (erases.startJob _)) fun _ =>
    erases_ite (erases_throw _) (erases_bind (erases_modify fun _ => rfl) fun _ =>
      erases_pure _)

theorem erases_bindMount (containerID : Int) (pathInHost pathInContainer : String)
    (readOnly : Bool) :
    Erases (transport erase change)
      (bindMount ghosted containerID pathInHost pathInContainer readOnly)
      (bindMount cls containerID pathInHost pathInContainer readOnly) :=
  erases_bind (erases_onContainer containerID (erases.bindMount _ _ _)) fun _ =>
    erases_ite (erases_throw _) (erases_pure _)

theorem erases_previouslyConfigured (containerID : Int) :
    Erases (transport erase change)
      (onContainer containerID do return ghosted.previouslyConfigured (← get))
      (onContainer containerID do return cls.previouslyConfigured (← get)) := by
  refine erases_onContainer containerID (erases_get_bind fun container => ?_)
  rw [erases.previouslyConfigured]
  exact erases_pure _

end

/-! Agents that differ in their stores. -/

def withMemory (memory : Memory) (self : SoftwareContainerAgent κ) :
    SoftwareContainerAgent κ :=
  { self with
    filteredConfigStore := memory.filteredConfigStore
    defaultConfigStore := memory.defaultConfigStore
    heap := memory.heap }

def MemoryFree (method : Method κ α) : Prop :=
  ∀ memory, Erases (withMemory memory) method method

theorem transport_id (memory : Memory) :
    transport (id : κ → κ) (fun _ => memory) = withMemory memory := by
  funext self
  have same : (self.containers.map fun _ container => id container) = self.containers := by
    apply Std.ExtTreeMap.ext_getElem?
    intro containerID
    rw [Std.ExtTreeMap.getElem?_map]
    exact Option.map_id'
  rw [transport, same, withMemory]

theorem memoryFree_of_transport {method : Method κ α}
    (erases : ∀ memory, Erases (transport id fun _ => memory) method method) :
    MemoryFree method :=
  fun memory => transport_id memory ▸ erases memory

theorem MemoryFree.leaves {method : Method κ α} (free : MemoryFree method) :
    Leaves memory method := by
  intro oracle world
  have same := free world.state.memory oracle world
  have after := congrArg (fun ended => ended.2.state.memory) same
  exact after

end SoftwareContainerAgent

end SoftwareContainers
