import SoftwareContainers.Agent.Plain

namespace SoftwareContainers

open Effect Effect.Act

/-! Runs of the agent in which every container keeps a log of how its gateways and jobs
were started.  The log is not part of the program. -/

inductive ContainerCall where
  | startGateways (gwConfig : GatewayConfiguration) (result : Except Fault Bool)
  | startJob (job : CommandJob) (result : Except Fault (Bool × Int))

structure Logged (κ : Type) where
  container : κ
  calls : List ContainerCall

namespace Logged

variable {κ α : Type}

def containerLens : Lens (Logged κ) κ where
  get self := self.container
  set container self := { self with container }
  get_set _ _ := rfl
  set_set _ _ _ := rfl

abbrev within (method : Act Sys Fault κ α) : Act Sys Fault (Logged κ) α :=
  zoom containerLens method

def logged (call : Except Fault α → ContainerCall) (method : Act Sys Fault κ α) :
    Act Sys Fault (Logged κ) α := do
  let result ← (attempt (within method) : Act Sys Fault (Logged κ) (Except Fault α))
  modify fun self => { self with calls := self.calls ++ [call result] }
  match result with
  | .ok value => return value
  | .error error => throw error

def containerClass (cls : ContainerClass κ) : ContainerClass (Logged κ) where
  createContainer containerID config :=
    (fun container => ⟨container, []⟩) <$> cls.createContainer containerID config
  startGateways gwConfig := logged (.startGateways gwConfig) (cls.startGateways gwConfig)
  previouslyConfigured self := cls.previouslyConfigured self.container
  createCommandJob command := within (cls.createCommandJob command)
  startJob job := logged (.startJob job) (cls.startJob job)
  bindMount pathInHost pathInContainer readOnly :=
    within (cls.bindMount pathInHost pathInContainer readOnly)
  suspend := within cls.suspend
  resume := within cls.resume
  shutdown timeout := within (cls.shutdown timeout)
  destructor := within cls.destructor

theorem erases_within (method : Act Sys Fault κ α) :
    Erases container (within method) method :=
  fun _ _ => rfl

theorem run_logged (call : Except Fault α → ContainerCall) (method : Act Sys Fault κ α)
    (oracle : Oracle Sys) (world : World Sys (Logged κ)) :
    (logged call method).run oracle world =
      let ended := method.run oracle ⟨world.state.container, world.history⟩
      (ended.1, ⟨⟨ended.2.state, world.state.calls ++ [call ended.1]⟩,
        ended.2.history⟩) := by
  rw [logged, run_bind, run_attempt, run_zoom]
  dsimp only [containerLens]
  rw [run_modify_bind]
  cases method.run oracle ⟨world.state.container, world.history⟩ with
  | mk result after => cases result <;> rfl

theorem erases_logged (call : Except Fault α → ContainerCall) (method : Act Sys Fault κ α) :
    Erases container (logged call method) method :=
  fun oracle world => by rw [run_logged]

theorem erases_containerClass (cls : ContainerClass κ) :
    ErasesClass container (containerClass cls) cls where
  createContainer containerID config oracle world := by
    rw [containerClass]
    dsimp only
    rw [run_map]
    cases (cls.createContainer containerID config).run oracle world with
    | mk result after => cases result <;> rfl
  startGateways _ := erases_logged _ _
  previouslyConfigured _ := rfl
  createCommandJob _ := erases_within _
  startJob _ := erases_logged _ _
  bindMount _ _ _ := erases_within _
  suspend := erases_within _
  resume := erases_within _
  shutdown _ := erases_within _
  destructor := erases_within _

end Logged

namespace SoftwareContainerAgent

variable {κ κ' α : Type} {erase : κ' → κ}

/-! An agent does the same on containers with a log. -/

theorem erases_onHeap (step : JsonHeap → Option (α × JsonHeap)) :
    Erases (transport erase id) (onHeap step : Method κ' α) (onHeap step) := by
  refine erases_get_bind fun self => ?_
  have same : (transport erase id self).heap = self.heap := rfl
  rw [same]
  cases step self.heap with
  | none => exact erases_throw _
  | some stepped => exact erases_bind (erases_modify fun _ => rfl) fun _ => erases_pure _

theorem erases_withConfig (conf : GatewayConfig) {ghosted : Method κ' α}
    {method : Method κ α} (erases : Erases (transport erase id) ghosted method) :
    Erases (transport erase id) (withConfig conf ghosted) (withConfig conf method) := by
  refine erases_bind (erases_attempt erases) fun ended =>
    erases_bind (erases_onHeap _) fun _ => ?_
  cases ended with
  | ok value => exact erases_pure _
  | error error => exact erases_throw _

section

variable {ghosted : ContainerClass κ'} {cls : ContainerClass κ}
  (erases : ErasesClass erase ghosted cls)

include erases

theorem erases_updateGatewayConfigs (containerID : Int) (configs : GatewayConfig) :
    Erases (transport erase id) (updateGatewayConfigs ghosted containerID configs)
      (updateGatewayConfigs cls containerID configs) := by
  refine erases_bind (erases_assertContainerExists containerID) fun _ =>
    erases_get_bind fun self => ?_
  have same : (transport erase id self).heap = self.heap := rfl
  rw [same]
  cases configs.handedOver self.heap with
  | none => exact erases_throw _
  | some gwConfig =>
      exact erases_onContainer containerID (erases.startGateways gwConfig)

theorem erases_setDefaultCapabilities (containerID : Int) :
    Erases (transport erase id) (setDefaultCapabilities ghosted containerID)
      (setDefaultCapabilities cls containerID) :=
  erases_get_bind fun _ => erases_bind (erases_onHeap _) fun conf =>
    erases_withConfig conf (erases_bind (erases_updateGatewayConfigs erases containerID conf)
      fun _ => erases_ite (erases_throw _) (erases_pure _))

theorem erases_setCapabilities (containerID : Int) (capabilities : List String) :
    Erases (transport erase id) (setCapabilities ghosted containerID capabilities)
      (setCapabilities cls containerID capabilities) := by
  refine erases_ite (erases_pure _) (erases_get_bind fun _ =>
    erases_bind (erases_onHeap _) fun gatewayConfigs =>
    erases_bind (erases_onHeap _) fun filteredConfigs => erases_ite ?_ ?_)
  · exact erases_withConfig _ (erases_withConfig _ (erases_throw _))
  · refine erases_bind (erases_onHeap _) fun merged =>
      erases_withConfig _ (erases_withConfig _ ?_)
    exact erases_bind (erases_updateGatewayConfigs erases containerID merged) fun _ =>
      erases_ite (erases_throw _) (erases_pure _)

theorem erases_execute (containerID : Int)
    (cmdLine workingDirectory outputFile : String) (env : EnvironmentVariables) :
    Erases (transport erase id)
      (execute ghosted containerID cmdLine workingDirectory outputFile env)
      (execute cls containerID cmdLine workingDirectory outputFile env) :=
  erases_bind (erases_bind (erases_previouslyConfigured erases containerID) fun _ =>
    erases_ite (erases_setDefaultCapabilities erases containerID) (erases_pure _))
    fun _ => erases_runCommand erases containerID _ _ _ _

theorem erases_perform (jsonLoads : String → Except String Json) (operation : Operation) :
    Erases (transport erase id) (perform ghosted jsonLoads operation)
      (perform cls jsonLoads operation) := by
  cases operation with
  | listContainers =>
      refine erases_map (erases_get_bind fun self => ?_)
      have same : (transport erase id self).containers.keys = self.containers.keys :=
        Std.ExtTreeMap.keys_map
      rw [same]
      exact erases_pure _
  | listCapabilities => exact erases_map (erases_get_bind fun _ => erases_pure _)
  | createContainer config =>
      exact erases_map (erases_createContainer erases jsonLoads config)
  | deleteContainer containerID =>
      exact erases_map (erases_deleteContainer erases containerID)
  | shutdownContainer containerID =>
      exact erases_map (erases_shutdownContainer erases containerID)
  | execute containerID cmdLine workingDirectory outputFile env =>
      exact erases_map (erases_execute erases containerID _ _ _ _)
  | suspendContainer containerID =>
      exact erases_map (erases_onContainer containerID erases.suspend)
  | resumeContainer containerID =>
      exact erases_map (erases_onContainer containerID erases.resume)
  | bindMount containerID pathInHost pathInContainer readOnly =>
      exact erases_map (erases_bindMount erases containerID _ _ _)
  | setCapabilities containerID capabilities =>
      exact erases_map (erases_setCapabilities erases containerID capabilities)

end

end SoftwareContainerAgent

end SoftwareContainers
