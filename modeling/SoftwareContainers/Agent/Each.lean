import SoftwareContainers.Agent.Plain

namespace SoftwareContainers

open Effect Effect.Act

/-! Properties of each container of an agent. -/

namespace SoftwareContainerAgent

variable {κ α : Type}

theorem run_onContainer (containerID : Int) (method : Act Sys Fault κ α)
    (oracle : Oracle Sys) (world : World Sys (SoftwareContainerAgent κ)) :
    (∃ error, (onContainer containerID method).run oracle world = (.error error, world)) ∨
    ∃ container, world.state.containers[containerID]? = some container ∧
      (onContainer containerID method).run oracle world =
        let ended := method.run oracle ⟨container, world.history⟩
        (ended.1, ⟨{ world.state with
          containers := world.state.containers.insert containerID ended.2.state },
          ended.2.history⟩) := by
  obtain ⟨result, asserted⟩ := run_assertContainerExists containerID oracle world
  rw [onContainer]
  cases result with
  | error error =>
      rw [run_bind_error asserted]
      exact .inl ⟨error, rfl⟩
  | ok _ =>
      rw [run_bind_ok asserted]
      cases found : world.state.containers[containerID]? with
      | none => exact .inl ⟨.undefined, run_onEntry_of_missing found⟩
      | some container => exact .inr ⟨container, rfl, run_onEntry_of_found found⟩

def EachContainer (part : Int → κ → Prop) (self : SoftwareContainerAgent κ) : Prop :=
  ∀ (id : Int) container, self.containers[id]? = some container → part id container

abbrev KeepsEach (part : Int → κ → Prop) (method : Method κ α) : Prop :=
  Preserves (EachContainer part) method

section

variable {part : Int → κ → Prop}

theorem EachContainer.insert {self : SoftwareContainerAgent κ} (each : EachContainer part self)
    {containerID : Int} {container : κ} (holds : part containerID container) :
    EachContainer part { self with
      containers := self.containers.insert containerID container } := by
  intro id other found
  rw [getElem?_insert] at found
  by_cases same : containerID = id
  · subst same
    rw [if_pos rfl] at found
    cases found
    exact holds
  · rw [if_neg same] at found
    exact each id other found

theorem EachContainer.erase {self : SoftwareContainerAgent κ} (each : EachContainer part self)
    (containerID : Int) (containerIdPool : List Int) :
    EachContainer part { self with
      containers := self.containers.erase containerID, containerIdPool } := by
  intro id other found
  rw [getElem?_erase] at found
  split at found
  · cases found
  · exact each id other found

theorem keepsEach_assertContainerExists (containerID : Int) :
    KeepsEach part (assertContainerExists containerID : Method κ PUnit) := by
  intro oracle world each
  obtain ⟨result, asserted⟩ := run_assertContainerExists containerID oracle world
  rw [asserted]
  exact each

theorem keepsEach_onContainer {containerID : Int} {method : Act Sys Fault κ α}
    (kept : Preserves (part containerID) method) :
    KeepsEach part (onContainer containerID method) :=
  preserves_bind (keepsEach_assertContainerExists containerID) fun _ =>
    preserves_onEntry (fun _ container each found => each containerID container found)
      (fun _ _ each holds => each.insert holds) kept

theorem keepsEach_forgetContainer (containerID : Int) :
    KeepsEach part (forgetContainer containerID : Method κ PUnit) :=
  preserves_bind (keepsEach_assertContainerExists containerID) fun _ =>
    preserves_modify fun _ each => each.erase containerID _

theorem keepsEach_findSuitableId :
    KeepsEach part (findSuitableId : Method κ Int) := by
  refine preserves_get_bind fun self => ?_
  dsimp only
  cases self.containerIdPool.getLast? with
  | none => exact preserves_throw _
  | some availableID =>
      exact preserves_ite
        (fun _ => preserves_bind (preserves_modify fun _ each => each) fun _ => preserves_pure _)
        fun _ => preserves_ite (fun _ => preserves_throw _) fun _ =>
          preserves_bind (preserves_modify fun _ each => each) fun _ => preserves_pure _

variable (cls : ContainerClass κ)

theorem keepsEach_releaseContainer (container : Option κ) :
    KeepsEach part (releaseContainer cls container) := by
  cases container with
  | none => exact preserves_pure _
  | some container => exact preserves_bind (preserves_runOn _ _) fun _ => preserves_pure _

theorem keepsEach_createContainer (jsonLoads : String → Except String Json) (config : String)
    (made : ∀ containerID containerConfig oracle world container after,
      (cls.createContainer containerID containerConfig).run oracle world =
        (.ok container, after) → part containerID container) :
    KeepsEach part (createContainer cls jsonLoads config) := by
  refine preserves_bind (preserves_zoom fun _ _ each => each) fun options =>
    preserves_get_bind fun self => preserves_bind keepsEach_findSuitableId fun containerID => ?_
  refine @preserves_runOn_bind Sys Fault _ Unit κ Int (EachContainer part) (part containerID) ()
    (cls.createContainer containerID (options.toConfig self.containerConfig))
    (fun container => do
      assignContainer cls containerID container
      return containerID) (made containerID _) fun container holds => ?_
  exact preserves_bind (preserves_get_bind fun self =>
    preserves_bind (preserves_modify fun _ each => each.insert holds)
      fun _ => keepsEach_releaseContainer cls _) fun _ => preserves_pure _

theorem keepsEach_shutdownContainer {containerID : Int}
    (kept : ∀ timeout, Preserves (part containerID) (cls.shutdown timeout)) :
    KeepsEach part (shutdownContainer cls containerID) :=
  preserves_get_bind fun _ => preserves_bind (keepsEach_onContainer (kept _)) fun _ =>
    preserves_get_bind fun _ => preserves_bind
      (preserves_tryCatch (keepsEach_forgetContainer containerID) fun _ =>
        preserves_ite (fun _ => preserves_throw _) fun _ => preserves_throw _)
      fun _ => keepsEach_releaseContainer cls _

theorem keepsEach_runCommand {containerID : Int}
    (cmdLine workingDirectory outputFile : String) (env : EnvironmentVariables)
    (created : ∀ command, Preserves (part containerID) (cls.createCommandJob command))
    (started : ∀ job, Preserves (part containerID) (cls.startJob job)) :
    KeepsEach part
      (runCommand cls containerID cmdLine workingDirectory outputFile env) :=
  preserves_bind (keepsEach_onContainer (created _)) fun _ =>
    preserves_bind (preserves_ask _) fun _ =>
    preserves_bind (keepsEach_onContainer (started _)) fun _ =>
    preserves_ite (fun _ => preserves_throw _) fun _ =>
      preserves_bind (preserves_modify fun _ each => each) fun _ => preserves_pure _

end

theorem EachContainer.mono {part weaker : Int → κ → Prop} {self : SoftwareContainerAgent κ}
    (each : EachContainer part self)
    (implies : ∀ id container, part id container → weaker id container) :
    EachContainer weaker self :=
  fun id container found => implies id container (each id container found)

/-! Every operation but the creation, for a property that the methods of the container
keep. -/

structure KeepsPart (cls : ContainerClass κ) (part : κ → Prop) : Prop where
  startGateways : ∀ gwConfig, Preserves part (cls.startGateways gwConfig)
  createCommandJob : ∀ command, Preserves part (cls.createCommandJob command)
  startJob : ∀ job, Preserves part (cls.startJob job)
  bindMount : ∀ pathInHost pathInContainer readOnly,
    Preserves part (cls.bindMount pathInHost pathInContainer readOnly)
  suspend : Preserves part cls.suspend
  resume : Preserves part cls.resume
  shutdown : ∀ timeout, Preserves part (cls.shutdown timeout)

section

variable {part : Int → κ → Prop}

theorem keepsEach_onHeap (step : JsonHeap → Option (α × JsonHeap)) :
    KeepsEach part (onHeap step : Method κ α) := by
  refine preserves_get_bind fun self => ?_
  cases step self.heap with
  | none => exact preserves_throw _
  | some stepped =>
      exact preserves_bind (preserves_modify fun _ each => each) fun _ => preserves_pure _

theorem keepsEach_withConfig (conf : GatewayConfig) {method : Method κ α}
    (kept : KeepsEach part method) : KeepsEach part (withConfig conf method) := by
  refine preserves_bind (preserves_attempt kept) fun ended =>
    preserves_bind (keepsEach_onHeap _) fun _ => ?_
  cases ended with
  | ok value => exact preserves_pure _
  | error error => exact preserves_throw _

variable {cls : ContainerClass κ}

section

variable {containerID : Int}
  (kept : ∀ gwConfig, Preserves (part containerID) (cls.startGateways gwConfig))

include kept

theorem keepsEach_updateGatewayConfigs (configs : GatewayConfig) :
    KeepsEach part (updateGatewayConfigs cls containerID configs) := by
  refine preserves_bind (keepsEach_assertContainerExists containerID) fun _ =>
    preserves_get_bind fun self => ?_
  cases configs.handedOver self.heap with
  | none => exact preserves_throw _
  | some gwConfig => exact keepsEach_onContainer (kept gwConfig)

theorem keepsEach_setCapabilities (capabilities : List String) :
    KeepsEach part (setCapabilities cls containerID capabilities) := by
  refine preserves_ite (fun _ => preserves_pure _) fun _ => preserves_get_bind fun _ =>
    preserves_bind (keepsEach_onHeap _) fun gatewayConfigs =>
    preserves_bind (keepsEach_onHeap _) fun filteredConfigs =>
    preserves_ite (fun _ => ?_) fun _ => ?_
  · exact keepsEach_withConfig _ (keepsEach_withConfig _ (preserves_throw _))
  · refine preserves_bind (keepsEach_onHeap _) fun merged =>
      keepsEach_withConfig _ (keepsEach_withConfig _ ?_)
    exact preserves_bind (keepsEach_updateGatewayConfigs kept merged) fun _ =>
      preserves_ite (fun _ => preserves_throw _) fun _ => preserves_pure _

theorem keepsEach_setDefaultCapabilities :
    KeepsEach part (setDefaultCapabilities cls containerID) :=
  preserves_get_bind fun _ => preserves_bind (keepsEach_onHeap _) fun conf =>
    keepsEach_withConfig conf (preserves_bind (keepsEach_updateGatewayConfigs kept conf)
      fun _ => preserves_ite (fun _ => preserves_throw _) fun _ => preserves_pure _)

end

theorem keepsEach_perform (jsonLoads : String → Except String Json)
    (keeps : ∀ id, KeepsPart cls (part id)) {operation : Operation}
    (none : ∀ config, operation ≠ .createContainer config) :
    KeepsEach part (perform cls jsonLoads operation) := by
  cases operation with
  | listContainers => exact preserves_map (preserves_get_bind fun _ => preserves_pure _)
  | listCapabilities => exact preserves_map (preserves_get_bind fun _ => preserves_pure _)
  | createContainer config => exact absurd rfl (none config)
  | deleteContainer containerID =>
      exact preserves_map (preserves_get_bind fun _ =>
        preserves_bind (keepsEach_forgetContainer containerID) fun _ =>
          keepsEach_releaseContainer _ _)
  | shutdownContainer containerID =>
      exact preserves_map (keepsEach_shutdownContainer _ (keeps containerID).shutdown)
  | execute containerID cmdLine workingDirectory outputFile env =>
      have asked : Preserves (part containerID)
          (do return cls.previouslyConfigured (← get) : Act Sys Fault κ Bool) :=
        fun _ _ holds => holds
      refine preserves_map (preserves_bind (preserves_bind (keepsEach_onContainer asked)
        fun _ => preserves_ite (fun _ => ?_) fun _ => preserves_pure _) fun _ => ?_)
      · exact keepsEach_setDefaultCapabilities (keeps containerID).startGateways
      · exact keepsEach_runCommand _ _ _ _ _ (keeps containerID).createCommandJob
          (keeps containerID).startJob
  | suspendContainer containerID =>
      exact preserves_map (keepsEach_onContainer (keeps containerID).suspend)
  | resumeContainer containerID =>
      exact preserves_map (keepsEach_onContainer (keeps containerID).resume)
  | bindMount containerID pathInHost pathInContainer readOnly =>
      exact preserves_map (preserves_bind
        (keepsEach_onContainer ((keeps containerID).bindMount _ _ _)) fun _ =>
          preserves_ite (fun _ => preserves_throw _) fun _ => preserves_pure _)
  | setCapabilities containerID capabilities =>
      exact preserves_map
        (keepsEach_setCapabilities (keeps containerID).startGateways capabilities)

end

end SoftwareContainerAgent

end SoftwareContainers
