import SoftwareContainers.Agent.Stores
import SoftwareContainers.Agent.Transport

namespace SoftwareContainers

open Effect Effect.Act ConfigStore

/-! The agent without a heap: what it does with the capabilities, as a function of what
the stores were loaded with.  The agent of the program does the same. -/

namespace SoftwareContainerAgent

variable {κ α : Type}

section

variable (stores : LoadedStores) (cls : ContainerClass κ)

def plainUpdateGatewayConfigs (containerID : Int) (configs : PlainConfig) :
    Method κ Bool := do
  assertContainerExists containerID
  onContainer containerID (cls.startGateways configs.handed)

def capabilitiesConfig (capabilities : List String) : PlainConfig :=
  (allConfigs stores.defaultCapabilities).appendAll
    (listedConfigs stores.capabilities capabilities)

def plainSetCapabilities (containerID : Int) (capabilities : List String) :
    Method κ PUnit := do
  if capabilities = [] then
    return ⟨⟩
  else if (listedConfigs stores.capabilities capabilities).isEmpty then
    throw (.softwareContainerError "One or more capabilities were not found")
  else if !(← plainUpdateGatewayConfigs cls containerID
      (capabilitiesConfig stores capabilities)) then
    throw (.softwareContainerError "Could not set gateway configuration for capability")
  else
    return ⟨⟩

def plainSetDefaultCapabilities (containerID : Int) : Method κ PUnit := do
  if !(← plainUpdateGatewayConfigs cls containerID
      (allConfigs stores.defaultCapabilities)) then
    throw (.softwareContainerError
      ("Could not set default capabilities on container " ++ toString containerID))
  else
    return ⟨⟩

def plainEnsureConfigured (containerID : Int) : Method κ PUnit := do
  let configured ← onContainer containerID do
    return cls.previouslyConfigured (← get)
  if !configured then
    plainSetDefaultCapabilities stores cls containerID
  else
    return ⟨⟩

def plainExecute (containerID : Int) (cmdLine workingDirectory outputFile : String)
    (env : EnvironmentVariables) : Method κ Int := do
  plainEnsureConfigured stores cls containerID
  runCommand cls containerID cmdLine workingDirectory outputFile env

def plainPerform (jsonLoads : String → Except String Json) : Operation → Method κ Answer
  | .listCapabilities => return .capabilities stores.capabilities.keys
  | .execute containerID cmdLine workingDirectory outputFile env =>
      .pid <$> plainExecute stores cls containerID cmdLine workingDirectory outputFile env
  | .setCapabilities containerID capabilities =>
      (fun _ => .none) <$> plainSetCapabilities stores cls containerID capabilities
  | operation => perform cls jsonLoads operation

end

/-! Steps on the heap. -/

section

variable {oracle : Oracle Sys} {world : World Sys (SoftwareContainerAgent κ)}
  {heap : JsonHeap}

theorem run_onHeap {step : JsonHeap → Option (α × JsonHeap)} {result : α}
    (stepped : step world.state.heap = some (result, heap)) :
    (onHeap step : Method κ α).run oracle world =
      (.ok result, ⟨{ world.state with heap }, world.history⟩) := by
  rw [onHeap, run_get_bind, stepped]
  rfl

theorem run_destroyConfig {conf : GatewayConfig}
    (destroyed : conf.destructor world.state.heap = some heap) :
    (destroyConfig conf : Method κ PUnit).run oracle world =
      (.ok ⟨⟩, ⟨{ world.state with heap }, world.history⟩) :=
  run_onHeap (by rw [destroyed]; rfl)

theorem run_withConfig {conf : GatewayConfig} {method : Method κ α}
    {result : Except Fault α} {after : World Sys (SoftwareContainerAgent κ)}
    (ended : method.run oracle world = (result, after))
    (destroyed : conf.destructor after.state.heap = some heap) :
    (withConfig conf method).run oracle world =
      (result, ⟨{ after.state with heap }, after.history⟩) := by
  rw [withConfig, run_bind, run_attempt, ended]
  dsimp only
  rw [run_bind_ok (run_destroyConfig destroyed)]
  cases result <;> rfl

end

/-! The methods do the same as their plain versions. -/

/-- The agent still has the stores it has loaded, with their arrays as they were. -/
structure Intact (stores : LoadedStores) (agent : SoftwareContainerAgent κ) : Prop where
  filtered : agent.filteredConfigStore = stores.filtered
  defaults : agent.defaultConfigStore = stores.defaults
  since : stores.Since agent.heap

theorem Intact.of_memory {stores : LoadedStores} {agent after : SoftwareContainerAgent κ}
    (intact : Intact stores agent) (same : after.memory = agent.memory) :
    Intact stores after where
  filtered := (congrArg Memory.filteredConfigStore same).trans intact.filtered
  defaults := (congrArg Memory.defaultConfigStore same).trans intact.defaults
  since := by
    have heap : after.heap = agent.heap := congrArg Memory.heap same
    rw [heap]
    exact intact.since

abbrev forgetMemory (self : SoftwareContainerAgent κ) : SoftwareContainerAgent κ :=
  withMemory ⟨.empty, .empty, .empty⟩ self

abbrev SimulatesPlain (stores : LoadedStores) (method plain : Method κ α) : Prop :=
  Simulates (Intact stores) forgetMemory method plain

theorem MemoryFree.run_heap {method : Method κ α} (free : MemoryFree method)
    (oracle : Oracle Sys) (world : World Sys (SoftwareContainerAgent κ)) (heap : JsonHeap) :
    method.run oracle ⟨{ world.state with heap }, world.history⟩ =
      ((method.run oracle world).1,
        ⟨{ (method.run oracle world).2.state with heap }, (method.run oracle world).2.history⟩) := by
  have framed := free
    ⟨world.state.filteredConfigStore, world.state.defaultConfigStore, heap⟩ oracle world
  have left := free.leaves oracle world
  have filtered : (method.run oracle world).2.state.filteredConfigStore =
      world.state.filteredConfigStore := congrArg Memory.filteredConfigStore left
  have defaults : (method.run oracle world).2.state.defaultConfigStore =
      world.state.defaultConfigStore := congrArg Memory.defaultConfigStore left
  refine framed.trans ?_
  rw [withMemory, ← filtered, ← defaults]

theorem MemoryFree.simulates {stores : LoadedStores} {method : Method κ α}
    (free : MemoryFree method) : SimulatesPlain stores method method :=
  (free _).simulates (free.leaves.preserves fun _ _ intact same => intact.of_memory same)

section

variable (stores : LoadedStores) (cls : ContainerClass κ)

theorem memoryFree_plainUpdate (containerID : Int) (configs : PlainConfig) :
    MemoryFree (plainUpdateGatewayConfigs cls containerID configs) :=
  memoryFree_of_transport fun _ => erases_bind (erases_assertContainerExists containerID)
    fun _ => erases_onContainer containerID ((ErasesClass.refl cls).startGateways _)

theorem run_assertContainerExists (containerID : Int) (oracle : Oracle Sys)
    (world : World Sys (SoftwareContainerAgent κ)) :
    ∃ result, (assertContainerExists containerID : Method κ PUnit).run oracle world =
      (result, world) := by
  rw [assertContainerExists]
  split
  · exact ⟨_, rfl⟩
  · split
    · exact ⟨_, rfl⟩
    · rw [run_get_bind]
      split
      · exact ⟨_, rfl⟩
      · exact ⟨_, rfl⟩

theorem run_updateGatewayConfigs {configs : GatewayConfig} (containerID : Int)
    (oracle : Oracle Sys) {world : World Sys (SoftwareContainerAgent κ)}
    (live : configs.Live world.state.heap) :
    (updateGatewayConfigs cls containerID configs).run oracle world =
      (plainUpdateGatewayConfigs cls containerID (configs.value world.state.heap)).run
        oracle world := by
  obtain ⟨result, asserted⟩ := run_assertContainerExists containerID oracle world
  rw [updateGatewayConfigs, plainUpdateGatewayConfigs, run_bind, run_bind, asserted]
  cases result with
  | error error => rfl
  | ok _ =>
      dsimp only
      rw [run_get_bind, handedOver_eq_some live]

theorem run_updated {configs : GatewayConfig} {plain : PlainConfig} (containerID : Int)
    (next : Bool → Method κ α) (free : ∀ updated, MemoryFree (next updated))
    (oracle : Oracle Sys) (world : World Sys (SoftwareContainerAgent κ)) {heap : JsonHeap}
    (live : configs.Live heap) (value : configs.value heap = plain) :
    (updateGatewayConfigs cls containerID configs >>= next).run oracle
        ⟨{ world.state with heap }, world.history⟩ =
      (((plainUpdateGatewayConfigs cls containerID plain >>= next).run oracle world).1,
        ⟨{ ((plainUpdateGatewayConfigs cls containerID plain >>= next).run oracle
            world).2.state with heap },
          ((plainUpdateGatewayConfigs cls containerID plain >>= next).run oracle
            world).2.history⟩) := by
  have plainFree : MemoryFree (plainUpdateGatewayConfigs cls containerID plain >>= next) :=
    fun memory => erases_bind (memoryFree_plainUpdate cls containerID plain memory)
      fun updated => free updated memory
  rw [run_bind, run_updateGatewayConfigs cls containerID oracle live, ← run_bind]
  dsimp only
  rw [value]
  exact plainFree.run_heap oracle world heap

theorem run_setCapabilities {world : World Sys (SoftwareContainerAgent κ)}
    (intact : Intact stores world.state) (oracle : Oracle Sys) (containerID : Int)
    (capabilities : List String) :
    ∃ heap, stores.Since heap ∧
      (setCapabilities cls containerID capabilities).run oracle world =
        (((plainSetCapabilities stores cls containerID capabilities).run oracle world).1,
          ⟨{ ((plainSetCapabilities stores cls containerID capabilities).run oracle
              world).2.state with heap },
            ((plainSetCapabilities stores cls containerID capabilities).run oracle
              world).2.history⟩) := by
  rw [setCapabilities, plainSetCapabilities]
  by_cases nothing : capabilities = []
  · rw [if_pos nothing, if_pos nothing]
    exact ⟨world.state.heap, intact.since, rfl⟩
  · obtain ⟨gatewayConfigs, between, filteredConfigs, made, madeDefaults, madeFiltered,
      ownedDefaults, ownedFiltered, apart, nextMade, keptMade, valueDefaults,
      valueFiltered⟩ := intact.since.handed_out capabilities
    rw [if_neg nothing, if_neg nothing, run_get_bind]
    have defaults : world.state.defaultConfigStore.configs world.state.heap =
        some (gatewayConfigs, between) := intact.defaults ▸ madeDefaults
    have filtered : world.state.filteredConfigStore.configsByID capabilities between =
        some (filteredConfigs, made) := intact.filtered ▸ madeFiltered
    rw [run_bind_ok (run_onHeap defaults), run_bind_ok (run_onHeap filtered)]
    have sinceMade : stores.Since made := intact.since.later nextMade keptMade
    have sameEmpty : filteredConfigs.isEmpty =
        (listedConfigs stores.capabilities capabilities).isEmpty := by
      rw [← valueFiltered, Std.ExtTreeMap.isEmpty_eq_size_beq_zero, GatewayConfig.value,
        Std.ExtTreeMap.size_map, GatewayConfig.isEmpty,
        Std.ExtTreeMap.isEmpty_eq_size_beq_zero]
    rw [sameEmpty]
    cases (listedConfigs stores.capabilities capabilities).isEmpty with
    | true =>
        obtain ⟨middle, after, endedFiltered, endedDefaults, next, kept⟩ :=
          destroyed_both ownedDefaults ownedFiltered nextMade
            fun id address holds other held => apart other address held id holds
        rw [if_pos rfl, if_pos rfl]
        have thrown := run_withConfig
          (show (throw (.softwareContainerError "One or more capabilities were not found") :
              Method κ PUnit).run oracle ⟨{ world.state with heap := made }, world.history⟩ =
            (.error (.softwareContainerError "One or more capabilities were not found"),
              ⟨{ world.state with heap := made }, world.history⟩) from rfl) endedFiltered
        have thrownOn := run_withConfig thrown endedDefaults
        refine ⟨after, ?_, thrownOn⟩
        exact intact.since.later (Nat.le_trans nextMade next) fun address below => by
          rw [kept address below, keptMade address below]
    | false =>
        rw [if_neg (by decide), if_neg (by decide)]
        obtain ⟨merged, appended, ended, ownedMerged, keeps, origin, value⟩ :=
          GatewayConfig.appendAll_owned ownedDefaults nextMade ownedFiltered.live apart
        have filteredKept : ∀ id address, filteredConfigs.Holds id address →
            appended.cells address = made.cells address := fun id address holds =>
          keeps.2 address (ownedFiltered.live.below holds) (apart id address holds)
        obtain ⟨middle, after, endedFiltered, endedMerged, next, kept⟩ :=
          destroyed_both ownedMerged (ownedFiltered.of_kept filteredKept)
            (Nat.le_trans nextMade keeps.1) fun id address holds other held =>
              (origin id address holds).elim (apart other address held id) fun late => by
                have := ownedFiltered.live.below held
                omega
        have isMerged : merged.value appended = capabilitiesConfig stores capabilities := by
          rw [value, valueDefaults, valueFiltered, capabilitiesConfig]
        rw [run_bind_ok (run_onHeap ended)]
        have updated := run_updated cls containerID
          (fun updated => if (!updated) = true then
              throw (.softwareContainerError
                "Could not set gateway configuration for capability")
            else return PUnit.unit)
          (fun _ memory => erases_ite (erases_throw _) (erases_pure _)) oracle world
          ownedMerged.live isMerged
        have updatedOn := run_withConfig (run_withConfig updated endedFiltered) endedMerged
        refine ⟨after, ?_, updatedOn⟩
        refine intact.since.later (Nat.le_trans nextMade (Nat.le_trans keeps.1 next))
          fun address below => ?_
        rw [kept address below, keepsBelow_of_keeps ownedDefaults nextMade keeps address below,
          keptMade address below]

theorem run_setDefaultCapabilities {world : World Sys (SoftwareContainerAgent κ)}
    (intact : Intact stores world.state) (oracle : Oracle Sys) (containerID : Int) :
    ∃ heap, stores.Since heap ∧
      (setDefaultCapabilities cls containerID).run oracle world =
        (((plainSetDefaultCapabilities stores cls containerID).run oracle world).1,
          ⟨{ ((plainSetDefaultCapabilities stores cls containerID).run oracle
              world).2.state with heap },
            ((plainSetDefaultCapabilities stores cls containerID).run oracle
              world).2.history⟩) := by
  obtain ⟨gatewayConfigs, made, madeDefaults, owned, nextMade, keptMade, value⟩ :=
    intact.since.configs stores.defaultsLive
  have defaults : world.state.defaultConfigStore.configs world.state.heap =
      some (gatewayConfigs, made) := intact.defaults ▸ madeDefaults
  obtain ⟨after, destroyed, keeps⟩ := GatewayConfig.destructor_owned owned
  rw [setDefaultCapabilities, plainSetDefaultCapabilities, run_get_bind,
    run_bind_ok (run_onHeap defaults)]
  have updated := run_updated cls containerID
    (fun updated => if (!updated) = true then
        throw (.softwareContainerError
          ("Could not set default capabilities on container " ++ toString containerID))
      else return PUnit.unit)
    (fun _ memory => erases_ite (erases_throw _) (erases_pure _)) oracle world owned.live value
  have updatedOn := run_withConfig updated destroyed
  refine ⟨after, ?_, updatedOn⟩
  refine intact.since.later (Nat.le_trans nextMade keeps.1) fun address below => ?_
  rw [keepsBelow_of_keeps owned nextMade keeps address below, keptMade address below]

theorem memoryFree_plainSetCapabilities (containerID : Int) (capabilities : List String) :
    MemoryFree (plainSetCapabilities stores cls containerID capabilities) :=
  fun memory => erases_ite (erases_pure _) (erases_ite (erases_throw _)
    (erases_bind (memoryFree_plainUpdate cls containerID _ memory) fun _ =>
      erases_ite (erases_throw _) (erases_pure _)))

theorem memoryFree_plainSetDefaultCapabilities (containerID : Int) :
    MemoryFree (plainSetDefaultCapabilities stores cls containerID) :=
  fun memory => erases_bind (memoryFree_plainUpdate cls containerID _ memory) fun _ =>
    erases_ite (erases_throw _) (erases_pure _)

theorem simulates_of_run_heap {method plain : Method κ α} (free : MemoryFree plain)
    (run : ∀ (oracle : Oracle Sys) (world : World Sys (SoftwareContainerAgent κ)),
      Intact stores world.state → ∃ heap, stores.Since heap ∧
        method.run oracle world = ((plain.run oracle world).1,
          ⟨{ (plain.run oracle world).2.state with heap },
            (plain.run oracle world).2.history⟩)) :
    SimulatesPlain stores method plain := by
  intro oracle world intact
  obtain ⟨heap, since, ended⟩ := run oracle world intact
  have left := free.leaves oracle world
  refine ⟨(free _ oracle world).trans ?_, ?_⟩
  · rw [ended]
    rfl
  · rw [ended]
    exact ⟨(congrArg Memory.filteredConfigStore left).trans intact.filtered,
      (congrArg Memory.defaultConfigStore left).trans intact.defaults, since⟩

theorem memoryFree_runCommand (containerID : Int)
    (cmdLine workingDirectory outputFile : String) (env : EnvironmentVariables) :
    MemoryFree (runCommand cls containerID cmdLine workingDirectory outputFile env) :=
  memoryFree_of_transport fun _ => erases_runCommand (.refl cls) containerID _ _ _ _

theorem simulates_execute (containerID : Int)
    (cmdLine workingDirectory outputFile : String) (env : EnvironmentVariables) :
    SimulatesPlain stores
      (execute cls containerID cmdLine workingDirectory outputFile env)
      (plainExecute stores cls containerID cmdLine workingDirectory outputFile env) := by
  have asked : MemoryFree (onContainer containerID do
      return cls.previouslyConfigured (← get)) :=
    memoryFree_of_transport fun _ => erases_previouslyConfigured (.refl cls) containerID
  have defaults := simulates_of_run_heap stores
    (memoryFree_plainSetDefaultCapabilities stores cls containerID)
    fun oracle world intact => run_setDefaultCapabilities stores cls intact oracle containerID
  have unchanged : MemoryFree (pure ⟨⟩ : Method κ PUnit) := fun _ => erases_pure _
  exact simulates_bind (simulates_bind asked.simulates fun _ =>
    simulates_ite defaults unchanged.simulates) fun _ =>
    (memoryFree_runCommand cls containerID _ _ _ _).simulates

theorem simulates_perform (jsonLoads : String → Except String Json) (operation : Operation) :
    SimulatesPlain stores (perform cls jsonLoads operation)
      (plainPerform stores cls jsonLoads operation) := by
  have free : ∀ {α : Type} {method : Method κ α},
      (∀ memory, Erases (transport id fun _ => memory) method method) →
      SimulatesPlain stores method method :=
    fun erases => (memoryFree_of_transport erases).simulates
  have same := ErasesClass.refl cls
  cases operation with
  | listContainers =>
      refine simulates_map (free fun memory => erases_get_bind fun self => ?_)
      exact fun _ _ => by rw [transport, Std.ExtTreeMap.keys_map]; rfl
  | listCapabilities =>
      intro oracle world intact
      refine ⟨?_, intact⟩
      rw [plainPerform, perform, run_map, listCapabilities, run_get_bind, intact.filtered,
        LoadedStores.capabilities, ConfigStore.value, Std.ExtTreeMap.keys_map]
      rfl
  | createContainer config =>
      exact simulates_map (free fun _ => erases_createContainer same jsonLoads config)
  | deleteContainer containerID =>
      exact simulates_map (free fun _ => erases_deleteContainer same containerID)
  | shutdownContainer containerID =>
      exact simulates_map (free fun _ => erases_shutdownContainer same containerID)
  | execute containerID cmdLine workingDirectory outputFile env =>
      exact simulates_map (simulates_execute stores cls containerID _ _ _ _)
  | suspendContainer containerID =>
      exact simulates_map (free fun _ => erases_onContainer containerID same.suspend)
  | resumeContainer containerID =>
      exact simulates_map (free fun _ => erases_onContainer containerID same.resume)
  | bindMount containerID pathInHost pathInContainer readOnly =>
      exact simulates_map (free fun _ => erases_bindMount same containerID _ _ _)
  | setCapabilities containerID capabilities =>
      exact simulates_map (simulates_of_run_heap stores
        (memoryFree_plainSetCapabilities stores cls containerID capabilities)
        fun oracle world intact =>
          run_setCapabilities stores cls intact oracle containerID capabilities)

end

theorem construct_intact {containerConfig : SoftwareContainerConfig}
    {manifests defaultManifests : List Json} {agent : SoftwareContainerAgent κ}
    (constructed : construct containerConfig manifests defaultManifests = .ok agent) :
    ∃ stores : LoadedStores, Intact stores agent ∧
      stores.capabilities = agent.filteredConfigStore.value agent.heap ∧
      stores.defaultCapabilities = agent.defaultConfigStore.value agent.heap ∧
      agent.containers = ∅ := by
  rw [construct] at constructed
  obtain ⟨⟨filtered, between⟩, isFiltered, constructed⟩ := except_bind_eq_ok constructed
  obtain ⟨⟨defaults, heap⟩, isDefaults, constructed⟩ := except_bind_eq_ok constructed
  cases constructed
  obtain ⟨_, loadedFiltered⟩ := loaded_of_load isFiltered
  obtain ⟨_, loadedDefaults⟩ := loaded_of_load isDefaults
  have filteredLive : filtered.Live heap := live_of_kept loadedFiltered.live
    fun name config found id address holds => loadedDefaults.kept address
      ((loadedFiltered.live name config found).below holds)
  exact ⟨⟨filtered, defaults, heap, filteredLive, loadedDefaults.live⟩,
    ⟨rfl, rfl, .refl _⟩, rfl, rfl, rfl⟩

end SoftwareContainerAgent

end SoftwareContainers
