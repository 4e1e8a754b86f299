import SoftwareContainers.Agent.Each
import SoftwareContainers.Agent.Logged
import SoftwareContainers.Agent.Pool

namespace SoftwareContainers

open Effect Effect.Act ConfigStore

/-! What `setCapabilities` and `execute` hand to the containers. -/

def GatewayConfiguration.elementsFor (gwConfig : GatewayConfiguration) (gateway : String) :
    List Json :=
  (gwConfig[gateway]?.map Json.elements).getD []

/-- All default configurations for a gateway, in the order of the store. -/
def defaultElements (defaults : Std.ExtTreeMap String PlainConfig) (gateway : String) :
    List Json :=
  defaults.toList.flatMap fun cap => cap.2[gateway]?.getD []

def listedElements (capabilities : Std.ExtTreeMap String PlainConfig)
    (capIDs : List String) (gateway : String) : List Json :=
  capIDs.flatMap fun capID => (capabilities.getD capID ∅)[gateway]?.getD []

theorem elementsFor_handed (plain : PlainConfig) (gateway : String) :
    plain.handed.elementsFor gateway = plain[gateway]?.getD [] := by
  rw [GatewayConfiguration.elementsFor, PlainConfig.handed, Std.ExtTreeMap.getElem?_map]
  cases plain[gateway]? <;> rfl

theorem getD_appendAll (plain source : PlainConfig) (gateway : String) :
    (plain.appendAll source)[gateway]?.getD [] =
      plain[gateway]?.getD [] ++ source[gateway]?.getD [] := by
  rw [PlainConfig.getElem?_appendAll]
  cases source[gateway]? <;> simp

theorem getD_foldl_appendAll {ι : Type} (part : ι → PlainConfig) (items : List ι)
    (plain : PlainConfig) (gateway : String) :
    (items.foldl (fun plain item => plain.appendAll (part item)) plain)[gateway]?.getD [] =
      plain[gateway]?.getD [] ++ items.flatMap fun item => (part item)[gateway]?.getD [] := by
  induction items generalizing plain with
  | nil => simp
  | cons item rest ih =>
      rw [List.foldl_cons, ih, getD_appendAll, List.flatMap_cons, List.append_assoc]

theorem getD_allConfigs (defaults : Std.ExtTreeMap String PlainConfig) (gateway : String) :
    (allConfigs defaults)[gateway]?.getD [] = defaultElements defaults gateway := by
  rw [allConfigs, getD_foldl_appendAll, defaultElements]
  simp

theorem getD_listedConfigs (capabilities : Std.ExtTreeMap String PlainConfig)
    (capIDs : List String) (gateway : String) :
    (listedConfigs capabilities capIDs)[gateway]?.getD [] =
      listedElements capabilities capIDs gateway := by
  rw [listedConfigs, getD_foldl_appendAll, listedElements]
  simp

/-- For every gateway, the default configurations and then those of the listed
capabilities. -/
structure HandsOver (defaults capabilities : Std.ExtTreeMap String PlainConfig)
    (capIDs : List String) (gwConfig : GatewayConfiguration) : Prop where
  arrays : ∀ (gateway : String) config, gwConfig[gateway]? = some config →
    ∃ elements, config = .array elements
  elements : ∀ gateway, gwConfig.elementsFor gateway =
    defaultElements defaults gateway ++ listedElements capabilities capIDs gateway

theorem handed_arrays {plain : PlainConfig} {gateway : String} {config : Json}
    (found : plain.handed[gateway]? = some config) : ∃ elements, config = .array elements := by
  rw [PlainConfig.handed, Std.ExtTreeMap.getElem?_map] at found
  obtain ⟨elements, _, rfl⟩ := Option.map_eq_some_iff.mp found
  exact ⟨elements, rfl⟩

namespace SoftwareContainerAgent

variable {κ α : Type}

theorem handsOver_capabilitiesConfig (stores : LoadedStores) (capIDs : List String) :
    HandsOver stores.defaultCapabilities stores.capabilities capIDs
      (capabilitiesConfig stores capIDs).handed where
  arrays _ _ found := handed_arrays found
  elements gateway := by
    rw [elementsFor_handed, capabilitiesConfig, getD_appendAll, getD_allConfigs,
      getD_listedConfigs]

theorem run_plainUpdateGatewayConfigs (cls : ContainerClass κ) (containerID : Int)
    (configs : PlainConfig) (oracle : Oracle Sys)
    (world : World Sys (SoftwareContainerAgent κ)) :
    (∃ error, (plainUpdateGatewayConfigs cls containerID configs).run oracle world =
      (.error error, world)) ∨
    (plainUpdateGatewayConfigs cls containerID configs).run oracle world =
      (onContainer containerID (cls.startGateways configs.handed)).run oracle world := by
  obtain ⟨result, asserted⟩ := run_assertContainerExists containerID oracle world
  rw [plainUpdateGatewayConfigs]
  cases result with
  | error error =>
      rw [run_bind_error asserted]
      exact .inl ⟨error, rfl⟩
  | ok _ =>
      rw [run_bind_ok asserted]
      exact .inr rfl

/-- What happens to the logs of the containers that there are: only that of `containerID`
gets calls, which start gateways with configurations of one kind. -/
def Appends (containerID : Int) (kind : GatewayConfiguration → Prop)
    (before after : Std.ExtTreeMap Int (Logged κ)) : Prop :=
  ∀ other container, before[other]? = some container →
    ∃ later calls, after[other]? = some later ∧ later.calls = container.calls ++ calls ∧
      ∀ call ∈ calls, other = containerID ∧
        ∃ gwConfig result, call = .startGateways gwConfig result ∧ kind gwConfig

theorem appends_refl (containerID : Int) (kind : GatewayConfiguration → Prop)
    (containers : Std.ExtTreeMap Int (Logged κ)) :
    Appends containerID kind containers containers :=
  fun _ container found =>
    ⟨container, [], found, (List.append_nil _).symm, List.forall_mem_nil _⟩

theorem appends_insert {containerID : Int} {kind : GatewayConfiguration → Prop}
    {containers : Std.ExtTreeMap Int (Logged κ)} {container later : Logged κ}
    (found : containers[containerID]? = some container) {gwConfig : GatewayConfiguration}
    (isKind : kind gwConfig) {result : Except Fault Bool}
    (appended : later.calls = container.calls ++ [ContainerCall.startGateways gwConfig result]) :
    Appends containerID kind containers (containers.insert containerID later) := by
  intro other before foundOther
  by_cases same : containerID = other
  · subst same
    cases found.symm.trans foundOther
    refine ⟨later, _, ?_, appended, fun only member => ?_⟩
    · rw [getElem?_insert, if_pos rfl]
    · rw [List.mem_singleton.mp member]
      exact ⟨rfl, gwConfig, result, rfl, isKind⟩
  · refine ⟨before, [], ?_, (List.append_nil _).symm, List.forall_mem_nil _⟩
    rw [getElem?_insert, if_neg same]
    exact foundOther

theorem run_plainUpdate_logged (cls : ContainerClass κ) (containerID : Int)
    (configs : PlainConfig) (oracle : Oracle Sys)
    (world : World Sys (SoftwareContainerAgent (Logged κ))) :
    (∃ error, (plainUpdateGatewayConfigs (Logged.containerClass cls) containerID
      configs).run oracle world = (.error error, world)) ∨
    ∃ container later result history,
      world.state.containers[containerID]? = some container ∧
      later.calls = container.calls ++ [ContainerCall.startGateways configs.handed result] ∧
      (plainUpdateGatewayConfigs (Logged.containerClass cls) containerID configs).run
        oracle world = (result, ⟨{ world.state with
          containers := world.state.containers.insert containerID later }, history⟩) := by
  rcases run_plainUpdateGatewayConfigs (Logged.containerClass cls) containerID configs
    oracle world with failed | ended
  · exact .inl failed
  · rw [ended]
    rcases run_onContainer containerID
      ((Logged.containerClass cls).startGateways configs.handed) oracle world
      with failed | ⟨container, found, ended⟩
    · exact .inl failed
    · refine .inr ⟨container, _, _, _, found, ?_, ended⟩
      have called := Logged.run_logged (.startGateways configs.handed)
        (cls.startGateways configs.handed) oracle ⟨container, world.history⟩
      rw [Logged.containerClass]
      dsimp only
      rw [called]

theorem appends_plainUpdate (cls : ContainerClass κ) (containerID : Int)
    (configs : PlainConfig) (oracle : Oracle Sys)
    (world : World Sys (SoftwareContainerAgent (Logged κ))) :
    Appends containerID (· = configs.handed) world.state.containers
      ((plainUpdateGatewayConfigs (Logged.containerClass cls) containerID configs).run
        oracle world).2.state.containers := by
  rcases run_plainUpdate_logged cls containerID configs oracle world with
    ⟨error, ended⟩ | ⟨container, later, result, history, found, appended, ended⟩
  · rw [ended]
    exact appends_refl _ _ _
  · rw [ended]
    exact appends_insert found rfl appended

theorem run_updated_state (update : Method κ Bool) (refused : Fault) (oracle : Oracle Sys)
    (world : World Sys (SoftwareContainerAgent κ)) :
    ((do if !(← update) then throw refused else return ⟨⟩ : Method κ PUnit).run
      oracle world).2 = (update.run oracle world).2 := by
  rw [run_bind]
  cases update.run oracle world with
  | mk result after =>
      cases result with
      | error error => rfl
      | ok succeeded => cases succeeded <;> rfl

theorem updated_of_ok {update : Method κ Bool} {refused : Fault} {oracle : Oracle Sys}
    {world : World Sys (SoftwareContainerAgent κ)}
    (ended : ((do if !(← update) then throw refused else return ⟨⟩ : Method κ PUnit).run
      oracle world).1 = .ok ⟨⟩) : (update.run oracle world).1 = .ok true := by
  rw [run_bind] at ended
  cases run : update.run oracle world with
  | mk result after =>
      rw [run] at ended
      cases result with
      | error error => cases ended
      | ok succeeded =>
          cases succeeded with
          | false => cases ended
          | true => rfl

def HandedOver (containerID : Int) (kind : GatewayConfiguration → Prop)
    (before after : Std.ExtTreeMap Int (Logged κ)) : Prop :=
  ∃ container later gwConfig, before[containerID]? = some container ∧
    after[containerID]? = some later ∧
    later.calls = container.calls ++ [.startGateways gwConfig (.ok true)] ∧ kind gwConfig

theorem handedOver_plainUpdate (cls : ContainerClass κ) {containerID : Int}
    {configs : PlainConfig} {oracle : Oracle Sys}
    {world : World Sys (SoftwareContainerAgent (Logged κ))}
    (updated : ((plainUpdateGatewayConfigs (Logged.containerClass cls) containerID
      configs).run oracle world).1 = .ok true) :
    HandedOver containerID (· = configs.handed) world.state.containers
      ((plainUpdateGatewayConfigs (Logged.containerClass cls) containerID configs).run
        oracle world).2.state.containers := by
  rcases run_plainUpdate_logged cls containerID configs oracle world with
    ⟨error, ended⟩ | ⟨container, later, result, history, found, appended, ended⟩
  · rw [ended] at updated
    cases updated
  · rw [ended] at updated ⊢
    cases updated
    exact ⟨container, later, configs.handed, found,
      by rw [getElem?_insert, if_pos rfl], appended, rfl⟩

section

variable (stores : LoadedStores) (cls : ContainerClass κ) (containerID : Int)
  (capabilities : List String) (oracle : Oracle Sys)
  (world : World Sys (SoftwareContainerAgent (Logged κ)))

theorem appends_plainSetCapabilities :
    Appends containerID
      (HandsOver stores.defaultCapabilities stores.capabilities capabilities)
      world.state.containers
      ((plainSetCapabilities stores (Logged.containerClass cls) containerID
        capabilities).run oracle world).2.state.containers := by
  rw [plainSetCapabilities]
  split
  · exact appends_refl _ _ _
  · split
    · exact appends_refl _ _ _
    · rw [run_updated_state]
      have appends := appends_plainUpdate cls containerID
        (capabilitiesConfig stores capabilities) oracle world
      intro other container found
      obtain ⟨later, calls, foundLater, appended, each⟩ := appends other container found
      refine ⟨later, calls, foundLater, appended, fun call member => ?_⟩
      obtain ⟨isNamed, gwConfig, result, isCall, rfl⟩ := each call member
      exact ⟨isNamed, _, result, isCall, handsOver_capabilitiesConfig stores capabilities⟩

theorem handedOver_plainSetCapabilities (listed : capabilities ≠ [])
    (ended : ((plainSetCapabilities stores (Logged.containerClass cls) containerID
      capabilities).run oracle world).1 = .ok ⟨⟩) :
    HandedOver containerID
      (HandsOver stores.defaultCapabilities stores.capabilities capabilities)
      world.state.containers
      ((plainSetCapabilities stores (Logged.containerClass cls) containerID
        capabilities).run oracle world).2.state.containers := by
  rw [plainSetCapabilities, if_neg listed] at ended ⊢
  split at ended
  · cases ended
  · next nonempty =>
      rw [if_neg nonempty, run_updated_state]
      obtain ⟨container, later, gwConfig, found, foundLater, appended, rfl⟩ :=
        handedOver_plainUpdate cls (updated_of_ok ended)
      exact ⟨container, later, _, found, foundLater, appended,
        handsOver_capabilitiesConfig stores capabilities⟩

theorem handedOver_plainSetDefaultCapabilities
    (ended : ((plainSetDefaultCapabilities stores (Logged.containerClass cls)
      containerID).run oracle world).1 = .ok ⟨⟩) :
    HandedOver containerID (· = (allConfigs stores.defaultCapabilities).handed)
      world.state.containers
      ((plainSetDefaultCapabilities stores (Logged.containerClass cls) containerID).run
        oracle world).2.state.containers := by
  rw [plainSetDefaultCapabilities] at ended ⊢
  rw [run_updated_state]
  exact handedOver_plainUpdate cls (updated_of_ok ended)

end

def returned (handedOut : Option (GatewayConfig × JsonHeap)) : Option PlainConfig :=
  handedOut.map fun made => made.1.value made.2

/-- What the stores of the second agent return is what those of the first were loaded
with. -/
structure ReturnsAsLoaded (loaded agent : SoftwareContainerAgent κ) : Prop where
  defaults : returned (agent.defaultConfigStore.configs agent.heap) =
    some (allConfigs (loaded.defaultConfigStore.value loaded.heap))
  listed : ∀ capIDs, returned (agent.filteredConfigStore.configsByID capIDs agent.heap) =
    some (listedConfigs (loaded.filteredConfigStore.value loaded.heap) capIDs)
  names : agent.filteredConfigStore.IDs = loaded.filteredConfigStore.IDs

theorem Intact.returnsAsLoaded {stores : LoadedStores} {loaded agent : SoftwareContainerAgent κ}
    (intact : Intact stores agent)
    (filtered : stores.capabilities = loaded.filteredConfigStore.value loaded.heap)
    (defaults : stores.defaultCapabilities = loaded.defaultConfigStore.value loaded.heap) :
    ReturnsAsLoaded loaded agent where
  defaults := by
    obtain ⟨conf, after, made, _, _, _, value⟩ := intact.since.configs stores.defaultsLive
    rw [intact.defaults, made, ← defaults]
    exact congrArg some value
  listed capIDs := by
    obtain ⟨conf, after, made, _, _, _, value⟩ :=
      intact.since.configsByID stores.filteredLive capIDs
    rw [intact.filtered, made, ← filtered]
    exact congrArg some value
  names := by
    have keys : ∀ (store : ConfigStore) heap, (store.value heap).keys = store.IDs :=
      fun store heap => Std.ExtTreeMap.keys_map
    rw [intact.filtered, ← keys stores.filtered stores.heap, ← keys _ loaded.heap, ← filtered]
    rfl

/-- After any run, `setCapabilities` hands over what the stores were loaded with, to the
container that is named, and the stores return it as before. -/
theorem capabilities_are_as_loaded (cls : ContainerClass κ)
    (jsonLoads : String → Except String Json) {containerConfig : SoftwareContainerConfig}
    {manifests defaultManifests : List Json} {agent : SoftwareContainerAgent (Logged κ)}
    (constructed : construct containerConfig manifests defaultManifests = .ok agent)
    (oracle : Oracle Sys) (history : History Sys) (operations : List Operation)
    {world : World Sys (SoftwareContainerAgent (Logged κ))}
    (reached : (runAll (perform (Logged.containerClass cls) jsonLoads) oracle operations
      ⟨agent, history⟩).2 = world) (containerID : Int) (capabilities : List String) :
    let handsOver := HandsOver (agent.defaultConfigStore.value agent.heap)
      (agent.filteredConfigStore.value agent.heap) capabilities
    let ended :=
      (setCapabilities (Logged.containerClass cls) containerID capabilities).run oracle world
    Appends containerID handsOver world.state.containers ended.2.state.containers ∧
    (ended.1 = .ok ⟨⟩ → capabilities ≠ [] →
      HandedOver containerID handsOver world.state.containers ended.2.state.containers) ∧
    ReturnsAsLoaded agent world.state := by
  obtain ⟨stores, intact, filtered, defaults, _⟩ := construct_intact constructed
  have later := (simulates_runAll
    (simulates_perform stores (Logged.containerClass cls) jsonLoads) oracle operations
    ⟨agent, history⟩ intact).2
  rw [reached] at later
  obtain ⟨heap, _, ended⟩ := run_setCapabilities stores (Logged.containerClass cls) later
    oracle containerID capabilities
  rw [← filtered, ← defaults]
  dsimp only
  rw [ended]
  exact ⟨appends_plainSetCapabilities stores cls containerID capabilities oracle world,
    fun succeeded listed => handedOver_plainSetCapabilities stores cls containerID
      capabilities oracle world listed succeeded,
    later.returnsAsLoaded filtered defaults⟩

def environmentVariable (name : String) : Json :=
  .object [("name", .string name), ("value", .string "1")]

/-- A default capability and another one, which both configure the environment. -/
theorem capabilities_are_as_loaded_environment :
    ∃ agent, construct .defaults [oneCapability (environmentVariable "A")]
        [oneCapability (environmentVariable "B")] = .ok agent ∧
      let world := (runAll (perform (Logged.containerClass libraryClass) emptyOptions)
        fortunate [.createContainer "[]"] ⟨agent, []⟩).2
      HandedOver 0
        (HandsOver (agent.defaultConfigStore.value agent.heap)
          (agent.filteredConfigStore.value agent.heap) ["com.example"])
        world.state.containers
        ((setCapabilities (Logged.containerClass libraryClass) 0 ["com.example"]).run fortunate
          world).2.state.containers := by
  have evaluated : (match construct .defaults [oneCapability (environmentVariable "A")]
        [oneCapability (environmentVariable "B")] with
      | .error _ => Except.error Fault.undefined
      | .ok agent => ((setCapabilities (Logged.containerClass libraryClass) 0
          ["com.example"]).run fortunate
            (runAll (perform (Logged.containerClass libraryClass) emptyOptions) fortunate
              [.createContainer "[]"] ⟨agent, []⟩).2).1) = .ok ⟨⟩ := by
    decide +kernel
  obtain ⟨agent, constructed⟩ : ∃ agent, construct .defaults
      [oneCapability (environmentVariable "A")] [oneCapability (environmentVariable "B")] =
        .ok agent := ⟨_, rfl⟩
  rw [constructed] at evaluated
  exact ⟨agent, constructed, (capabilities_are_as_loaded libraryClass emptyOptions constructed
    fortunate [] [.createContainer "[]"] rfl 0 ["com.example"]).2.1 evaluated (by decide)⟩

end SoftwareContainerAgent

end SoftwareContainers
