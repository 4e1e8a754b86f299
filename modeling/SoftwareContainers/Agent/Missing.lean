import SoftwareContainers.Agent.Configured
import SoftwareContainers.Agent.Handover

namespace SoftwareContainers

open Effect Effect.Act ConfigStore

/-! Whether `setCapabilities` reports the names that are in no store. -/

theorem PlainConfig.appendAll_eq_empty {self source : PlainConfig} :
    self.appendAll source = ∅ ↔ self = ∅ ∧ source = ∅ := by
  have empty (plain : PlainConfig) : plain = ∅ ↔ ∀ id : String, plain[id]? = none :=
    ⟨fun same id => by rw [same, Std.ExtTreeMap.getElem?_empty],
      fun none => Std.ExtTreeMap.ext_getElem? fun id => by
        rw [none id, Std.ExtTreeMap.getElem?_empty]⟩
  rw [empty, empty self, empty source, ← forall_and]
  refine forall_congr' fun id => ?_
  rw [PlainConfig.getElem?_appendAll]
  cases source[id]? with
  | none => simp
  | some elements => simp

theorem ConfigStore.listedConfigs_eq_empty {capabilities : Std.ExtTreeMap String PlainConfig}
    {capIDs : List String} :
    listedConfigs capabilities capIDs = ∅ ↔
      ∀ capID ∈ capIDs, capabilities.getD capID ∅ = ∅ := by
  have folded (plain : PlainConfig) :
      capIDs.foldl (fun plain id => plain.appendAll (capabilities.getD id ∅)) plain = ∅ ↔
        plain = ∅ ∧ ∀ capID ∈ capIDs, capabilities.getD capID ∅ = ∅ := by
    induction capIDs generalizing plain with
    | nil => simp
    | cons capID rest ih =>
        rw [List.foldl_cons, ih, PlainConfig.appendAll_eq_empty, List.forall_mem_cons, and_assoc]
  rw [listedConfigs, folded]
  exact and_iff_right rfl

theorem PlainConfig.handed_ne_empty {plain : PlainConfig} (nonempty : plain ≠ ∅) :
    plain.handed ≠ ∅ := by
  intro empty
  refine nonempty (Std.ExtTreeMap.ext_getElem? fun id => ?_)
  have none : plain.handed[id]? = none := by rw [empty, Std.ExtTreeMap.getElem?_empty]
  rw [PlainConfig.handed, Std.ExtTreeMap.getElem?_map, Option.map_eq_none_iff] at none
  rw [none, Std.ExtTreeMap.getElem?_empty]

namespace SoftwareContainerAgent

variable {κ : Type}

def ConfiguresNothing (before after : Std.ExtTreeMap Int ConfiguredContainer) : Prop :=
  ∀ (id : Int) self, before[id]? = some self →
    ∃ later, after[id]? = some later ∧ later.2 = self.2

abbrev notFound : Fault := .softwareContainerError "One or more capabilities were not found"

/-- A name that is missing ends in an exception before any gateway is configured, and there
is no exception for missing names if there are none. -/
structure ReportsMissing (store : Std.ExtTreeMap String PlainConfig) (capIDs : List String)
    (before : Std.ExtTreeMap Int ConfiguredContainer)
    (ended : Except Fault PUnit × World Sys (SoftwareContainerAgent ConfiguredContainer)) :
    Prop where
  missing : (∃ capID ∈ capIDs, capID ∉ store) →
    (∃ error, ended.1 = .error error) ∧ ConfiguresNothing before ended.2.state.containers
  present : (∀ capID ∈ capIDs, capID ∈ store) → ended.1 ≠ .error notFound

/-- A container that the agent has, with an identifier that is accepted. -/
def Known (containerID : Int) (agent : SoftwareContainerAgent κ) : Prop :=
  containerID < INT32_MAX ∧ 0 ≤ containerID ∧ containerID ∈ agent.containers

/-- Nothing is listed that has a configuration. -/
def NothingListed (store : Std.ExtTreeMap String PlainConfig) (capIDs : List String) : Prop :=
  ∀ capID ∈ capIDs, store.getD capID ∅ = ∅

/-- The container is not ready, or it lacks a gateway that the default capabilities or the
listed ones have a configuration for. -/
def Unstartable (store defaults : Std.ExtTreeMap String PlainConfig) (capIDs : List String)
    (containerID : Int) (agent : SoftwareContainerAgent ConfiguredContainer) : Prop :=
  ∃ self, agent.containers[containerID]? = some self ∧
    self.Refuses ((allConfigs defaults).appendAll (listedConfigs store capIDs)).handed

theorem configuresNothing_refl (containers : Std.ExtTreeMap Int ConfiguredContainer) :
    ConfiguresNothing containers containers :=
  fun _ self found => ⟨self, found, rfl⟩

theorem run_assertContainerExists_eq (containerID : Int) (oracle : Oracle Sys)
    (world : World Sys (SoftwareContainerAgent κ)) :
    (Known containerID world.state →
      (assertContainerExists containerID : Method κ PUnit).run oracle world =
        (.ok ⟨⟩, world)) ∧
    (¬ Known containerID world.state → ∃ error, error ≠ notFound ∧
      (assertContainerExists containerID : Method κ PUnit).run oracle world =
        (.error error, world)) := by
  have different (text : String) :
      Fault.softwareContainerError ("Invalid Container ID: " ++ toString containerID ++ text) ≠
        notFound := by
    intro same
    have texts := congrArg (fun text => text.toList.head?) (Fault.softwareContainerError.inj same)
    simp at texts
  rw [assertContainerExists]
  split
  · rename_i large
    exact ⟨fun known => absurd known.1 (Int.not_lt.mpr large), fun _ => ⟨_, different _, rfl⟩⟩
  · rename_i small
    split
    · rename_i negative
      exact ⟨fun known => absurd known.2.1 (Int.not_le.mpr negative),
        fun _ => ⟨_, different _, rfl⟩⟩
    · rename_i natural
      rw [run_get_bind]
      split
      · rename_i absent
        refine ⟨fun known => ?_, fun _ => ⟨_, different _, rfl⟩⟩
        rw [Std.ExtTreeMap.contains_iff_mem.mpr known.2.2] at absent
        cases absent
      · rename_i there
        refine ⟨fun _ => rfl, fun unknown => (unknown ⟨?_, ?_, ?_⟩).elim⟩
        · exact Int.not_le.mp small
        · exact Int.not_lt.mp natural
        · simpa using there

section

variable (shellParseArgv : String → Option (List String)) {containerID : Int}
  (configs : PlainConfig) (oracle : Oracle Sys)
  {world : World Sys (SoftwareContainerAgent ConfiguredContainer)}

theorem run_plainUpdate_of_unknown (cls : ContainerClass κ)
    {world : World Sys (SoftwareContainerAgent κ)} (unknown : ¬ Known containerID world.state) :
    ∃ error, error ≠ notFound ∧
      (plainUpdateGatewayConfigs cls containerID configs).run oracle world =
        (.error error, world) := by
  obtain ⟨error, different, asserted⟩ :=
    (run_assertContainerExists_eq containerID oracle world).2 unknown
  refine ⟨error, different, ?_⟩
  rw [plainUpdateGatewayConfigs, run_bind_error asserted]

theorem run_plainUpdate_of_known (cls : ContainerClass κ)
    {world : World Sys (SoftwareContainerAgent κ)} (known : Known containerID world.state)
    {container : κ} (found : world.state.containers[containerID]? = some container) :
    (plainUpdateGatewayConfigs cls containerID configs).run oracle world =
      let ended := (cls.startGateways configs.handed).run oracle ⟨container, world.history⟩
      (ended.1, ⟨containersLens.set (world.state.containers.insert containerID ended.2.state)
        world.state, ended.2.history⟩) := by
  have asserted := (run_assertContainerExists_eq containerID oracle world).1 known
  rw [plainUpdateGatewayConfigs, run_bind_ok asserted, onContainer, run_bind_ok asserted]
  exact run_onEntry_of_found found

theorem run_plainUpdate_of_refuses {self : ConfiguredContainer}
    (known : Known containerID world.state)
    (found : world.state.containers[containerID]? = some self)
    (refuses : self.Refuses configs.handed) :
    ∃ error, error ≠ notFound ∧ ∃ after,
      (plainUpdateGatewayConfigs (ConfiguredContainer.containerClass shellParseArgv)
        containerID configs).run oracle world = (.error error, after) ∧
      ConfiguresNothing world.state.containers after.state.containers := by
  obtain ⟨error, thrown, other⟩ := ConfiguredContainer.run_startGateways_of_refuses
    shellParseArgv oracle world.history refuses
  have ended := run_plainUpdate_of_known configs oracle
    (ConfiguredContainer.containerClass shellParseArgv) known found
  rw [thrown] at ended
  refine ⟨error, other _, _, ended, fun id before foundBefore => ?_⟩
  dsimp only [containersLens]
  rw [getElem?_insert]
  split
  · rename_i same
    subst same
    exact ⟨self, rfl, congrArg Prod.snd (Option.some.inj (found.symm.trans foundBefore))⟩
  · exact ⟨before, foundBefore, rfl⟩

theorem run_updated_ne_notFound {self : ConfiguredContainer}
    (known : Known containerID world.state)
    (found : world.state.containers[containerID]? = some self) :
    ((do
        if !(← plainUpdateGatewayConfigs (ConfiguredContainer.containerClass shellParseArgv)
            containerID configs) then
          throw (.softwareContainerError "Could not set gateway configuration for capability")
        else
          return ⟨⟩ : Method ConfiguredContainer PUnit).run oracle world).1 ≠
      .error notFound := by
  rw [run_bind, run_plainUpdate_of_known configs oracle _ known found]
  dsimp only
  cases ended : (((ConfiguredContainer.containerClass shellParseArgv).startGateways
      configs.handed).run oracle ⟨self, world.history⟩).1 with
  | error error =>
      rintro ⟨⟩
      have ofContainer := ConfiguredContainer.startGateways_throws shellParseArgv oracle _ ended
      rcases ofContainer with template | suspended | resumed
      · exact absurd template (by decide)
      · exact absurd suspended (by decide)
      · exact absurd resumed (by decide)
  | ok started =>
      cases started with
      | false => exact fun same => absurd (Except.error.inj same) (by decide)
      | true => nofun

theorem run_plainUpdate_of_accepted {self : ConfiguredContainer}
    (known : Known containerID world.state)
    (found : world.state.containers[containerID]? = some self)
    (accepted : ¬ self.Refuses configs.handed) (nonempty : configs ≠ ∅) :
    ¬ ConfiguresNothing world.state.containers
      ((plainUpdateGatewayConfigs (ConfiguredContainer.containerClass shellParseArgv)
        containerID configs).run oracle world).2.state.containers := by
  intro configuresNothing
  have logged := ConfiguredContainer.run_startGateways_log shellParseArgv oracle world.history
    accepted (PlainConfig.handed_ne_empty nonempty)
  rw [run_plainUpdate_of_known configs oracle _ known found] at configuresNothing
  obtain ⟨later, foundLater, same⟩ := configuresNothing containerID self found
  dsimp only [containersLens] at foundLater
  rw [Std.ExtTreeMap.getElem?_insert_self] at foundLater
  cases foundLater
  exact absurd (congrArg List.length same) (Nat.ne_of_gt logged)

end

/-- When the missing names are reported, and no others: either there are some and nothing is
merged or there is no container to configure, or there are none and something is merged. -/
structure CanTell (store defaults : Std.ExtTreeMap String PlainConfig) (capIDs : List String)
    (containerID : Int) (agent : SoftwareContainerAgent ConfiguredContainer) : Prop where
  missing : (∃ capID ∈ capIDs, capID ∉ store) →
    NothingListed store capIDs ∨ ¬ Known containerID agent ∨
      Unstartable store defaults capIDs containerID agent
  present : (∀ capID ∈ capIDs, capID ∈ store) → ¬ NothingListed store capIDs

section

variable {store : Std.ExtTreeMap String PlainConfig} {capIDs : List String}
  {before : Std.ExtTreeMap Int ConfiguredContainer}
  {ended : Except Fault PUnit × World Sys (SoftwareContainerAgent ConfiguredContainer)}

theorem reportsMissing_of_failed {error : Fault} (failed : ended.1 = .error error)
    (different : error ≠ notFound)
    (configuresNothing : ConfiguresNothing before ended.2.state.containers) :
    ReportsMissing store capIDs before ended where
  missing _ := ⟨⟨error, failed⟩, configuresNothing⟩
  present _ thrown := different (Except.error.inj (failed.symm.trans thrown))

theorem reportsMissing_iff_forall (different : ended.1 ≠ .error notFound)
    (configures : ¬ ConfiguresNothing before ended.2.state.containers) :
    ReportsMissing store capIDs before ended ↔ ∀ capID ∈ capIDs, capID ∈ store := by
  constructor
  · intro reports capID isListed
    by_contra missing
    exact configures (reports.missing ⟨capID, isListed, missing⟩).2
  · intro present
    refine ⟨?_, fun _ => different⟩
    rintro ⟨capID, isListed, missing⟩
    exact absurd (present capID isListed) missing

theorem canTell_iff_forall {defaults : Std.ExtTreeMap String PlainConfig} {containerID : Int}
    {agent : SoftwareContainerAgent ConfiguredContainer}
    (someListed : ¬ NothingListed store capIDs) (known : Known containerID agent)
    (startable : ¬ Unstartable store defaults capIDs containerID agent) :
    CanTell store defaults capIDs containerID agent ↔ ∀ capID ∈ capIDs, capID ∈ store := by
  constructor
  · intro canTell capID isListed
    by_contra missing
    rcases canTell.missing ⟨capID, isListed, missing⟩ with nothing | unknown | unstartable
    · exact someListed nothing
    · exact unknown known
    · exact startable unstartable
  · intro present
    refine ⟨?_, fun _ => someListed⟩
    rintro ⟨capID, isListed, missing⟩
    exact absurd (present capID isListed) missing

end

theorem plainSetCapabilities_reportsMissing_iff (stores : LoadedStores)
    (shellParseArgv : String → Option (List String)) (containerID : Int) {capIDs : List String}
    (listed : capIDs ≠ []) (oracle : Oracle Sys)
    (world : World Sys (SoftwareContainerAgent ConfiguredContainer)) :
    ReportsMissing stores.capabilities capIDs world.state.containers
        ((plainSetCapabilities stores (ConfiguredContainer.containerClass shellParseArgv)
          containerID capIDs).run oracle world) ↔
      CanTell stores.capabilities stores.defaultCapabilities capIDs containerID world.state := by
  have unchanged := configuresNothing_refl world.state.containers
  rw [plainSetCapabilities, if_neg listed]
  by_cases nothing : NothingListed stores.capabilities capIDs
  · have empty : (listedConfigs stores.capabilities capIDs).isEmpty = true := by
      rw [listedConfigs_eq_empty.mpr nothing]
      exact Std.ExtTreeMap.isEmpty_empty
    rw [if_pos empty]
    constructor
    · intro reports
      exact ⟨fun _ => .inl nothing,
        fun present => absurd rfl (reports.present present)⟩
    · intro canTell
      exact ⟨fun _ => ⟨⟨_, rfl⟩, unchanged⟩,
        fun present => absurd nothing (canTell.present present)⟩
  · have some_listed : listedConfigs stores.capabilities capIDs ≠ ∅ := fun empty =>
      nothing (listedConfigs_eq_empty.mp empty)
    have nonempty : (listedConfigs stores.capabilities capIDs).isEmpty ≠ true := fun empty =>
      some_listed (Std.ExtTreeMap.isEmpty_iff.mp empty)
    have merged : capabilitiesConfig stores capIDs ≠ ∅ := fun empty =>
      some_listed (PlainConfig.appendAll_eq_empty.mp empty).2
    rw [if_neg nonempty]
    by_cases known : Known containerID world.state
    · obtain ⟨self, found⟩ : ∃ self, world.state.containers[containerID]? = some self := by
        rw [← Option.isSome_iff_exists, Std.ExtTreeMap.isSome_getElem?_iff_mem]
        exact known.2.2
      by_cases refuses : self.Refuses (capabilitiesConfig stores capIDs).handed
      · obtain ⟨error, different, after, failed, configuresNothing⟩ := run_plainUpdate_of_refuses
          shellParseArgv (capabilitiesConfig stores capIDs) oracle known found refuses
        rw [run_bind_error failed]
        exact iff_of_true (reportsMissing_of_failed rfl different configuresNothing)
          ⟨fun _ => .inr (.inr ⟨self, found, refuses⟩), fun _ => nothing⟩
      · have configures := run_plainUpdate_of_accepted shellParseArgv
          (capabilitiesConfig stores capIDs) oracle known found refuses merged
        rw [← run_updated_state _ (.softwareContainerError
          "Could not set gateway configuration for capability")] at configures
        have startable : ¬ Unstartable stores.capabilities stores.defaultCapabilities capIDs
            containerID world.state := by
          rintro ⟨other, foundOther, refusesOther⟩
          cases found.symm.trans foundOther
          exact refuses refusesOther
        have different := run_updated_ne_notFound shellParseArgv
          (capabilitiesConfig stores capIDs) oracle known found
        exact (reportsMissing_iff_forall different configures).trans
          (canTell_iff_forall nothing known startable).symm
    · obtain ⟨error, different, failed⟩ := run_plainUpdate_of_unknown
        (capabilitiesConfig stores capIDs) oracle
        (ConfiguredContainer.containerClass shellParseArgv) known
      rw [run_bind_error failed]
      exact iff_of_true (reportsMissing_of_failed rfl different unchanged)
        ⟨fun _ => .inr (.inl known), fun _ => nothing⟩

/-- At any time, for the stores as they were loaded. -/
theorem setCapabilities_reportsMissing_iff (shellParseArgv : String → Option (List String))
    (jsonLoads : String → Except String Json) {containerConfig : SoftwareContainerConfig}
    {manifests defaultManifests : List Json}
    {agent : SoftwareContainerAgent ConfiguredContainer}
    (constructed : construct containerConfig manifests defaultManifests = .ok agent)
    (oracle : Oracle Sys) (history : History Sys) (operations : List Operation)
    {world : World Sys (SoftwareContainerAgent ConfiguredContainer)}
    (reached : (runAll (perform (ConfiguredContainer.containerClass shellParseArgv) jsonLoads)
      oracle operations ⟨agent, history⟩).2 = world) (containerID : Int) {capIDs : List String}
    (listed : capIDs ≠ []) :
    let store := agent.filteredConfigStore.value agent.heap
    let defaults := agent.defaultConfigStore.value agent.heap
    ReportsMissing store capIDs world.state.containers
        ((setCapabilities (ConfiguredContainer.containerClass shellParseArgv) containerID
          capIDs).run oracle world) ↔
      CanTell store defaults capIDs containerID world.state := by
  obtain ⟨stores, intact, filtered, defaultStore, _⟩ := construct_intact constructed
  let cls := ConfiguredContainer.containerClass shellParseArgv
  have later := (simulates_runAll (simulates_perform stores cls jsonLoads) oracle operations
    ⟨agent, history⟩ intact).2
  rw [reached] at later
  obtain ⟨heap, _, ended⟩ := run_setCapabilities stores cls later oracle containerID capIDs
  dsimp only
  rw [← filtered, ← defaultStore, ← plainSetCapabilities_reportsMissing_iff stores shellParseArgv
    containerID listed oracle world, ended]
  exact ⟨fun reports => ⟨reports.missing, reports.present⟩,
    fun reports => ⟨reports.missing, reports.present⟩⟩

def oneMissing : List String := ["com.example", "com.missing"]

abbrev configuredClass : ContainerClass ConfiguredContainer :=
  ConfiguredContainer.containerClass fun _ => none

theorem setCapabilities_reportsMissing_iff_oneMissing :
    ∃ agent : SoftwareContainerAgent ConfiguredContainer,
      construct .defaults [oneCapability (environmentVariable "A")] [] = .ok agent ∧
      let world := (runAll (perform configuredClass emptyOptions)
        fortunate [.createContainer "[]"] ⟨agent, []⟩).2
      let store := agent.filteredConfigStore.value agent.heap
      (ReportsMissing store oneMissing world.state.containers
          ((setCapabilities configuredClass 0 oneMissing).run fortunate
            world) ↔
        CanTell store (agent.defaultConfigStore.value agent.heap) oneMissing 0 world.state) := by
  obtain ⟨agent, constructed⟩ : ∃ agent : SoftwareContainerAgent ConfiguredContainer,
      construct .defaults [oneCapability (environmentVariable "A")] [] = .ok agent := ⟨_, rfl⟩
  exact ⟨agent, constructed, setCapabilities_reportsMissing_iff (fun _ => none) emptyOptions
    constructed fortunate [] [.createContainer "[]"] rfl 0 (by decide)⟩

theorem missing_name_is_not_reported :
    ∃ agent : SoftwareContainerAgent ConfiguredContainer,
      construct .defaults [oneCapability (environmentVariable "A")] [] = .ok agent ∧
      let world := (runAll (perform configuredClass emptyOptions)
        fortunate [.createContainer "[]"] ⟨agent, []⟩).2
      ¬ ReportsMissing (agent.filteredConfigStore.value agent.heap) oneMissing
        world.state.containers
        ((setCapabilities configuredClass 0 oneMissing).run fortunate
          world) := by
  have evaluated : (match (construct .defaults [oneCapability (environmentVariable "A")] [] :
        Except StoreFault (SoftwareContainerAgent ConfiguredContainer)) with
      | .error _ => none
      | .ok agent => some (((setCapabilities configuredClass 0
          oneMissing).run fortunate
            (runAll (perform configuredClass emptyOptions) fortunate
              [.createContainer "[]"] ⟨agent, []⟩).2).1,
          (agent.filteredConfigStore.value agent.heap).contains "com.missing")) =
        some (.ok ⟨⟩, false) := by
    decide +kernel
  obtain ⟨agent, constructed⟩ : ∃ agent : SoftwareContainerAgent ConfiguredContainer,
      construct .defaults [oneCapability (environmentVariable "A")] [] = .ok agent := ⟨_, rfl⟩
  rw [constructed] at evaluated
  obtain ⟨result, absent⟩ := Prod.mk.inj (Option.some.inj evaluated)
  refine ⟨agent, constructed, fun reports => ?_⟩
  obtain ⟨⟨error, failed⟩, _⟩ := reports.missing
    ⟨"com.missing", by decide, fun there => by
      rw [Std.ExtTreeMap.contains_iff_mem.mpr there] at absent
      cases absent⟩
  cases failed.symm.trans result

end SoftwareContainerAgent

end SoftwareContainers
