import SoftwareContainers.Agent.Handover
import SoftwareContainers.Library.Contract

namespace SoftwareContainers

open Effect Effect.Act ConfigStore

/-! No job runs in a container without the default capabilities. -/

/-- The configuration has, for every gateway, all default configurations. -/
def ContainsDefaults (defaults : Std.ExtTreeMap String PlainConfig)
    (gwConfig : GatewayConfiguration) : Prop :=
  ∀ gateway, defaultElements defaults gateway <+: gwConfig.elementsFor gateway

/-- Gateways have been started with the defaults, with success. -/
def DefaultsApplied (defaults : Std.ExtTreeMap String PlainConfig)
    (calls : List ContainerCall) : Prop :=
  ∃ gwConfig, .startGateways gwConfig (.ok true) ∈ calls ∧ ContainsDefaults defaults gwConfig

/-- Whenever a job is started, the defaults have been applied before. -/
def JobsAfterDefaults (defaults : Std.ExtTreeMap String PlainConfig)
    (calls : List ContainerCall) : Prop :=
  ∀ before job result after, calls = before ++ .startJob job result :: after →
    DefaultsApplied defaults before

section

variable {defaults : Std.ExtTreeMap String PlainConfig} {calls : List ContainerCall}

theorem DefaultsApplied.append (applied : DefaultsApplied defaults calls)
    (later : List ContainerCall) : DefaultsApplied defaults (calls ++ later) := by
  obtain ⟨gwConfig, member, contains⟩ := applied
  exact ⟨gwConfig, List.mem_append_left _ member, contains⟩

theorem jobsAfterDefaults_nil : JobsAfterDefaults defaults [] :=
  fun _ _ _ _ split => absurd split.symm (List.append_ne_nil_of_right_ne_nil _ nofun)

theorem JobsAfterDefaults.append (ordered : JobsAfterDefaults defaults calls)
    {call : ContainerCall}
    (last : ∀ job result, call = .startJob job result → DefaultsApplied defaults calls) :
    JobsAfterDefaults defaults (calls ++ [call]) := by
  intro before job result after split
  rcases List.eq_nil_or_concat after with rfl | ⟨earlier, final, rfl⟩
  · obtain ⟨rfl, isCall⟩ := List.append_inj' split rfl
    exact last job result (List.singleton_inj.mp isCall)
  · have split' : calls ++ [call] = (before ++ .startJob job result :: earlier) ++ [final] := by
      rw [split, List.concat_eq_append, List.append_assoc, List.cons_append]
    exact ordered before job result earlier (List.append_inj' split' rfl).1

theorem containsDefaults_allConfigs :
    ContainsDefaults defaults (ConfigStore.allConfigs defaults).handed := by
  intro gateway
  have same : (ConfigStore.allConfigs defaults).handed.elementsFor gateway =
      defaultElements defaults gateway := by
    rw [elementsFor_handed, getD_allConfigs]
  exact same ▸ List.prefix_rfl

theorem containsDefaults_capabilitiesConfig (stores : LoadedStores) (capIDs : List String) :
    ContainsDefaults stores.defaultCapabilities
      (SoftwareContainerAgent.capabilitiesConfig stores capIDs).handed := by
  intro gateway
  rw [(SoftwareContainerAgent.handsOver_capabilitiesConfig stores capIDs).elements]
  exact List.prefix_append _ _

end

structure ConfiguredByStart {κ : Type} (cls : ContainerClass κ) : Prop where
  createContainer : ∀ containerID config oracle world container after,
    (cls.createContainer containerID config).run oracle world = (.ok container, after) →
      cls.previouslyConfigured container = false
  startGateways : ∀ gwConfig oracle world,
    cls.previouslyConfigured ((cls.startGateways gwConfig).run oracle world).2.state = true →
      cls.previouslyConfigured world.state = true ∨
        ((cls.startGateways gwConfig).run oracle world).1 = .ok true
  createCommandJob : ∀ command, Leaves cls.previouslyConfigured (cls.createCommandJob command)
  startJob : ∀ job, Leaves cls.previouslyConfigured (cls.startJob job)
  bindMount : ∀ pathInHost pathInContainer readOnly,
    Leaves cls.previouslyConfigured (cls.bindMount pathInHost pathInContainer readOnly)
  suspend : Leaves cls.previouslyConfigured cls.suspend
  resume : Leaves cls.previouslyConfigured cls.resume
  shutdown : ∀ timeout, Leaves cls.previouslyConfigured (cls.shutdown timeout)

namespace SoftwareContainer

theorem construct_configured {σ : Type} {containerID : Int} {config : SoftwareContainerConfig}
    {oracle : Oracle Sys} {world after : World Sys σ} {container : LibraryContainer}
    (constructed : (construct containerID config).run oracle world = (.ok container, after)) :
    container.previouslyConfigured = false := by
  obtain ⟨_, _, _, constructed⟩ := run_bind_eq_ok constructed
  obtain ⟨_, _, _, constructed⟩ := run_bind_eq_ok constructed
  obtain ⟨_, _, _, constructed⟩ := run_bind_eq_ok constructed
  obtain ⟨_, _, _, constructed⟩ := run_bind_eq_ok constructed
  cases constructed
  rfl

theorem leaves_configureGateways (gwConfig : GatewayConfiguration) :
    Leaves previouslyConfigured
      (configureGateways AnyGateway.gatewayClass gwConfig : Method Bool) := by
  refine leaves_bind (leaves_get_bind fun _ => leaves_ite (leaves_throw _) (leaves_pure _))
    fun _ => leaves_get_bind fun self => ?_
  cases unmatchedId AnyGateway.gatewayClass self.gateways gwConfig with
  | some id => exact leaves_throw _
  | none => exact leaves_bind (leaves_zoom fun _ _ => rfl) fun _ => leaves_pure _

def SetsOnSuccess (method : Method Bool) : Prop :=
  ∀ oracle world, (method.run oracle world).2.state.previouslyConfigured = true →
    world.state.previouslyConfigured = true ∨ (method.run oracle world).1 = .ok true

theorem setsOnSuccess_of_leaves {method : Method Bool}
    (leaves : Leaves previouslyConfigured method) : SetsOnSuccess method :=
  fun oracle world configured => .inl ((leaves oracle world).symm.trans configured)

theorem setsOnSuccess_bind {α : Type} {method : Method α} {next : α → Method Bool}
    (leaves : Leaves previouslyConfigured method)
    (rest : ∀ value, SetsOnSuccess (next value)) : SetsOnSuccess (method >>= next) := by
  intro oracle world configured
  have same := leaves oracle world
  rw [run_bind] at configured ⊢
  cases ended : method.run oracle world with
  | mk result between =>
      rw [ended] at same configured
      cases result with
      | error error => exact .inl (same.symm.trans configured)
      | ok value =>
          have either := rest value oracle between configured
          rw [same] at either
          exact either

theorem setsOnSuccess_startGateways (gwConfig : GatewayConfiguration) :
    SetsOnSuccess (startGateways AnyGateway.gatewayClass gwConfig) := by
  refine setsOnSuccess_bind (leaves_get_bind fun _ => leaves_ite (leaves_throw _)
    (leaves_pure _)) fun _ => setsOnSuccess_bind (fun _ _ => rfl) fun self => ?_
  split
  · exact setsOnSuccess_of_leaves (leaves_throw _)
  · refine setsOnSuccess_bind (leaves_configureGateways gwConfig) fun configured => ?_
    split
    · exact setsOnSuccess_of_leaves (leaves_pure _)
    · refine setsOnSuccess_bind (leaves_bind (leaves_zoom fun _ _ => rfl)
        fun _ => leaves_pure _) fun activated => ?_
      split
      · exact setsOnSuccess_of_leaves (leaves_pure _)
      · exact fun _ _ _ => .inr rfl

theorem configuredByStart (shellParseArgv : String → Option (List String)) :
    ConfiguredByStart (containerClass shellParseArgv) where
  createContainer _ _ _ _ _ _ constructed := construct_configured constructed
  startGateways gwConfig := setsOnSuccess_startGateways gwConfig
  createCommandJob _ := leaves_map (leaves_bind (leaves_assertReady _) fun _ => leaves_pure _)
  startJob _ := leaves_zoom fun _ _ => rfl
  bindMount _ _ _ := leaves_bind (leaves_assertReady _) fun _ => leaves_zoom fun _ _ => rfl
  suspend := leaves_bind (leaves_assertReady _) fun _ =>
    leaves_bind (leaves_zoom fun _ _ => rfl) fun _ =>
      leaves_ite (leaves_invalidate (fun _ _ => rfl) _) (leaves_modify fun _ => rfl)
  resume := leaves_bind (leaves_get_bind fun _ => leaves_ite (leaves_throw _) (leaves_pure _))
    fun _ => leaves_get_bind fun _ => leaves_ite (leaves_throw _)
      (leaves_bind (leaves_zoom fun _ _ => rfl) fun _ =>
        leaves_ite (leaves_invalidate (fun _ _ => rfl) _) (leaves_modify fun _ => rfl))
  shutdown _ := by
    have cleared : Leaves previouslyConfigured shutdownGateways :=
      leaves_bind (leaves_zoom fun _ _ => rfl) fun _ =>
        leaves_bind (leaves_zoom fun _ _ => rfl) fun _ => leaves_modify fun _ => rfl
    exact leaves_bind (leaves_get_bind fun _ => leaves_ite (leaves_throw _) (leaves_pure _))
      fun _ => leaves_get_bind fun _ => leaves_ite (leaves_throw _)
        (leaves_bind cleared fun _ => leaves_bind (leaves_zoom fun _ _ => rfl) fun _ =>
          leaves_ite (leaves_invalidate (fun _ _ => rfl) _) (leaves_modify fun _ => rfl))

end SoftwareContainer

namespace SoftwareContainerAgent

variable {κ α : Type}

theorem keepsEach_plainUpdate {part : Int → κ → Prop} (cls : ContainerClass κ)
    {containerID : Int} {configs : PlainConfig}
    (kept : Preserves (part containerID) (cls.startGateways configs.handed)) :
    KeepsEach part (plainUpdateGatewayConfigs cls containerID configs) :=
  preserves_bind (keepsEach_assertContainerExists containerID) fun _ =>
    keepsEach_onContainer kept

/-! The log of a container. -/

/-- In the log of a container the defaults come before the jobs; and it has them when the
container is configured. -/
structure Guarded (cls : ContainerClass κ) (defaults : Std.ExtTreeMap String PlainConfig)
    (logged : Logged κ) : Prop where
  jobs : JobsAfterDefaults defaults logged.calls
  configured : cls.previouslyConfigured logged.container = true →
    DefaultsApplied defaults logged.calls

section

variable {cls : ContainerClass κ} {defaults : Std.ExtTreeMap String PlainConfig}

theorem preserves_within {applied : Prop} {method : Act Sys Fault κ α}
    (leaves : Leaves cls.previouslyConfigured method) :
    Preserves (fun self => Guarded cls defaults self ∧
      (applied → DefaultsApplied defaults self.calls)) (Logged.within method) := by
  rintro oracle world ⟨guarded, whenApplied⟩
  exact ⟨⟨guarded.jobs, fun configured => guarded.configured
    ((leaves oracle ⟨world.state.container, world.history⟩).symm.trans configured)⟩,
    whenApplied⟩

theorem preserves_startGateways (byStart : ConfiguredByStart cls)
    {gwConfig : GatewayConfiguration} (contains : ContainsDefaults defaults gwConfig) :
    Preserves (Guarded cls defaults)
      (Logged.logged (.startGateways gwConfig) (cls.startGateways gwConfig)) := by
  intro oracle world guarded
  rw [Logged.run_logged]
  refine ⟨guarded.jobs.append (fun job result isJob => by cases isJob), fun configured => ?_⟩
  rcases byStart.startGateways gwConfig oracle ⟨world.state.container, world.history⟩
    configured with before | succeeded
  · exact (guarded.configured before).append _
  · refine ⟨gwConfig, List.mem_append_right _ ?_, contains⟩
    rw [← succeeded]
    exact List.mem_singleton_self _

theorem preserves_startJob {applied : Prop} (job : CommandJob) (isApplied : applied) :
    Preserves (fun self => Guarded cls defaults self ∧
      (applied → DefaultsApplied defaults self.calls))
      (Logged.logged (.startJob job) (cls.startJob job)) := by
  rintro oracle world ⟨guarded, whenApplied⟩
  rw [Logged.run_logged]
  refine ⟨⟨guarded.jobs.append fun _ _ _ => whenApplied isApplied, fun configured => ?_⟩,
    fun _ => (whenApplied isApplied).append _⟩
  exact (whenApplied isApplied).append _

end

/-! The methods of the agent. -/

section

variable {cls : ContainerClass κ} (byStart : ConfiguredByStart cls) (stores : LoadedStores)

abbrev AllGuarded (cls : ContainerClass κ) (stores : LoadedStores)
    (self : SoftwareContainerAgent (Logged κ)) : Prop :=
  EachContainer (fun _ => Guarded cls stores.defaultCapabilities) self

abbrev AppliedTo (cls : ContainerClass κ) (stores : LoadedStores) (containerID : Int)
    (self : SoftwareContainerAgent (Logged κ)) : Prop :=
  EachContainer (fun id container => Guarded cls stores.defaultCapabilities container ∧
    (id = containerID → DefaultsApplied stores.defaultCapabilities container.calls)) self

theorem AllGuarded.applied {containerID : Int} {self : SoftwareContainerAgent (Logged κ)}
    (guarded : AllGuarded cls stores self) {container : Logged κ}
    (found : self.containers[containerID]? = some container)
    (applied : DefaultsApplied stores.defaultCapabilities container.calls) :
    AppliedTo cls stores containerID self := by
  refine fun id other foundOther => ⟨guarded id other foundOther, ?_⟩
  rintro rfl
  cases found.symm.trans foundOther
  exact applied

include byStart

theorem preserves_updated {containerID : Int} {configs : PlainConfig} (refused : Fault)
    (contains : ContainsDefaults stores.defaultCapabilities configs.handed) :
    Preserves (AllGuarded cls stores) (do
      if !(← plainUpdateGatewayConfigs (Logged.containerClass cls) containerID configs) then
        throw refused
      else return PUnit.unit) :=
  preserves_bind (keepsEach_plainUpdate _ (preserves_startGateways byStart contains))
    fun _ => preserves_ite (fun _ => preserves_throw _) fun _ => preserves_pure _

theorem preserves_plainSetCapabilities (containerID : Int) (capabilities : List String) :
    Preserves (AllGuarded cls stores)
      (plainSetCapabilities stores (Logged.containerClass cls) containerID capabilities) :=
  preserves_ite (fun _ => preserves_pure _) fun _ =>
    preserves_ite (fun _ => preserves_throw _) fun _ =>
      preserves_updated byStart stores _ (containsDefaults_capabilitiesConfig stores capabilities)

theorem preserves_plainSetDefaultCapabilities (containerID : Int) :
    Preserves (AllGuarded cls stores)
      (plainSetDefaultCapabilities stores (Logged.containerClass cls) containerID) :=
  preserves_updated byStart stores _ containsDefaults_allConfigs

theorem applied_plainEnsureConfigured (containerID : Int) (oracle : Oracle Sys)
    (world : World Sys (SoftwareContainerAgent (Logged κ)))
    (guarded : AllGuarded cls stores world.state) :
    let ended := (plainEnsureConfigured stores (Logged.containerClass cls) containerID).run
      oracle world
    AllGuarded cls stores ended.2.state ∧
      (ended.1 = .ok ⟨⟩ → AppliedTo cls stores containerID ended.2.state) := by
  rw [plainEnsureConfigured]
  rcases run_onContainer containerID (do
      return (Logged.containerClass cls).previouslyConfigured (← get)) oracle world
    with ⟨error, ended⟩ | ⟨container, found, ended⟩
  · rw [run_bind_error ended]
    exact ⟨guarded, nofun⟩
  · have same : AllGuarded cls stores { world.state with
        containers := world.state.containers.insert containerID container } :=
      EachContainer.insert guarded (guarded containerID container found)
    rw [run_bind_ok ended]
    cases configured : (Logged.containerClass cls).previouslyConfigured container with
    | true =>
        have foundNow : (world.state.containers.insert containerID container)[containerID]? =
            some container := by rw [getElem?_insert, if_pos rfl]
        exact ⟨same, fun _ => AllGuarded.applied stores same foundNow
          ((guarded containerID container found).configured configured)⟩
    | false =>
        refine ⟨preserves_plainSetDefaultCapabilities byStart stores containerID oracle _ same,
          fun succeeded => ?_⟩
        obtain ⟨_, later, _, _, foundLater, appended, rfl⟩ :=
          handedOver_plainSetDefaultCapabilities stores cls containerID oracle _ succeeded
        have applied : DefaultsApplied stores.defaultCapabilities later.calls := by
          rw [appended]
          exact ⟨_, List.mem_append_right _ (List.mem_singleton_self _),
            containsDefaults_allConfigs⟩
        exact AllGuarded.applied stores
          (preserves_plainSetDefaultCapabilities byStart stores containerID oracle _ same)
          foundLater applied

theorem preserves_plainExecute (containerID : Int)
    (cmdLine workingDirectory outputFile : String) (env : EnvironmentVariables) :
    Preserves (AllGuarded cls stores)
      (plainExecute stores (Logged.containerClass cls) containerID cmdLine workingDirectory
        outputFile env) := by
  intro oracle world guarded
  obtain ⟨after, whenEnded⟩ :=
    applied_plainEnsureConfigured byStart stores containerID oracle world guarded
  rw [plainExecute, run_bind]
  cases ended : (plainEnsureConfigured stores (Logged.containerClass cls) containerID).run
      oracle world with
  | mk result between =>
      rw [ended] at after whenEnded
      cases result with
      | error error => exact after
      | ok _ =>
          have run := keepsEach_runCommand (Logged.containerClass cls) cmdLine workingDirectory
            outputFile env
            (fun command => preserves_within (byStart.createCommandJob command))
            (fun job => preserves_startJob job rfl) oracle between (whenEnded rfl)
          exact EachContainer.mono run fun _ _ holds => holds.1

theorem preserves_plainPerform (jsonLoads : String → Except String Json)
    (operation : Operation) :
    Preserves (AllGuarded cls stores)
      (plainPerform stores (Logged.containerClass cls) jsonLoads operation) := by
  have within : ∀ {α : Type} {method : Act Sys Fault κ α},
      Leaves cls.previouslyConfigured method →
      Preserves (Guarded cls stores.defaultCapabilities) (Logged.within method) :=
    fun leaves oracle world guarded =>
      (preserves_within leaves oracle world ⟨guarded, False.elim⟩).1
  cases operation with
  | listContainers =>
      exact preserves_map (preserves_get_bind fun _ => preserves_pure _)
  | listCapabilities => exact preserves_pure _
  | createContainer config =>
      refine preserves_map (keepsEach_createContainer _ jsonLoads config ?_)
      intro containerID containerConfig oracle world logged after created
      rw [Logged.containerClass, run_map] at created
      cases ended : (cls.createContainer containerID containerConfig).run oracle world with
      | mk result final =>
          rw [ended] at created
          cases result with
          | error error => cases created
          | ok container =>
              cases created
              have unset := byStart.createContainer containerID containerConfig oracle world
                container _ ended
              exact ⟨jobsAfterDefaults_nil, fun set => by rw [unset] at set; cases set⟩
  | deleteContainer containerID =>
      exact preserves_map (preserves_get_bind fun _ =>
        preserves_bind (keepsEach_forgetContainer containerID) fun _ =>
          keepsEach_releaseContainer _ _)
  | shutdownContainer containerID =>
      exact preserves_map (keepsEach_shutdownContainer _ fun timeout =>
        within (byStart.shutdown timeout))
  | execute containerID cmdLine workingDirectory outputFile env =>
      exact preserves_map (preserves_plainExecute byStart stores containerID _ _ _ _)
  | suspendContainer containerID =>
      exact preserves_map (keepsEach_onContainer (within byStart.suspend))
  | resumeContainer containerID =>
      exact preserves_map (keepsEach_onContainer (within byStart.resume))
  | bindMount containerID pathInHost pathInContainer readOnly =>
      exact preserves_map (preserves_bind
        (keepsEach_onContainer (within (byStart.bindMount _ _ _))) fun _ =>
          preserves_ite (fun _ => preserves_throw _) fun _ => preserves_pure _)
  | setCapabilities containerID capabilities =>
      exact preserves_map (preserves_plainSetCapabilities byStart stores containerID capabilities)

end

theorem logged_of_onContainer_eq_ok {containerID : Int}
    {call : Except Fault α → ContainerCall} {method : Act Sys Fault κ α} {oracle : Oracle Sys}
    {world after : World Sys (SoftwareContainerAgent (Logged κ))} {value : α}
    (ended : (onContainer containerID (Logged.logged call method)).run oracle world =
      (.ok value, after)) :
    ∃ container calls, after.state.containers[containerID]? = some container ∧
      container.calls = calls ++ [call (.ok value)] := by
  rcases run_onContainer containerID (Logged.logged call method) oracle world with
    ⟨error, run⟩ | ⟨container, found, run⟩
  · cases run.symm.trans ended
  · rw [Logged.run_logged] at run
    have same := run.symm.trans ended
    have returned : (method.run oracle ⟨container.container, world.history⟩).1 = .ok value :=
      congrArg Prod.fst same
    have after := congrArg Prod.snd same
    dsimp only at after
    rw [← after]
    refine ⟨_, container.calls, by rw [getElem?_insert, if_pos rfl], ?_⟩
    rw [returned]

theorem started_of_runCommand_eq_ok {cls : ContainerClass κ} {containerID pid : Int}
    {cmdLine workingDirectory outputFile : String} {env : EnvironmentVariables}
    {oracle : Oracle Sys} {world after : World Sys (SoftwareContainerAgent (Logged κ))}
    (ended : (runCommand (Logged.containerClass cls) containerID cmdLine workingDirectory
      outputFile env).run oracle world = (.ok pid, after)) :
    ∃ container calls job, after.state.containers[containerID]? = some container ∧
      container.calls = calls ++ [ContainerCall.startJob job (.ok (true, pid))] := by
  obtain ⟨job, _, _, ended⟩ := run_bind_eq_ok ended
  obtain ⟨output, between, _, ended⟩ := run_bind_eq_ok ended
  obtain ⟨⟨started, startedPid⟩, middle, jobStarted, ended⟩ := run_bind_eq_ok ended
  cases started with
  | false => cases ended
  | true =>
      cases ended
      obtain ⟨container, calls, found, last⟩ := logged_of_onContainer_eq_ok jobStarted
      exact ⟨container, calls, _, found, last⟩

/-- In every run, a job is started only after the gateways of its container have been
started with all default configurations. -/
theorem jobs_run_after_defaults {cls : ContainerClass κ} (byStart : ConfiguredByStart cls)
    (jsonLoads : String → Except String Json) {containerConfig : SoftwareContainerConfig}
    {manifests defaultManifests : List Json} {agent : SoftwareContainerAgent (Logged κ)}
    (constructed : construct containerConfig manifests defaultManifests = .ok agent)
    (oracle : Oracle Sys) (history : History Sys) (operations : List Operation)
    (id : Int) {container : Logged κ}
    (found : (runAll (perform (Logged.containerClass cls) jsonLoads) oracle operations
      ⟨agent, history⟩).2.state.containers[id]? = some container) :
    JobsAfterDefaults (agent.defaultConfigStore.value agent.heap) container.calls := by
  obtain ⟨stores, intact, _, defaults, noContainers⟩ := construct_intact constructed
  have same := (simulates_runAll
    (simulates_perform stores (Logged.containerClass cls) jsonLoads) oracle operations
    ⟨agent, history⟩ intact).1
  have guarded : AllGuarded cls stores (forgetMemory agent) := by
    intro other container isContainer
    rw [forgetMemory, withMemory, noContainers, Std.ExtTreeMap.getElem?_empty] at isContainer
    cases isContainer
  have after := preserves_runAll (preserves_plainPerform byStart stores jsonLoads) oracle
    operations ⟨forgetMemory agent, history⟩ guarded
  rw [same] at after
  rw [← defaults]
  exact (after id container found).jobs

/-- After any run, `execute` starts a job only in a container whose gateways have been
started with all default configurations; and so it was with all jobs before. -/
theorem applications_have_default_capabilities
    (shellParseArgv : String → Option (List String))
    (jsonLoads : String → Except String Json) {containerConfig : SoftwareContainerConfig}
    {manifests defaultManifests : List Json}
    {agent : SoftwareContainerAgent (Logged LibraryContainer)}
    (constructed : construct containerConfig manifests defaultManifests = .ok agent)
    (oracle : Oracle Sys) (history : History Sys) (operations : List Operation) :
    let cls := Logged.containerClass (SoftwareContainer.containerClass shellParseArgv)
    let world := (runAll (perform cls jsonLoads) oracle operations ⟨agent, history⟩).2
    let defaults := agent.defaultConfigStore.value agent.heap
    (∀ (id : Int) container, world.state.containers[id]? = some container →
      JobsAfterDefaults defaults container.calls) ∧
    ∀ containerID cmdLine workingDirectory outputFile env pid after,
      (execute cls containerID cmdLine workingDirectory outputFile env).run oracle world =
        (.ok pid, after) →
      ∃ container calls job, after.state.containers[containerID]? = some container ∧
        container.calls = calls ++ [.startJob job (.ok (true, pid))] ∧
        DefaultsApplied defaults calls := by
  have byStart := SoftwareContainer.configuredByStart shellParseArgv
  refine ⟨fun id container found =>
    jobs_run_after_defaults byStart jsonLoads constructed oracle history operations id found, ?_⟩
  intro containerID cmdLine workingDirectory outputFile env pid after ended
  obtain ⟨_, _, _, commandEnded⟩ := run_bind_eq_ok ended
  obtain ⟨container, calls, job, found, last⟩ := started_of_runCommand_eq_ok commandEnded
  refine ⟨container, calls, job, found, last, ?_⟩
  have reached : (runAll (perform (Logged.containerClass
      (SoftwareContainer.containerClass shellParseArgv)) jsonLoads) oracle
      (operations ++ [.execute containerID cmdLine workingDirectory outputFile env])
      ⟨agent, history⟩).2.state.containers[containerID]? = some container := by
    rw [runAll_append]
    dsimp only [runAll, perform]
    rw [run_map, ended]
    exact found
  have ordered := jobs_run_after_defaults byStart jsonLoads constructed oracle history _
    containerID reached
  exact ordered calls job (.ok (true, pid)) [] last

def oneWord (command : String) : Option (List String) := some [command]

/-- The first job in a container of an agent that has loaded a default capability. -/
theorem applications_have_default_capabilities_environment :
    ∃ agent, construct .defaults [] [oneCapability (environmentVariable "A")] = .ok agent ∧
      let cls := Logged.containerClass (SoftwareContainer.containerClass oneWord)
      let world := (runAll (perform cls emptyOptions) fortunate [.createContainer "[]"]
        ⟨agent, []⟩).2
      ∃ after container calls job,
        (execute cls 0 "ls" "/" "" ∅).run fortunate world = (.ok 1, after) ∧
        after.state.containers[(0 : Int)]? = some container ∧
        container.calls = calls ++ [.startJob job (.ok (true, 1))] ∧
        DefaultsApplied (agent.defaultConfigStore.value agent.heap) calls := by
  have evaluated : (match construct .defaults []
        [oneCapability (environmentVariable "A")] with
      | .error _ => Except.error Fault.undefined
      | .ok agent =>
          let cls := Logged.containerClass (SoftwareContainer.containerClass oneWord)
          ((execute cls 0 "ls" "/" "" ∅).run fortunate (runAll (perform cls emptyOptions)
            fortunate [.createContainer "[]"] ⟨agent, []⟩).2).1) = .ok 1 := by
    decide +kernel
  obtain ⟨agent, constructed⟩ : ∃ agent, construct .defaults []
      [oneCapability (environmentVariable "A")] = .ok agent := ⟨_, rfl⟩
  rw [constructed] at evaluated
  obtain ⟨container, calls, job, found, last, applied⟩ :=
    (applications_have_default_capabilities oneWord emptyOptions constructed fortunate []
      [.createContainer "[]"]).2 0 "ls" "/" "" ∅ 1 _ (Prod.ext evaluated rfl)
  exact ⟨agent, constructed, _, container, calls, job, Prod.ext evaluated rfl, found, last,
    applied⟩

end SoftwareContainerAgent

end SoftwareContainers
