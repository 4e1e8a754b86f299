import SoftwareContainers.Agent.Registry
import SoftwareContainers.Library.Sessions

namespace SoftwareContainers

open Effect Effect.Act

/-! The containers of LXC that an agent holds, over whole runs. -/

namespace SoftwareContainerAgent

open Container (Any)
open SoftwareContainer (sessionName InUse)

variable {κ α : Type}

/-- `~SoftwareContainerAgent`: the map of the containers is destroyed, in an order of its
own. -/
def destructor (cls : ContainerClass κ) : (order : List Int) → Method κ PUnit
  | [] => return ⟨⟩
  | containerID :: order => do
      let container := (← get).containers[containerID]?
      modify fun self => { self with containers := self.containers.erase containerID }
      releaseContainer cls container
      destructor cls order

structure Kept (containerID : Int) (whole : LibraryContainer) : Prop where
  id : whole.container.id = sessionName containerID
  has : whole.container.hasContainer = true
  coupled : SoftwareContainer.Coupled whole []

structure Sessions (world : World Sys (SoftwareContainerAgent LibraryContainer)) : Prop where
  ledger : lxcProtocol.Ledger sessionName (fun self => self.container.handle)
    world.state.containers world.history
  each : EachContainer Kept world.state

theorem sessionName_injective : Function.Injective sessionName := fun _ _ same =>
  toString_int_injective ((String.append_right_inj _).mp same)

theorem kept_of_inUse {containerID : Int} {others : String → Option Handle}
    {world : World Sys LibraryContainer}
    (inUse : InUse (sessionName containerID) others world) : Kept containerID world.state := by
  obtain ⟨⟨_, held⟩, coupled⟩ := inUse
  exact ⟨held.id, held.has, coupled⟩

variable {world : World Sys (SoftwareContainerAgent LibraryContainer)}

theorem Sessions.of_containers (sessions : Sessions world)
    {agent : SoftwareContainerAgent LibraryContainer}
    (same : agent.containers = world.state.containers) : Sessions ⟨agent, world.history⟩ where
  ledger := by
    rw [same]
    exact sessions.ledger
  each containerID container found := sessions.each containerID container (same ▸ found)

theorem Sessions.inUse (sessions : Sessions world) {containerID : Int}
    {container : LibraryContainer} (found : world.state.containers[containerID]? = some container) :
    InUse (sessionName containerID) (fun name => lxcProtocol.phase name world.history)
      ⟨container, world.history⟩ := by
  have kept := sessions.each containerID container found
  have isAt := sessions.ledger.isAt found
  rw [Container.handle, if_pos kept.has] at isAt
  exact ⟨⟨_, kept.id, kept.has, rfl, isAt⟩, kept.coupled⟩

theorem Sessions.insert (sessions : Sessions world) {containerID : Int}
    {after : World Sys LibraryContainer}
    (inUse : InUse (sessionName containerID)
      (fun name => lxcProtocol.phase name world.history) after) :
    Sessions ⟨{ world.state with
      containers := world.state.containers.insert containerID after.state }, after.history⟩ where
  ledger := sessions.ledger.insert sessionName_injective inUse.owned.accounted.isAt
  each := sessions.each.insert (kept_of_inUse inUse)

theorem Sessions.erase (sessions : Sessions world) {containerID : Int} {history : History Sys}
    (released : lxcProtocol.At (sessionName containerID)
      (fun name => lxcProtocol.phase name world.history) .released history)
    (containerIdPool : List Int) :
    Sessions ⟨{ world.state with
      containers := world.state.containers.erase containerID, containerIdPool }, history⟩ where
  ledger := sessions.ledger.erase sessionName_injective released
  each := sessions.each.erase containerID containerIdPool

/-! The methods. -/

theorem sessions_assertContainerExists (containerID : Int) :
    Maintains Any Sessions (assertContainerExists containerID : Method LibraryContainer PUnit) := by
  intro oracle _ world sessions
  obtain ⟨result, asserted⟩ := run_assertContainerExists containerID oracle world
  rw [asserted]
  exact sessions

theorem sessions_onContainer {containerID : Int} {method : Act Sys Fault LibraryContainer α}
    (kept : ∀ others, Maintains Any (InUse (sessionName containerID) others) method) :
    Maintains Any Sessions (onContainer containerID method) := by
  intro oracle answers world sessions
  rcases run_onContainer containerID method oracle world with
    ⟨error, refused⟩ | ⟨container, found, ended⟩
  · rw [refused]
    exact sessions
  · rw [ended]
    exact sessions.insert (kept _ oracle answers _ (sessions.inUse found))

section

variable {shellParseArgv : String → Option (List String)}

theorem releaseContainer_world (cls : ContainerClass κ) (container : κ) (oracle : Oracle Sys)
    (world : World Sys (SoftwareContainerAgent κ)) :
    ((releaseContainer cls (some container)).run oracle world).2 =
      ⟨world.state, (cls.destructor.run oracle ⟨container, world.history⟩).2.history⟩ := by
  rw [releaseContainer, destroyContainer, run_bind, run_runOn]
  cases cls.destructor.run oracle ⟨container, world.history⟩ with
  | mk result after => cases result <;> rfl

theorem Sessions.release (sessions : Sessions world) {containerID : Int}
    {container : LibraryContainer} (found : world.state.containers[containerID]? = some container)
    (containerIdPool : List Int) (oracle : Oracle Sys) :
    Sessions ((releaseContainer (SoftwareContainer.containerClass shellParseArgv)
      (some container)).run oracle ⟨{ world.state with
        containers := world.state.containers.erase containerID, containerIdPool },
        world.history⟩).2 := by
  rw [releaseContainer_world]
  exact sessions.erase (SoftwareContainer.releases_destructor oracle (fun _ _ => trivial) _
    (sessions.inUse found).owned) containerIdPool

theorem sessions_delete {containerID : Int} {forget : Method LibraryContainer PUnit}
    (forgets : Forgets containerID forget) : Maintains Any Sessions (do
      let container := (← get).containers[containerID]?
      forget
      releaseContainer (SoftwareContainer.containerClass shellParseArgv) container) := by
  intro oracle answers world sessions
  rw [run_get_bind]
  rcases forgets oracle world with ⟨error, failed⟩ | ⟨isLive, forgotten⟩
  · rw [run_bind_error failed]
    exact sessions
  · obtain ⟨container, found⟩ :=
      Option.isSome_iff_exists.mp (Std.ExtTreeMap.mem_iff_isSome_getElem?.mp isLive)
    rw [run_bind_ok forgotten, found]
    exact sessions.release found _ oracle

theorem sessions_deleteContainer (containerID : Int) :
    Maintains Any Sessions
      (deleteContainer (SoftwareContainer.containerClass shellParseArgv) containerID) :=
  sessions_delete forgets_forgetContainer

theorem sessions_shutdownContainer (containerID : Int) :
    Maintains Any Sessions
      (shutdownContainer (SoftwareContainer.containerClass shellParseArgv) containerID) :=
  maintains_get_bind fun _ => maintains_bind
    (sessions_onContainer fun _ => SoftwareContainer.inUse_shutdown _) fun _ =>
      sessions_delete forgets_rethrowing

/-! The methods that give a container something to do. -/

variable (stores : LoadedStores)

theorem sessions_plainUpdateGatewayConfigs (containerID : Int) (configs : PlainConfig) :
    Maintains Any Sessions (plainUpdateGatewayConfigs
      (SoftwareContainer.containerClass shellParseArgv) containerID configs) :=
  maintains_bind (sessions_assertContainerExists containerID) fun _ =>
    sessions_onContainer fun _ => SoftwareContainer.inUse_startGateways _

theorem sessions_plainSetCapabilities (containerID : Int) (capabilities : List String) :
    Maintains Any Sessions (plainSetCapabilities stores
      (SoftwareContainer.containerClass shellParseArgv) containerID capabilities) := by
  refine meets_ite (fun _ => maintains_pure _) fun _ =>
    meets_ite (fun _ => maintains_throw _) fun _ => ?_
  exact maintains_bind (sessions_plainUpdateGatewayConfigs containerID _) fun _ =>
    meets_ite (fun _ => maintains_throw _) fun _ => maintains_pure _

theorem sessions_sys {call : SysCall} (isSystem : call.isSystem = true) :
    Maintains Any Sessions (sys call : Method LibraryContainer call.Answer) := by
  refine fun oracle _ world sessions => ⟨sessions.ledger.append fun event member => ?_,
    sessions.each⟩
  cases List.mem_singleton.mp member
  cases call with
  | lxc => cases isSystem
  | _ => rfl

theorem sessions_runCommand (containerID : Int) (cmdLine workingDirectory outputFile : String)
    (env : EnvironmentVariables) :
    Maintains Any Sessions (runCommand (SoftwareContainer.containerClass shellParseArgv)
      containerID cmdLine workingDirectory outputFile env) := by
  refine maintains_bind (sessions_onContainer fun _ =>
    maintains_map (SoftwareContainer.inUse_createCommandJob cmdLine)) fun job =>
    maintains_bind (sessions_sys rfl) fun output =>
    maintains_bind (sessions_onContainer fun _ => SoftwareContainer.inUse_startJob _ _)
      fun started => ?_
  refine meets_ite (fun _ => maintains_throw _) fun _ =>
    maintains_bind (meets_modify fun _ sessions => sessions.of_containers rfl) fun _ =>
      maintains_pure _

theorem sessions_plainExecute (containerID : Int) (cmdLine workingDirectory outputFile : String)
    (env : EnvironmentVariables) :
    Maintains Any Sessions (plainExecute stores (SoftwareContainer.containerClass shellParseArgv)
      containerID cmdLine workingDirectory outputFile env) := by
  have asked : ∀ others, Maintains Any (InUse (sessionName containerID) others) (do
      return (SoftwareContainer.containerClass shellParseArgv).previouslyConfigured (← get) :
        Act Sys Fault LibraryContainer Bool) :=
    fun _ => maintains_get_bind fun _ => maintains_pure _
  have defaults : Maintains Any Sessions (plainSetDefaultCapabilities stores
      (SoftwareContainer.containerClass shellParseArgv) containerID) :=
    maintains_bind (sessions_plainUpdateGatewayConfigs containerID _) fun _ =>
      meets_ite (fun _ => maintains_throw _) fun _ => maintains_pure _
  refine maintains_bind (maintains_bind (sessions_onContainer asked) fun configured =>
    meets_ite (fun _ => defaults) fun _ => maintains_pure _) fun _ => ?_
  exact sessions_runCommand containerID _ _ _ _

variable (jsonLoads : String → Except String Json)

theorem sessions_plainPerform {operation : Operation}
    (noCreation : ∀ config, operation ≠ .createContainer config) :
    Maintains Any Sessions (plainPerform stores
      (SoftwareContainer.containerClass shellParseArgv) jsonLoads operation) := by
  cases operation with
  | listContainers =>
      exact maintains_map (maintains_get_bind fun _ => maintains_pure _)
  | listCapabilities => exact maintains_pure _
  | createContainer config => exact absurd rfl (noCreation config)
  | deleteContainer containerID => exact maintains_map (sessions_deleteContainer containerID)
  | shutdownContainer containerID => exact maintains_map (sessions_shutdownContainer containerID)
  | execute => exact maintains_map (sessions_plainExecute stores _ _ _ _ _)
  | suspendContainer =>
      exact maintains_map (sessions_onContainer fun _ => SoftwareContainer.inUse_suspend)
  | resumeContainer =>
      exact maintains_map (sessions_onContainer fun _ => SoftwareContainer.inUse_resume)
  | bindMount =>
      exact maintains_map (maintains_bind
        (sessions_onContainer fun _ => SoftwareContainer.inUse_bindMount _ _ _) fun _ =>
          meets_ite (fun _ => maintains_throw _) fun _ => maintains_pure _)
  | setCapabilities => exact maintains_map (sessions_plainSetCapabilities stores _ _)

theorem sessions_assignCreated (sessions : Sessions world) {containerID : Int}
    (new : containerID ∉ world.state.containers) (containerConfig : SoftwareContainerConfig)
    (oracle : Oracle Sys) :
    Sessions ((do
      let (container, _) ← runOn () ((SoftwareContainer.containerClass
        shellParseArgv).createContainer containerID containerConfig)
      assignContainer (SoftwareContainer.containerClass shellParseArgv) containerID container
      return containerID : Method LibraryContainer Int).run oracle world).2 := by
  have made := SoftwareContainer.construct_session containerID containerConfig oracle
    (fun _ _ => trivial) ⟨(), world.history⟩
    (sessions.ledger.isAt_initial sessionName_injective new)
  have ran : (runOn () ((SoftwareContainer.containerClass shellParseArgv).createContainer
      containerID containerConfig) : Method LibraryContainer _).run oracle world =
      let ended := (SoftwareContainer.construct containerID containerConfig).run oracle
        ⟨(), world.history⟩
      (ended.1.map fun value => (value, ended.2.state), ⟨world.state, ended.2.history⟩) :=
    run_runOn _ _ _ _
  cases ended : (SoftwareContainer.construct containerID containerConfig).run oracle
      ⟨(), world.history⟩ with
  | mk result final =>
      rw [ended] at made ran
      cases result with
      | error error =>
          rw [run_bind_error ran]
          exact ⟨sessions.ledger.pass sessionName_injective new made, sessions.each⟩
      | ok container =>
          rw [run_bind_ok ran, run_bind_ok (run_assignContainer_of_new _
            ⟨world.state, final.history⟩ new container oracle)]
          exact sessions.insert made

theorem sessions_createContainer {counter : Int} {free : List Int} (sessions : Sessions world)
    (has : HasPool counter free world.state) (config : String) (oracle : Oracle Sys) :
    Sessions ((createContainer (SoftwareContainer.containerClass shellParseArgv) jsonLoads
      config).run oracle world).2 := by
  obtain ⟨options, parsedWorld, _⟩ := ContainerOptionParser.run_parse jsonLoads config oracle
    ⟨world.state.options, world.history⟩
  cases parsed : (ContainerOptionParser.parse jsonLoads config).run oracle
      ⟨world.state.options, world.history⟩ with
  | mk outcome between =>
      rw [parsed] at parsedWorld
      cases parsedWorld
      have zoomed : (zoom optionsLens (ContainerOptionParser.parse jsonLoads config) :
          Method LibraryContainer _).run oracle world =
          (outcome, ⟨{ world.state with options }, world.history⟩) := by
        rw [run_zoom]
        dsimp only [optionsLens]
        rw [parsed]
      rw [createContainer]
      cases outcome with
      | error error =>
          rw [run_bind_error zoomed]
          exact sessions.of_containers rfl
      | ok read =>
          rw [run_bind_ok zoomed, run_get_bind]
          rcases run_findSuitableId ⟨{ world.state with options }, world.history⟩ has.pool oracle
            with ⟨_, undefined⟩ | ⟨_, issued⟩
          · rw [run_bind_error undefined]
            exact sessions.of_containers rfl
          · rw [run_bind_ok issued]
            have issuedSessions : Sessions ⟨{ world.state with
                options, containerIdPool := (issue counter free).2 }, world.history⟩ :=
              sessions.of_containers rfl
            exact sessions_assignCreated issuedSessions (issue_fresh has.fresh).1 _ oracle

/-! Whole runs. -/

theorem sessions_perform {counter : Int} (intact : Intact stores world.state)
    (has : HasCounter counter world.state) (sessions : Sessions world) (operation : Operation)
    (oracle : Oracle Sys) :
    Sessions ((perform (SoftwareContainer.containerClass shellParseArgv) jsonLoads
      operation).run oracle world).2 := by
  by_cases isCreation : ∃ config, operation = .createContainer config
  · obtain ⟨config, rfl⟩ := isCreation
    obtain ⟨free, hasPool⟩ := has
    rw [perform, run_map]
    exact sessions_createContainer jsonLoads sessions hasPool config oracle
  · obtain ⟨same, _⟩ := simulates_perform stores
      (SoftwareContainer.containerClass shellParseArgv) jsonLoads operation oracle world intact
    have plain := @sessions_plainPerform shellParseArgv stores jsonLoads _
      (fun config isCreate => isCreation ⟨config, isCreate⟩) oracle (fun _ _ => trivial)
      ⟨forgetMemory world.state, world.history⟩ (sessions.of_containers rfl)
    rw [same] at plain
    exact plain.of_containers rfl

structure Settled (stores : LoadedStores)
    (world : World Sys (SoftwareContainerAgent LibraryContainer)) : Prop where
  intact : Intact stores world.state
  counter : ∃ counter, HasCounter counter world.state
  sessions : Sessions world

theorem sessions_runAll (operations : List Operation) (oracle : Oracle Sys)
    (settled : Settled stores world) :
    Settled stores (runAll (perform (SoftwareContainer.containerClass shellParseArgv) jsonLoads)
      oracle operations world).2 := by
  refine @runAll_invariant _ _ _ _ _ (perform (SoftwareContainer.containerClass shellParseArgv)
    jsonLoads) oracle (Settled stores) (fun operation world settled => ?_) operations world settled
  obtain ⟨counter, has⟩ := settled.counter
  obtain ⟨after, _, hasAfter⟩ := hasCounter_perform
    (SoftwareContainer.containerClass shellParseArgv) jsonLoads has operation oracle
  exact ⟨(simulates_perform stores _ jsonLoads operation oracle world settled.intact).2,
    ⟨after, hasAfter⟩, sessions_perform stores jsonLoads settled.intact has settled.sessions
      operation oracle⟩

theorem sessions_destructor (order : List Int) :
    Maintains Any Sessions
      (destructor (SoftwareContainer.containerClass shellParseArgv) order) := by
  induction order with
  | nil => exact maintains_pure _
  | cons containerID order ih =>
      intro oracle answers world sessions
      rw [destructor, run_get_bind, run_modify_bind]
      refine holds_after_bind answers ?_ fun _ => ih
      cases found : world.state.containers[containerID]? with
      | none =>
          refine sessions.erase (sessions.ledger.isAt_initial sessionName_injective ?_) _
          exact fun isLive => by simp [Std.ExtTreeMap.mem_iff_isSome_getElem?, found] at isLive
      | some container => exact sessions.release found _ oracle

theorem run_destructor (order : List Int) (oracle : Oracle Sys)
    (world : World Sys (SoftwareContainerAgent LibraryContainer)) :
    ∃ history, (destructor (SoftwareContainer.containerClass shellParseArgv) order).run oracle
      world = (.ok ⟨⟩, ⟨{ world.state with
        containers := order.foldl (fun containers containerID => containers.erase containerID)
          world.state.containers }, history⟩) := by
  induction order generalizing world with
  | nil => exact ⟨world.history, rfl⟩
  | cons containerID order ih =>
      obtain ⟨released, ended⟩ := run_releaseContainer world.state.containers[containerID]?
        oracle ⟨{ world.state with
          containers := world.state.containers.erase containerID }, world.history⟩
      rw [destructor, run_get_bind, run_modify_bind, run_bind_ok ended]
      exact ih _

theorem not_mem_foldl_erase {containers : Std.ExtTreeMap Int κ} {order : List Int}
    (each : ∀ containerID ∈ containers, containerID ∈ order) (containerID : Int) :
    containerID ∉ order.foldl (fun containers containerID => containers.erase containerID)
      containers := by
  induction order generalizing containers with
  | nil => exact fun member => nomatch each containerID member
  | cons first order ih =>
      refine ih fun other member => ?_
      obtain ⟨different, isLive⟩ := Std.ExtTreeMap.mem_erase.mp member
      refine (List.mem_cons.mp (each other isLive)).resolve_left fun same => different ?_
      rw [same]
      exact Std.ReflCmp.compare_self

theorem sessions_constructed {config : SoftwareContainerConfig}
    {manifests defaultManifests : List Json} {agent : SoftwareContainerAgent LibraryContainer}
    (constructed : construct config manifests defaultManifests = .ok agent)
    {history : History Sys} (closed : ∀ name, lxcProtocol.phase name history = some .released) :
    Sessions ⟨agent, history⟩ := by
  rw [construct] at constructed
  obtain ⟨filtered, _, constructed⟩ := ConfigStore.except_bind_eq_ok constructed
  obtain ⟨defaults, _, constructed⟩ := ConfigStore.except_bind_eq_ok constructed
  cases constructed
  exact ⟨⟨fun _ _ found => by simp at found, fun name _ => closed name⟩,
    fun _ _ found => by simp at found⟩

/-- What LXC has been asked for, when the agent is where `reached` says. -/
structure HandlesMatch (reached : World Sys (SoftwareContainerAgent LibraryContainer)) :
    Prop where
  held : ∀ (containerID : Int) container, reached.state.containers[containerID]? = some container →
    lxcProtocol.phase (sessionName containerID) reached.history =
      some container.container.state.handle
  released : ∀ name, (∀ containerID ∈ reached.state.containers, sessionName containerID ≠ name) →
    lxcProtocol.phase name reached.history = some .released

theorem Sessions.handlesMatch (sessions : Sessions world) : HandlesMatch world where
  held containerID container found := by
    have kept := sessions.each containerID container found
    rw [sessions.ledger.entry containerID container found, Container.handle, if_pos kept.has]
  released := sessions.ledger.closed

/-- In every run the calls to LXC are in turn for each of the names, each container of the agent
holds the handle of its name in the phase that it takes it for, no other handle is held, and with
the agent the last one is released. -/
theorem lxc_calls_are_in_turn {config : SoftwareContainerConfig}
    {manifests defaultManifests : List Json} {agent : SoftwareContainerAgent LibraryContainer}
    (constructed : construct config manifests defaultManifests = .ok agent)
    {history : History Sys} (closed : ∀ name, lxcProtocol.phase name history = some .released)
    (operations : List Operation) (oracle : Oracle Sys)
    {reached : World Sys (SoftwareContainerAgent LibraryContainer)}
    (run : (runAll (perform (SoftwareContainer.containerClass shellParseArgv) jsonLoads) oracle
      operations ⟨agent, history⟩).2 = reached) :
    HandlesMatch reached ∧ ∀ order : List Int, order.Perm reached.state.containers.keys →
      ∀ name, lxcProtocol.phase name ((destructor (SoftwareContainer.containerClass
        shellParseArgv) order).run oracle reached).2.history = some .released := by
  obtain ⟨stores, intact, _⟩ := construct_intact constructed
  have settled : Settled stores reached := run ▸ sessions_runAll stores jsonLoads operations oracle
    ⟨intact, ⟨0, hasCounter_constructed constructed⟩, sessions_constructed constructed closed⟩
  refine ⟨settled.sessions.handlesMatch, fun order every name => ?_⟩
  have ended := @sessions_destructor shellParseArgv order oracle
    (fun _ _ => trivial) reached settled.sessions
  refine ended.ledger.closed name fun containerID isLive => ?_
  obtain ⟨_, destroyed⟩ := @run_destructor shellParseArgv order oracle reached
  rw [destroyed] at isLive
  refine absurd isLive (not_mem_foldl_erase (fun other member => ?_) containerID)
  exact every.mem_iff.mpr (Std.ExtTreeMap.mem_keys.mpr member)

/-- One container is suspended, another one is gone. -/
theorem lxc_calls_are_in_turn_suspended :
    ∃ reached, (runAll (perform libraryClass emptyOptions) fortunate
        [.createContainer "[]", .createContainer "[]", .suspendContainer 0, .shutdownContainer 1]
        ⟨withoutManifests, []⟩).2 = reached ∧
      reached.state.containers.keys = [0] ∧ HandlesMatch reached ∧
      lxcProtocol.phase "SC-0" reached.history = some .frozen ∧
      ∀ name, lxcProtocol.phase name
        ((destructor libraryClass [0]).run fortunate reached).2.history = some .released := by
  generalize run : (runAll (perform libraryClass emptyOptions) fortunate
    [.createContainer "[]", .createContainer "[]", .suspendContainer 0, .shutdownContainer 1]
    ⟨withoutManifests, []⟩).2 = reached
  have live : reached.state.containers.keys = [0] := by
    rw [← run]
    decide +kernel
  have frozen : lxcProtocol.phase "SC-0" reached.history = some .frozen := by
    rw [← run]
    decide +kernel
  obtain ⟨handlesMatch, released⟩ := lxc_calls_are_in_turn emptyOptions
    constructed_withoutManifests (fun _ => rfl) _ fortunate run
  exact ⟨reached, rfl, live, handlesMatch, frozen, released [0] (live ▸ .refl _)⟩

end

end SoftwareContainerAgent

end SoftwareContainers
