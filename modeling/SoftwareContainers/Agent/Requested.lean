import SoftwareContainers.Agent.Parser
import SoftwareContainers.Agent.Sound
import SoftwareContainers.Effect.Records

namespace SoftwareContainers

open Effect Effect.Act

/-! From the options of a request to the container that is created. -/

structure TakesOptions (options : DynamicContainerOptions)
    (static config : SoftwareContainerConfig) : Prop where
  writeBuffer : config.writeBufferEnabled = options.writeBufferEnabled
  temporaryFileSystem : config.temporaryFileSystemWriteBufferEnableds =
    options.temporaryFileSystemWriteBufferEnabled
  size : config.temporaryFileSystemSize = options.temporaryFileSystemSize
  others : { config with
      writeBufferEnabled := static.writeBufferEnabled
      temporaryFileSystemWriteBufferEnableds :=
        static.temporaryFileSystemWriteBufferEnableds
      temporaryFileSystemSize := static.temporaryFileSystemSize } = static

def DynamicContainerOptions.Requests (options : DynamicContainerOptions) (size : Nat) :
    Prop :=
  options.writeBufferEnabled = true ∧
    options.temporaryFileSystemWriteBufferEnabled = true ∧
    options.temporaryFileSystemSize = size

namespace SoftwareContainer

def rootOf (containerID : Int) (config : SoftwareContainerConfig) : String :=
  buildPath config.sharedMountsDir ("SC-" ++ toString containerID)

def MountOfSize (path : String) (size : Int) (event : Event Sys) : Prop :=
  event.call = .mount "tmpfs" path "tmpfs" [] ("size=" ++ toString size) ∨
    event = ⟨.createDirectory path, false⟩

/-- Every run of the constructor mounts a temporary file system of this size. -/
def MountsOfSize (containerID : Int) (config : SoftwareContainerConfig) (size : Int) :
    Prop :=
  Records (MountOfSize (rootOf containerID config) size)
    (construct containerID config : Act Sys Fault Unit LibraryContainer)

theorem records_tmpfsMount (path : String) (maxSize : Int) :
    Records (MountOfSize path maxSize) (Toolkit.tmpfsMount path maxSize) := by
  have rest (mounted : Bool) : Grown (if !mounted then return false else do
      Toolkit.addHandlers [.mount path]
      return true : Toolkit Bool) :=
    keeps_ite (fun _ => keeps_pure _) fun _ =>
      keeps_bind (keeps_modify fun _ _ => trivial) fun _ => keeps_pure _
  refine records_ask_bind (fun _ => keeps_ite (fun _ => keeps_pure _) fun _ =>
    keeps_bind (keeps_ask fun _ => trivial) rest) fun created => ?_
  cases created with
  | false => exact .inl (.inr rfl)
  | true => exact .inr (records_ask_bind rest fun _ => .inl (.inl rfl))

theorem records_mountContainerRoot {σ : Type} {config : SoftwareContainerConfig}
    (path : String) (writeBuffer : config.writeBufferEnabled = true)
    (temporaryFileSystem : config.temporaryFileSystemWriteBufferEnableds = true) :
    Records (MountOfSize path (toInt config.temporaryFileSystemSize))
      (mountContainerRoot config path : Act Sys Fault σ PUnit) := by
  rw [mountContainerRoot, if_pos writeBuffer, if_pos temporaryFileSystem]
  exact (records_tmpfsMount _ _).runOn.bind fun _ => keeps_pure _

theorem checkContainerRoot_returns {σ : Type} (path : String) (oracle : Oracle Sys)
    (world : World Sys σ) (size : Int) : ∃ recorded,
    ((checkContainerRoot path).run oracle world).2.history = world.history ++ recorded ∧
      ((∃ event ∈ recorded, MountOfSize path size event) ∨
        ∃ value, ((checkContainerRoot path).run oracle world).1 = .ok value) := by
  rw [checkContainerRoot, run_ask_bind]
  cases oracle world.history (.isDirectory path) with
  | true =>
      rw [if_neg (by decide), run_ask_bind, List.append_assoc]
      exact ⟨_, rfl, .inr ⟨_, rfl⟩⟩
  | false =>
      rw [if_pos (by decide), run_ask_bind, List.append_assoc]
      cases oracle (world.history ++ [⟨.isDirectory path, false⟩])
          (.createDirectory path) with
      | true =>
          rw [if_neg (by decide), run_ask_bind, List.append_assoc]
          exact ⟨_, rfl, .inr ⟨_, rfl⟩⟩
      | false =>
          rw [if_pos (by decide)]
          exact ⟨_, rfl, .inl ⟨_, List.mem_append_right _ (List.mem_singleton.mpr rfl),
            .inr rfl⟩⟩

theorem mountsOfSize_of_requested {containerID : Int} {config : SoftwareContainerConfig}
    (writeBuffer : config.writeBufferEnabled = true)
    (temporaryFileSystem : config.temporaryFileSystemWriteBufferEnableds = true) :
    MountsOfSize containerID config (toInt config.temporaryFileSystemSize) := by
  refine records_bind (fun oracle world => checkContainerRoot_returns _ oracle world _)
    fun _ => ?_
  refine (records_mountContainerRoot _ writeBuffer temporaryFileSystem).bind fun _ => ?_
  exact keeps_bind (steady_checkNetworkSettings _).grown fun _ =>
    keeps_bind (keeps_runOn trivial (keeps_init containerID).grown) fun _ => keeps_pure _

def bridgeless : Oracle Sys
  | _, .spawnSync _ => .spawnError
  | history, call => fortunate history call

theorem run_checkContainerRoot_bridgeless (path : String) :
    (checkContainerRoot path : Act Sys Fault Unit PUnit).run bridgeless ⟨⟨⟩, []⟩ =
      (.ok ⟨⟩, ⟨⟨⟩, [⟨.isDirectory path, true⟩, ⟨.isDirectoryEmpty path, true⟩]⟩) :=
  rfl

theorem run_mountContainerRoot_bridgeless {config : SoftwareContainerConfig}
    (path : String) {world : World Sys Unit}
    (writeBuffer : config.writeBufferEnabled = true)
    (temporaryFileSystem : config.temporaryFileSystemWriteBufferEnableds = true) :
    (mountContainerRoot config path).run bridgeless world =
      (.ok ⟨⟩, ⟨⟨⟩, world.history ++ [⟨.createDirectory path, true⟩] ++
        [⟨.mount "tmpfs" path "tmpfs" []
          ("size=" ++ toString (toInt config.temporaryFileSystemSize)), true⟩]⟩) := by
  rw [mountContainerRoot, if_pos writeBuffer, if_pos temporaryFileSystem]
  generalize toInt config.temporaryFileSystemSize = maxSize
  rfl

theorem run_checkNetworkSettings_bridgeless (config : SoftwareContainerConfig)
    (world : World Sys Unit) :
    (checkNetworkSettings config).run bridgeless world =
      (.error (.softwareContainerError "Failed to spawn setup_softwarecontainer.sh: "),
        ⟨⟨⟩, world.history ++ [⟨.spawnSync (networkSetup config), .spawnError⟩]⟩) := by
  rw [checkNetworkSettings]
  generalize networkSetup config = arguments
  rfl

theorem size_of_mountsOfSize {containerID : Int} {config : SoftwareContainerConfig}
    {size : Int} (mounts : MountsOfSize containerID config size)
    (writeBuffer : config.writeBufferEnabled = true)
    (temporaryFileSystem : config.temporaryFileSystemWriteBufferEnableds = true) :
    toInt config.temporaryFileSystemSize = size := by
  obtain ⟨recorded, grown, event, member, found⟩ := mounts bridgeless ⟨⟨⟩, []⟩
  have history : recorded =
      [⟨.isDirectory (rootOf containerID config), true⟩,
        ⟨.isDirectoryEmpty (rootOf containerID config), true⟩,
        ⟨.createDirectory (rootOf containerID config), true⟩,
        ⟨.mount "tmpfs" (rootOf containerID config) "tmpfs" []
          ("size=" ++ toString (toInt config.temporaryFileSystemSize)), true⟩,
        ⟨.spawnSync (networkSetup config), .spawnError⟩] := by
    rw [List.nil_append] at grown
    rw [← grown, construct, ← rootOf,
      run_bind_ok (run_checkContainerRoot_bridgeless (rootOf containerID config)),
      run_bind_ok (run_mountContainerRoot_bridgeless (rootOf containerID config)
        writeBuffer temporaryFileSystem),
      run_bind_error (run_checkNetworkSettings_bridgeless config _)]
    rfl
  subst history
  simp only [List.mem_cons, List.not_mem_nil, or_false] at member
  rcases found with call | same
  · rcases member with rfl | rfl | rfl | rfl | rfl
    · simp only [reduceCtorEq] at call
    · simp only [reduceCtorEq] at call
    · simp only [reduceCtorEq] at call
    · simp only [SysCall.mount.injEq, String.append_right_inj] at call
      exact toString_int_injective call.2.2.2.2
    · simp only [reduceCtorEq] at call
  · rw [same] at member
    rcases member with same | same | same | same | same <;> cases same

end SoftwareContainer

namespace SoftwareContainerAgent

def givenClass : ContainerClass (Int × SoftwareContainerConfig) where
  createContainer containerID config := return (containerID, config)
  startGateways _ := return true
  previouslyConfigured _ := false
  createCommandJob command := return .new command
  startJob job := return (true, job.pid)
  bindMount _ _ _ := return true
  suspend := return ⟨⟩
  resume := return ⟨⟩
  shutdown _ := return ⟨⟩
  destructor := return ⟨⟩

/-- Whenever the request creates a container, by a parser that has these options left,
the factory is given the options that were parsed, and so is the kernel. -/
def OptionsReach (jsonLoads : String → Except String Json) (request : String)
    (leftover options : DynamicContainerOptions) (static : SoftwareContainerConfig) :
    Prop :=
  ∀ (agent : SoftwareContainerAgent (Int × SoftwareContainerConfig)) (oracle : Oracle Sys)
    history containerID after,
    agent.options = leftover → agent.containerConfig = static →
    (createContainer givenClass jsonLoads request).run oracle ⟨agent, history⟩ =
      (.ok containerID, after) →
    ∃ config, after.state.containers[containerID]? = some (containerID, config) ∧
      TakesOptions options static config ∧
      ∀ size, options.Requests size →
        SoftwareContainer.MountsOfSize containerID config size

section

variable {jsonLoads : String → Except String Json} {request : String}
  {leftover options : DynamicContainerOptions} {static : SoftwareContainerConfig}

theorem takesOptions_toConfig_iff :
    TakesOptions options static (options.toConfig static) ↔
      static.temporaryFileSystemWriteBufferEnableds =
          options.temporaryFileSystemWriteBufferEnabled ∧
        static.temporaryFileSystemSize = options.temporaryFileSystemSize :=
  ⟨fun takes => ⟨takes.temporaryFileSystem, takes.size⟩,
    fun ⟨temporaryFileSystem, size⟩ => ⟨rfl, temporaryFileSystem, size, rfl⟩⟩

theorem run_assignContainer (containerID : Int) (given : Int × SoftwareContainerConfig)
    (oracle : Oracle Sys)
    (world : World Sys (SoftwareContainerAgent (Int × SoftwareContainerConfig))) :
    (assignContainer givenClass containerID given).run oracle world =
      (.ok ⟨⟩, ⟨{ world.state with
        containers := world.state.containers.insert containerID given }, world.history⟩) := by
  rw [assignContainer, run_get_bind, run_modify_bind]
  cases world.state.containers[containerID]? <;> rfl

theorem given_config {agent : SoftwareContainerAgent (Int × SoftwareContainerConfig)}
    {oracle : Oracle Sys} {history : History Sys} {containerID : Int}
    {after : World Sys (SoftwareContainerAgent (Int × SoftwareContainerConfig))}
    (parsed : ((ContainerOptionParser.parse jsonLoads request).run oracle
      ⟨agent.options, history⟩).1 = .ok options)
    (created : (createContainer givenClass jsonLoads request).run oracle ⟨agent, history⟩ =
      (.ok containerID, after)) :
    after.state.containers[containerID]? =
      some (containerID, options.toConfig agent.containerConfig) := by
  obtain ⟨read, afterParse, parseEnded, rest⟩ := run_bind_eq_ok created
  rw [run_zoom] at parseEnded
  have sameOptions : read = options := by
    have ended := (congrArg Prod.fst parseEnded).symm.trans parsed
    exact Except.ok.inj ended
  obtain ⟨reading, _, readingEnded, rest⟩ := run_bind_eq_ok rest
  cases readingEnded
  obtain ⟨id, afterId, idEnded, rest⟩ := run_bind_eq_ok rest
  obtain ⟨⟨given, _⟩, afterGiven, givenEnded, rest⟩ := run_bind_eq_ok rest
  cases givenEnded
  obtain ⟨_, afterAssign, assignEnded, rest⟩ := run_bind_eq_ok rest
  rw [run_assignContainer] at assignEnded
  cases assignEnded
  cases rest
  have sameStatic : agent.containerConfig = afterParse.state.containerConfig :=
    congrArg (fun ended => ended.2.state.containerConfig) parseEnded
  rw [sameStatic, ← sameOptions]
  exact Std.ExtTreeMap.getElem?_insert_self

theorem exists_created (static : SoftwareContainerConfig) {oracle : Oracle Sys}
    {history : History Sys}
    (parsed : ((ContainerOptionParser.parse jsonLoads request).run oracle
      ⟨leftover, history⟩).1 = .ok options) :
    ∃ agent : SoftwareContainerAgent (Int × SoftwareContainerConfig),
      agent.options = leftover ∧ agent.containerConfig = static ∧
        ((createContainer givenClass jsonLoads request).run oracle
          ⟨agent, history⟩).1 = .ok 0 := by
  let agent : SoftwareContainerAgent (Int × SoftwareContainerConfig) := {
    containers := ∅
    containerIdPool := [0]
    options := leftover
    containerConfig := static
    filteredConfigStore := .empty
    defaultConfigStore := .empty
    heap := .empty
    connections := [] }
  cases ended : (ContainerOptionParser.parse jsonLoads request).run oracle
      ⟨leftover, history⟩ with
  | mk result between =>
      rw [ended] at parsed
      cases parsed
      have zoomed : (zoom optionsLens (ContainerOptionParser.parse jsonLoads request)).run
          oracle ⟨agent, history⟩ =
            (.ok options, ⟨{ agent with options := between.state }, between.history⟩) := by
        rw [run_zoom]
        dsimp only [optionsLens, agent]
        rw [ended]
      refine ⟨agent, rfl, rfl, ?_⟩
      rw [createContainer, run_bind_ok zoomed]
      rfl

/-- The options reach the container exactly when the static configuration has them
already, and the size is one that a signed integer can hold. -/
theorem optionsReach_iff {oracle : Oracle Sys} {history : History Sys}
    (parsed : ((ContainerOptionParser.parse jsonLoads request).run oracle
      ⟨leftover, history⟩).1 = .ok options) :
    OptionsReach jsonLoads request leftover options static ↔
      static.temporaryFileSystemWriteBufferEnableds =
          options.temporaryFileSystemWriteBufferEnabled ∧
        static.temporaryFileSystemSize = options.temporaryFileSystemSize ∧
        ∀ size, options.Requests size → FitsInt size := by
  constructor
  · intro reach
    obtain ⟨agent, sameLeftover, sameStatic, returned⟩ := exists_created static parsed
    have created := Prod.ext (y := (Except.ok 0, _)) returned rfl
    obtain ⟨config, stored, takes, mounts⟩ :=
      reach agent oracle history 0 _ sameLeftover sameStatic created
    rw [← sameLeftover] at parsed
    rw [given_config parsed created, sameStatic] at stored
    cases stored
    obtain ⟨sameFlag, sameSize⟩ := takesOptions_toConfig_iff.mp takes
    refine ⟨sameFlag, sameSize, fun size requests => ?_⟩
    rw [← toInt_eq_iff_fitsInt]
    have mounted := SoftwareContainer.size_of_mountsOfSize (mounts size requests)
      requests.1 (sameFlag.trans requests.2.1)
    have same : (options.toConfig static).temporaryFileSystemSize = size :=
      sameSize.trans requests.2.2
    rw [same] at mounted
    exact mounted
  · rintro ⟨sameFlag, sameSize, fits⟩ agent oracle' history' containerID after sameLeftover
      sameStatic created
    subst sameLeftover sameStatic
    have parsedHere := (ContainerOptionParser.parse_alike jsonLoads request agent.options
      oracle' oracle history' history).trans parsed
    refine ⟨_, given_config parsedHere created,
      takesOptions_toConfig_iff.mpr ⟨sameFlag, sameSize⟩, fun size requests => ?_⟩
    have mounts := @SoftwareContainer.mountsOfSize_of_requested containerID
      (options.toConfig agent.containerConfig) requests.1
      (sameFlag.trans requests.2.1)
    have same : (options.toConfig agent.containerConfig).temporaryFileSystemSize = size :=
      sameSize.trans requests.2.2
    rw [same, toInt_of_fitsInt (fits size requests)] at mounts
    exact mounts

end

/-! The request of the documentation. -/

abbrev documentedRequest : String :=
  "[\x7b\"writeBufferEnabled\": true, \"temporaryFileSystemWriteBufferEnabled\": true, " ++
    "\"temporaryFileSystemSize\": 10485760\x7d]"

def loadsDocumented (text : String) : Except String Json :=
  if text = documentedRequest then
    .ok (.array [.object [("writeBufferEnabled", .boolean true),
      ("temporaryFileSystemWriteBufferEnabled", .boolean true),
      ("temporaryFileSystemSize", .integer 10485760)]])
  else
    .error "invalid token"

theorem parse_documentedRequest :
    ((ContainerOptionParser.parse loadsDocumented documentedRequest).run fortunate
      ⟨.new, []⟩).1 = .ok ⟨true, true, 10485760⟩ := by
  decide +kernel

theorem documented_options_reach :
    OptionsReach loadsDocumented documentedRequest .new ⟨true, true, 10485760⟩
      { SoftwareContainerConfig.defaults with
        temporaryFileSystemWriteBufferEnableds := true
        temporaryFileSystemSize := 10485760 } := by
  refine (optionsReach_iff parse_documentedRequest).mpr ⟨rfl, rfl, ?_⟩
  rintro size ⟨_, _, ⟨⟩⟩
  decide

/-- Without the flag in the configuration, the file system has the size of the source, and not
the requested one. -/
theorem documented_request_is_not_met :
    ¬ ∀ (jsonLoads : String → Except String Json) (request : String)
        (leftover options : DynamicContainerOptions) (static : SoftwareContainerConfig)
        (oracle : Oracle Sys) (history : History Sys),
      ((ContainerOptionParser.parse jsonLoads request).run oracle
        ⟨leftover, history⟩).1 = .ok options →
      OptionsReach jsonLoads request leftover options static := by
  intro reaches
  have reach := reaches loadsDocumented documentedRequest .new ⟨true, true, 10485760⟩
    .defaults fortunate [] parse_documentedRequest
  obtain ⟨agent, sameLeftover, sameStatic, returned⟩ :=
    exists_created .defaults parse_documentedRequest
  have created := Prod.ext (y := (Except.ok 0, _)) returned rfl
  obtain ⟨config, stored, takes, _⟩ :=
    reach agent fortunate [] 0 _ sameLeftover sameStatic created
  have parsed := parse_documentedRequest
  rw [← sameLeftover] at parsed
  rw [given_config parsed created, sameStatic] at stored
  cases stored
  exact absurd takes.temporaryFileSystem (by decide)

end SoftwareContainerAgent

end SoftwareContainers
