import Mathlib.Data.List.Dedup
import Mathlib.Data.List.Sort
import SoftwareContainers.Agent.Agent
import SoftwareContainers.Configuration.ConfigSources
import SoftwareContainers.Configuration.ManifestLoader

namespace SoftwareContainers

open Effect Effect.Act

/-! The constructor of `SoftwareContainerAgent`, and the containers of an earlier agent that
`class ContainerUtilityInterface` removes for it. -/

def ofConfig {σ α : Type} : Except ConfigError α → Act Host StartupError σ α
  | .ok value => return value
  | .error error => throw (.config error)

namespace ContainerUtilityInterface

variable {σ : Type}

/-- `std::regex("SC-.*")`, in which a dot is no end of a line. -/
def isDeprecated (containerName : String) : Bool :=
  match containerName.toList with
  | 'S' :: 'C' :: '-' :: rest => rest.all fun character => character ≠ '\n' && character ≠ '\r'
  | _ => false

def stopDeprecated (containerName : String) : Act Host StartupError σ PUnit := do
  if ← host (.isRunning containerName) then
    if ← host (.stop containerName) then
      return ⟨⟩
    else
      throw (.containerUtilityInterfaceError
        ("Unable to stop deprecated container " ++ containerName))
  else
    return ⟨⟩

def destroyDeprecated (containerName : String) : Act Host StartupError σ PUnit := do
  if ← host (.destroy containerName) then
    return ⟨⟩
  else
    throw (.containerUtilityInterfaceError
      ("Unable to destroy deprecated container " ++ containerName))

def removeEach : List String → Act Host StartupError σ PUnit
  | [] => return ⟨⟩
  | containerName :: rest => do
      if !isDeprecated containerName then
        removeEach rest
      else
        stopDeprecated containerName
        destroyDeprecated containerName
        removeEach rest

/-- The names are the keys of a map. -/
def removeOldContainers : Act Host StartupError σ PUnit := do
  match ← host .listAllContainers with
  | none =>
      throw (.containerUtilityInterfaceError
        "An error occurred while trying to get container list")
  | some containerNames =>
      removeEach (containerNames.dedup.insertionSort (· ≤ ·))

def checkWorkspace (config : Config) : Act Host StartupError σ PUnit := do
  let rootDir ← ofConfig (config.getStringValue "SoftwareContainer" "shared-mounts-dir")
  if ← host (.isDirectory rootDir) then
    return ⟨⟩
  else if ← host (.createDirectory rootDir) then
    return ⟨⟩
  else
    throw (.softwareContainerError "Failed to create container root directory")

end ContainerUtilityInterface

/-- The values the constructor of the agent reads. -/
structure AgentConfigs where
  containerConfig : SoftwareContainerConfig
  serviceManifestDir : String
  defaultServiceManifestDir : String

namespace SoftwareContainerAgent

open ConfigDefinition ContainerUtilityInterface

variable {κ σ : Type}

def readNetworkConfigs (config : Config) (containerConfig : SoftwareContainerConfig) :
    Except ConfigError SoftwareContainerConfig := do
  let createBridge ← config.getBoolValue SC_GROUP "create-bridge"
  let bridgeDevice ← config.getStringValue SC_GROUP "bridge-device"
  let bridgeIp ← config.getStringValue SC_GROUP "bridge-ip"
  let bridgeNetmask ← config.getStringValue SC_GROUP "bridge-netmask"
  let bridgeNetmaskBits ← config.getIntValue SC_GROUP "bridge-netmask-bitlength"
  let bridgeNetAddr ← config.getStringValue SC_GROUP "bridge-netaddr"
  return { containerConfig with
    shouldCreateBridge := createBridge
    bridgeDevice := bridgeDevice
    bridgeIPAddress := bridgeIp
    bridgeNetmask := bridgeNetmask
    bridgeNetmaskBitLength := bridgeNetmaskBits
    bridgeNetAddr := bridgeNetAddr }

/-- The members that the constructor of `SoftwareContainerConfig` does not write are as they
were. -/
def readConfigs (enableNetworkGateway : Bool) (unset : SoftwareContainerConfig)
    (config : Config) : Except ConfigError AgentConfigs := do
  let shutdownTimeout ← config.getIntValue SC_GROUP "shutdown-timeout"
  let sharedMountsDir ← config.getStringValue SC_GROUP "shared-mounts-dir"
  let lxcConfigPath ← config.getStringValue SC_GROUP "deprecated-lxc-config-path"
  let networked ← if enableNetworkGateway then readNetworkConfigs config unset else pure unset
  let serviceManifestDir ← config.getStringValue SC_GROUP "service-manifest-dir"
  let defaultServiceManifestDir ← config.getStringValue SC_GROUP "default-service-manifest-dir"
  return {
    containerConfig := { networked with
      containerConfigPath := lxcConfigPath
      sharedMountsDir := sharedMountsDir
      containerShutdownTimeout := (shutdownTimeout % 2 ^ 32).toNat }
    serviceManifestDir := serviceManifestDir
    defaultServiceManifestDir := defaultServiceManifestDir }

def start (enableNetworkGateway : Bool) (unset : SoftwareContainerConfig) (config : Config) :
    Act Host StartupError σ (SoftwareContainerAgent κ) := do
  let configs ← ofConfig (readConfigs enableNetworkGateway unset config)
  let (filteredConfigStore, heap) ← ConfigStore.construct configs.serviceManifestDir .empty
  let (defaultConfigStore, heap) ←
    ConfigStore.construct configs.defaultServiceManifestDir heap
  removeOldContainers
  checkWorkspace config
  return {
    containers := ∅
    containerIdPool := [0]
    options := .new
    containerConfig := configs.containerConfig
    filteredConfigStore := filteredConfigStore
    defaultConfigStore := defaultConfigStore
    heap := heap
    connections := [] }

end SoftwareContainerAgent

/-! What becomes of the containers. -/

abbrev Containers := String → Option Bool

namespace Containers

def change (containers : Containers) : Event Host → Containers
  | ⟨.stop name, true⟩ =>
      Function.update containers name ((containers name).map fun _ => false)
  | ⟨.destroy name, true⟩ => Function.update containers name none
  | _ => containers

def afterwards (containers : Containers) (history : History Host) : Containers :=
  history.foldl change containers

@[simp] theorem afterwards_concat (containers : Containers) (history : History Host)
    (event : Event Host) :
    containers.afterwards (history ++ [event]) = (containers.afterwards history).change event := by
  rw [afterwards, List.foldl_concat, afterwards]

def Knows (initially : Containers) (history : History Host) : Event Host → Prop
  | ⟨.listAllContainers, some names⟩ =>
      ∀ name, name ∈ names ↔ (initially.afterwards history name).isSome = true
  | ⟨.isRunning name, answer⟩ => answer = true ↔ initially.afterwards history name = some true
  | _ => True

def Spares (initially : Containers) (history : History Host) : Event Host → Prop
  | ⟨.stop name, _⟩ => ContainerUtilityInterface.isDeprecated name = true ∧
      initially.afterwards history name = some true
  | ⟨.destroy name, _⟩ => ContainerUtilityInterface.isDeprecated name = true ∧
      initially.afterwards history name = some false
  | _ => True

def cleared (containers : Containers) : Containers := fun name =>
  if ContainerUtilityInterface.isDeprecated name then none else containers name

def Untouched (before after : Containers) : Prop :=
  ∀ name, ContainerUtilityInterface.isDeprecated name = false → after name = before name

end Containers

namespace ContainerUtilityInterface

open Containers

variable {σ : Type} {initially : Containers}

abbrev Have (initially now : Containers) : World Host σ → Prop :=
  fun world => initially.afterwards world.history = now

def Turns {α : Type} (initially now after : Containers) :
    Except StartupError α → World Host σ → Prop
  | .ok _, world => Have initially after world
  | .error error, world => (∃ message, error = .containerUtilityInterfaceError message) ∧
      Untouched now (initially.afterwards world.history)

theorem Untouched.refl (containers : Containers) : Untouched containers containers :=
  fun _ _ => rfl

theorem untouched_update {containerName : String} (deprecated : isDeprecated containerName = true)
    (now : Containers) (running : Option Bool) :
    Untouched now (Function.update now containerName running) := by
  intro name isOther
  rw [Function.update_of_ne]
  rintro rfl
  simp [deprecated] at isOther

theorem turns_bind {now middle after : Containers} {first : Act Host StartupError σ PUnit}
    {rest : Act Host StartupError σ PUnit} (spared : Untouched now middle)
    (early : Secures (Knows initially) (Spares initially) (Have initially now)
      (Turns initially now middle) first)
    (late : Secures (Knows initially) (Spares initially) (Have initially middle)
      (Turns initially middle after) rest) :
    Secures (Knows initially) (Spares initially) (Have initially now)
      (Turns initially now after) (first >>= fun _ => rest) := by
  refine secures_bind (Turns initially now middle) early (fun _ => ?_) fun _ _ thrown => thrown
  refine late.weaken (fun _ reached => reached) fun result world ended => ?_
  cases result with
  | ok _ => exact ended
  | error error =>
      exact ⟨ended.1, fun name isOther => (ended.2 name isOther).trans (spared name isOther)⟩

theorem secures_destroyDeprecated {containerName : String} {now : Containers}
    (deprecated : isDeprecated containerName = true) (isStopped : now containerName = some false) :
    Secures (Knows initially) (Spares initially) (Have (σ := σ) initially now)
      (Turns initially now (Function.update now containerName none))
      (destroyDeprecated containerName) := by
  refine secures_ask_bind (fun (answer : Bool) =>
      Have initially (if answer then Function.update now containerName none else now))
    (fun world answer known _ => ?_) fun answer => ?_
  · have here : initially.afterwards world.history = now := known
    refine ⟨⟨deprecated, here ▸ isStopped⟩, ?_⟩
    rw [Have, afterwards_concat, here]
    cases answer <;> rfl
  · cases answer with
    | true => exact secures_pure fun _ known => known
    | false => exact secures_throw fun world known => ⟨⟨_, rfl⟩, known ▸ Untouched.refl now⟩

theorem secures_stopDeprecated {containerName : String} {now : Containers} {running : Bool}
    (deprecated : isDeprecated containerName = true) (isThere : now containerName = some running) :
    Secures (Knows initially) (Spares initially) (Have (σ := σ) initially now)
      (Turns initially now (Function.update now containerName (some false)))
      (stopDeprecated containerName) := by
  refine secures_ask_bind (fun (answer : Bool) world => answer = running ∧ Have initially now world)
    (fun world answer known right => ?_) fun answer => ?_
  · have here : initially.afterwards world.history = now := known
    refine ⟨trivial, ?_, by rw [Have, afterwards_concat, here]; rfl⟩
    have isRight : answer = true ↔ initially.afterwards world.history containerName = some true :=
      right
    rw [here, isThere, Option.some_inj] at isRight
    exact Bool.eq_iff_iff.mpr isRight
  · cases answer with
    | false =>
        refine secures_pure fun world known => ?_
        obtain ⟨rfl, known⟩ := known
        rw [Turns, ← isThere, Function.update_eq_self]
        exact known
    | true =>
        refine secures_ask_bind (fun (stopped : Bool) =>
            Have initially (if stopped then Function.update now containerName (some false) else now))
          (fun world stopped known _ => ?_) fun stopped => ?_
        · obtain ⟨rfl, here⟩ := known
          refine ⟨⟨deprecated, ?_⟩, ?_⟩
          · rw [here, isThere]
          · rw [Have, afterwards_concat, here]
            cases stopped with
            | true => rw [change, isThere]; rfl
            | false => rfl
        · cases stopped with
          | true => exact secures_pure fun _ known => known
          | false =>
              exact secures_throw fun world known => ⟨⟨_, rfl⟩, known ▸ Untouched.refl now⟩

def without (containerNames : List String) (containers : Containers) : Containers := fun name =>
  if isDeprecated name = true ∧ name ∈ containerNames then none else containers name

theorem secures_removeEach {containerNames : List String} {now : Containers}
    (distinct : containerNames.Nodup)
    (present : ∀ name ∈ containerNames, (now name).isSome = true) :
    Secures (Knows initially) (Spares initially) (Have (σ := σ) initially now)
      (Turns initially now (without containerNames now)) (removeEach containerNames) := by
  induction containerNames generalizing now with
  | nil =>
      refine secures_pure fun world known => ?_
      have same : without [] now = now := by
        funext name
        simp [without]
      rw [Turns, same]
      exact known
  | cons containerName rest ih =>
      obtain ⟨isNew, distinct⟩ := List.nodup_cons.mp distinct
      obtain ⟨isThere, later⟩ := List.forall_mem_cons.mp present
      rw [removeEach]
      by_cases deprecated : isDeprecated containerName = true
      · obtain ⟨running, isThere⟩ := Option.isSome_iff_exists.mp isThere
        have removed : without (containerName :: rest) now =
            without rest (Function.update now containerName none) := by
          funext name
          by_cases same : name = containerName
          · subst same
            simp [without, deprecated]
          · simp [without, same]
        rw [deprecated, if_neg (by decide), removed]
        refine turns_bind (untouched_update deprecated now _)
          (secures_stopDeprecated deprecated isThere) (turns_bind ?_
            (secures_destroyDeprecated deprecated (Function.update_self ..)) ?_)
        · exact untouched_update deprecated _ none
        · rw [Function.update_idem]
          refine ih distinct fun name member => ?_
          rw [Function.update_of_ne]
          · exact later name member
          · rintro rfl
            exact isNew member
      · have kept : without (containerName :: rest) now = without rest now := by
          funext name
          by_cases same : name = containerName
          · subst same
            simp [without, deprecated]
          · simp [without, same]
        rw [Bool.eq_false_of_not_eq_true deprecated, kept]
        exact ih distinct later

theorem keeps_removeEach (containerNames : List String) :
    Grown (removeEach containerNames : Act Host StartupError σ PUnit) := by
  induction containerNames with
  | nil => exact keeps_pure _
  | cons containerName rest ih =>
      refine keeps_ite (fun _ => ih) fun _ => keeps_bind ?_ fun _ => keeps_bind ?_ fun _ => ih
      · refine keeps_bind (keeps_ask fun _ => trivial) fun running =>
          keeps_ite (fun _ => ?_) fun _ => keeps_pure _
        exact keeps_bind (keeps_ask fun _ => trivial) fun stopped =>
          keeps_ite (fun _ => keeps_pure _) fun _ => keeps_throw trivial
      · exact keeps_bind (keeps_ask fun _ => trivial) fun destroyed =>
          keeps_ite (fun _ => keeps_pure _) fun _ => keeps_throw trivial

theorem keeps_removeOldContainers :
    Grown (removeOldContainers : Act Host StartupError σ PUnit) := by
  refine keeps_bind (keeps_ask fun _ => trivial) fun answer => ?_
  cases answer with
  | none => exact keeps_throw trivial
  | some containerNames => exact keeps_removeEach _

theorem without_eq_cleared {containerNames : List String} {now : Containers}
    (present : ∀ name, name ∈ containerNames ↔ (now name).isSome = true) :
    without containerNames now = now.cleared := by
  funext name
  rw [without, cleared]
  by_cases deprecated : isDeprecated name = true
  · cases isThere : now name <;> simp [present, deprecated, isThere]
  · simp [deprecated]

theorem secures_removeOldContainers (now : Containers) :
    Secures (Knows initially) (Spares initially) (Have (σ := σ) initially now)
      (Turns initially now now.cleared) removeOldContainers := by
  refine secures_ask_bind (fun (answer : Option (List String)) world =>
      Have initially now world ∧
        ∀ names, answer = some names → ∀ name, name ∈ names ↔ (now name).isSome = true)
    (fun world answer known right => ?_) fun answer => ?_
  · have here : initially.afterwards world.history = now := known
    refine ⟨trivial, by rw [Have, afterwards_concat, here]; rfl, ?_⟩
    rintro names rfl name
    rw [← here]
    exact right name
  · cases answer with
    | none =>
        refine secures_throw fun world known => ⟨⟨_, rfl⟩, ?_⟩
        rw [known.1]
        exact Untouched.refl now
    | some names =>
        have removes : (∀ name, name ∈ names ↔ (now name).isSome = true) →
            Secures (Knows initially) (Spares initially) (Have (σ := σ) initially now)
              (Turns initially now now.cleared)
              (removeEach (names.dedup.insertionSort (· ≤ ·))) := by
          intro right
          have sorted := names.dedup.perm_insertionSort (· ≤ ·)
          have present : ∀ name, name ∈ names.dedup.insertionSort (· ≤ ·) ↔
              (now name).isSome = true := by
            intro name
            rw [sorted.mem_iff, List.mem_dedup, right name]
          rw [← without_eq_cleared present]
          exact secures_removeEach (sorted.nodup_iff.mpr names.nodup_dedup)
            fun name member => (present name).mp member
        exact (secures_of_fact (keeps_removeEach _) removes).starting fun world known =>
          ⟨known.1, known.2 names rfl⟩

def Quiet : Event Host → Prop
  | ⟨.stop _, _⟩ | ⟨.destroy _, _⟩ => False
  | _ => True

theorem Quiet.change_eq {event : Event Host} (quiet : Quiet event) (now : Containers) :
    now.change event = now := by
  obtain ⟨call, answer⟩ := event
  cases call with
  | stop | destroy => exact quiet.elim
  | _ => rfl

theorem Quiet.spares {event : Event Host} (quiet : Quiet event) (history : History Host) :
    Spares initially history event := by
  obtain ⟨call, answer⟩ := event
  cases call with
  | stop | destroy => exact quiet.elim
  | _ => exact trivial

theorem secures_of_quiet {α : Type} {may : StartupError → Prop} {act : Act Host StartupError σ α}
    (keeps : Keeps (fun _ => True) Quiet may act) (now : Containers) :
    Secures (Knows initially) (Spares initially) (Have initially now)
      (fun result world => Have initially now world ∧ ∀ error, result = .error error → may error)
      act := by
  have kept : ∀ history event, Quiet event → initially.afterwards history = now →
      initially.afterwards (history ++ [event]) = now := by
    intro history event quiet same
    rw [afterwards_concat, quiet.change_eq, same]
  exact keeps.secures (fun history event quiet => quiet.spares history) kept

end ContainerUtilityInterface

namespace ServiceManifestFileLoader

open ContainerUtilityInterface

def OfManifests : StartupError → Prop
  | .serviceManifestPathError _ | .serviceManifestParseError _ | .store _ => True
  | _ => False

theorem keeps_loadServiceManifestFile (filePath : String) :
    Keeps (fun _ => True) Quiet OfManifests (loadServiceManifestFile filePath) := by
  refine keeps_bind (keeps_ask fun _ => trivial) fun file => ?_
  split
  · exact keeps_throw trivial
  · exact keeps_ite (fun _ => keeps_throw trivial) fun _ => keeps_modify fun _ _ => trivial

theorem keeps_loadServiceManifestFiles (files : List String) :
    Keeps (fun _ => True) Quiet OfManifests (loadServiceManifestFiles files) := by
  induction files with
  | nil => exact keeps_pure _
  | cons file rest ih =>
      exact keeps_get_bind fun self _ =>
        keeps_bind (keeps_loadServiceManifestFile _) fun _ => ih

theorem keeps_fileList : Keeps (fun _ => True) Quiet OfManifests fileList := by
  refine keeps_get_bind fun self _ => keeps_bind (keeps_ask fun _ => trivial) fun names => ?_
  split <;> exact keeps_pure _

theorem keeps_loadContent : Keeps (fun _ => True) Quiet OfManifests loadContent := by
  refine keeps_get_bind fun self _ => keeps_ite (fun _ => ?_) fun _ =>
    keeps_ite (fun _ => keeps_throw trivial) fun _ =>
      keeps_bind (keeps_ask fun _ => trivial) fun isDirectory => keeps_ite (fun _ => ?_) fun _ =>
        keeps_bind (keeps_ask fun _ => trivial) fun isFile => keeps_ite (fun _ =>
          keeps_ite (fun _ => ?_) fun _ => keeps_throw trivial) fun _ => keeps_throw trivial
  · exact keeps_get_bind fun self _ => keeps_pure _
  · refine keeps_bind (keeps_get_bind fun self _ => keeps_bind (keeps_ask fun _ => trivial)
      fun isEmpty => keeps_ite (fun _ => keeps_pure _) fun _ => ?_) fun _ =>
        keeps_get_bind fun self _ => keeps_pure _
    exact keeps_bind keeps_fileList fun files => keeps_loadServiceManifestFiles files
  · exact keeps_bind (keeps_loadServiceManifestFile _) fun _ =>
      keeps_get_bind fun self _ => keeps_pure _

end ServiceManifestFileLoader

namespace SoftwareContainerAgent

open ContainerUtilityInterface ServiceManifestFileLoader Containers

variable {κ σ : Type}

theorem keeps_constructLoader (source : String) (heap : JsonHeap) :
    Keeps (fun _ => True) Quiet OfManifests
      (ConfigStore.construct source heap : Act Host StartupError σ (ConfigStore × JsonHeap)) := by
  refine keeps_bind (keeps_runOn trivial keeps_loadContent) fun loaded => ?_
  obtain ⟨content, _⟩ := loaded
  change Keeps _ _ _ (ConfigStore.ofFault (ConfigStore.load content heap))
  cases ConfigStore.load content heap with
  | ok self => exact keeps_pure self
  | error fault => exact keeps_throw trivial

theorem keeps_checkWorkspace {config : Config} {rootDir : String}
    (found : config.getStringValue "SoftwareContainer" "shared-mounts-dir" = .ok rootDir) :
    Keeps (fun _ => True) Quiet (fun error => ∃ message, error = .softwareContainerError message)
      (checkWorkspace config : Act Host StartupError σ PUnit) := by
  rw [checkWorkspace, found]
  refine keeps_bind (keeps_pure _) fun _ => keeps_bind (keeps_ask fun _ => trivial) fun isThere =>
    keeps_ite (fun _ => keeps_pure _) fun _ => keeps_bind (keeps_ask fun _ => trivial) fun made =>
      keeps_ite (fun _ => keeps_pure _) fun _ => keeps_throw ⟨_, rfl⟩

theorem getStringValue_of_readConfigs {enableNetworkGateway : Bool}
    {unset : SoftwareContainerConfig} {config : Config} {configs : AgentConfigs}
    (read : readConfigs enableNetworkGateway unset config = .ok configs) :
    ∃ rootDir, config.getStringValue "SoftwareContainer" "shared-mounts-dir" = .ok rootDir := by
  obtain ⟨timeout, _, read⟩ := ConfigStore.except_bind_eq_ok read
  obtain ⟨rootDir, found, _⟩ := ConfigStore.except_bind_eq_ok read
  exact ⟨rootDir, found⟩

def Started {α : Type} (initially now : Containers) :
    Except StartupError α → World Host σ → Prop
  | .ok _, world | .error (.softwareContainerError _), world => Have initially now.cleared world
  | .error (.containerUtilityInterfaceError _), world =>
      Untouched now (initially.afterwards world.history)
  | .error _, world => Have initially now world

theorem started_of_manifests {α : Type} {initially now : Containers} {error : StartupError}
    {world : World Host σ} (known : Have initially now world) (kind : OfManifests error) :
    Started initially now (.error error : Except StartupError α) world := by
  cases error with
  | serviceManifestPathError | serviceManifestParseError | store => exact known
  | config | containerUtilityInterfaceError | softwareContainerError => exact kind.elim

theorem secures_start (initially now : Containers) (enableNetworkGateway : Bool)
    (unset : SoftwareContainerConfig) (config : Config) :
    Secures (Knows initially) (Spares initially) (Have initially now) (Started initially now)
      (start enableNetworkGateway unset config :
        Act Host StartupError σ (SoftwareContainerAgent κ)) := by
  cases read : readConfigs enableNetworkGateway unset config with
  | error error =>
      rw [start, read]
      exact secures_throw fun world known => known
  | ok configs =>
      obtain ⟨rootDir, found⟩ := getStringValue_of_readConfigs read
      rw [start, read]
      change Secures _ _ _ _ (ConfigStore.construct configs.serviceManifestDir .empty >>= _)
      refine secures_bind _ (secures_of_quiet (keeps_constructLoader _ .empty) now)
        (fun filtered => ?_)
        fun error world ended => started_of_manifests ended.1 (ended.2 error rfl)
      obtain ⟨filteredConfigStore, heap⟩ := filtered
      refine secures_bind _ ((secures_of_quiet (keeps_constructLoader _ _) now).starting
        fun world known => known.1) (fun default => ?_)
        fun error world ended => started_of_manifests ended.1 (ended.2 error rfl)
      refine secures_bind _ ((secures_removeOldContainers now).starting
        fun world known => known.1) (fun _ => ?_) ?_
      · refine secures_bind _ (secures_of_quiet (keeps_checkWorkspace found) now.cleared)
          (fun _ => secures_pure fun world known => known.1) fun error world ended => ?_
        obtain ⟨message, rfl⟩ := ended.2 error rfl
        exact ended.1
      · rintro error world ⟨⟨message, rfl⟩, spared⟩
        exact spared

/-- What a loader for the path returns, from what has been asked before to what has been asked
then. -/
def Loads (oracle : Oracle Host) (source : String) (before : History Host)
    (content : List Json) (after : History Host) : Prop :=
  ∃ loader, ServiceManifestFileLoader.loadContent.run oracle ⟨⟨source, []⟩, before⟩ =
    (.ok content, ⟨loader, after⟩)

theorem loads_of_construct {source : String} {heap : JsonHeap} {oracle : Oracle Host}
    {world after : World Host σ} {stored : ConfigStore × JsonHeap}
    (ended : (ConfigStore.construct source heap).run oracle world = (.ok stored, after)) :
    ∃ content, Loads oracle source world.history content after.history ∧
      ConfigStore.load content heap = .ok stored := by
  obtain ⟨⟨content, loader⟩, between, made, ended⟩ := run_bind_eq_ok ended
  have loaded := (run_runOn_eq_ok made).1
  change (ConfigStore.ofFault (ConfigStore.load content heap)).run oracle between = _ at ended
  cases stores : ConfigStore.load content heap with
  | ok self =>
      rw [stores] at ended
      cases ended
      exact ⟨content, ⟨loader, loaded⟩, stores⟩
  | error fault =>
      rw [stores] at ended
      cases ended

/-- The agent has the configuration that is read, and the manifests that the loaders return
for the two directories in it, one after the other and before anything is removed. -/
structure MadeOf (enableNetworkGateway : Bool) (unset : SoftwareContainerConfig)
    (config : Config) (oracle : Oracle Host) (before ended : History Host)
    (agent : SoftwareContainerAgent κ) (configs : AgentConfigs)
    (manifests defaultManifests : List Json) (between after : History Host) : Prop where
  read : readConfigs enableNetworkGateway unset config = .ok configs
  filteredLoads : Loads oracle configs.serviceManifestDir before manifests between
  defaultLoads : Loads oracle configs.defaultServiceManifestDir between defaultManifests after
  constructed : construct configs.containerConfig manifests defaultManifests = .ok agent
  quiet : Grows Quiet before after
  later : after <+: ended

theorem Loads.quiet {oracle : Oracle Host} {source : String} {before after : History Host}
    {content : List Json} (loads : Loads oracle source before content after) :
    Grows Quiet before after := by
  obtain ⟨loader, ended⟩ := loads
  have recorded := (ServiceManifestFileLoader.keeps_loadContent oracle ⟨⟨source, []⟩, before⟩
    trivial).2.1
  rw [ended] at recorded
  exact recorded

theorem prefix_of_keeps {α : Type} {allowed : Event Host → Prop} {may : StartupError → Prop}
    {act : Act Host StartupError σ α} (keeps : Keeps (fun _ => True) allowed may act)
    {oracle : Oracle Host} {world after : World Host σ} {result : Except StartupError α}
    (ended : act.run oracle world = (result, after)) : world.history <+: after.history := by
  obtain ⟨recorded, grown, _⟩ := (keeps oracle world trivial).2.1
  rw [ended] at grown
  exact ⟨recorded, grown.symm⟩

/-- An agent that starts is one that is constructed with what its loaders have loaded. -/
theorem madeOf_of_start {enableNetworkGateway : Bool} {unset : SoftwareContainerConfig}
    {config : Config} {oracle : Oracle Host} {world after : World Host σ}
    {agent : SoftwareContainerAgent κ}
    (ended : (start enableNetworkGateway unset config).run oracle world = (.ok agent, after)) :
    ∃ configs manifests defaultManifests between loaded,
      MadeOf enableNetworkGateway unset config oracle world.history after.history agent configs
        manifests defaultManifests between loaded := by
  obtain ⟨configs, readAfter, read, ended⟩ := run_bind_eq_ok ended
  obtain ⟨⟨filtered, heap⟩, _, isFiltered, ended⟩ := run_bind_eq_ok ended
  obtain ⟨⟨default, heapAfter⟩, _, isDefault, ended⟩ := run_bind_eq_ok ended
  obtain ⟨_, _, removed, ended⟩ := run_bind_eq_ok ended
  obtain ⟨_, _, checked, ended⟩ := run_bind_eq_ok ended
  obtain ⟨manifests, loads, isManifests⟩ := loads_of_construct isFiltered
  obtain ⟨defaultManifests, loadsDefaults, isDefaults⟩ := loads_of_construct isDefault
  have sameHistory := congrArg (fun ended => ended.2.history) ended
  have constructed : construct configs.containerConfig manifests defaultManifests =
      .ok agent := by
    cases ended
    rw [construct, isManifests]
    change (ConfigStore.load defaultManifests heap >>= _) = _
    rw [isDefaults]
    rfl
  cases isRead : readConfigs enableNetworkGateway unset config with
  | error error =>
      rw [isRead] at read
      cases read
  | ok value =>
      rw [isRead] at read
      cases read
      obtain ⟨rootDir, found⟩ := getStringValue_of_readConfigs isRead
      have later := (prefix_of_keeps keeps_removeOldContainers removed).trans
        (prefix_of_keeps (keeps_checkWorkspace found) checked)
      exact ⟨configs, manifests, defaultManifests, _, _, isRead, loads, loadsDefaults,
        constructed, loads.quiet.trans loadsDefaults.quiet, sameHistory ▸ later⟩

/-- However a start ends, it touches only containers of earlier agents, and stops and destroys
them in order; it touches none before the configuration and the manifests are read, and with an
agent there are none left. -/
theorem start_secures (initially : Containers) (enableNetworkGateway : Bool)
    (unset : SoftwareContainerConfig) (config : Config) (oracle : Oracle Host)
    {result : Except StartupError (SoftwareContainerAgent κ)} {after : World Host Unit}
    (ended : (start enableNetworkGateway unset config).run oracle ⟨⟨⟩, []⟩ = (result, after))
    (known : Each (Knows initially) after.history) :
    Each (Spares initially) after.history ∧ Started initially initially result after ∧
      ∀ agent, result = .ok agent → ∃ configs manifests defaultManifests between loaded,
        MadeOf enableNetworkGateway unset config oracle [] after.history agent configs manifests
          defaultManifests between loaded := by
  have secured := secures_start (κ := κ) (σ := Unit) initially initially enableNetworkGateway unset
    config oracle ⟨⟨⟩, []⟩
  rw [ended] at secured
  obtain ⟨_, holds⟩ := secured known
  obtain ⟨spares, started⟩ := holds trivial rfl
  refine ⟨spares, started, ?_⟩
  rintro agent rfl
  exact madeOf_of_start ended

def requestsOnly : Config :=
  .readConfigsFromSources
    [defaultConfigSource ⟨"/tmp/container/", "/etc/lxc.conf", "", "", 1, false⟩]

def oneLeft : Containers := fun name => if name = "SC-7" then some true else none

def findsOne : Oracle Host
  | _, .listAllContainers => some ["SC-7"]
  | history, call => ConfigStore.serving "" [] history call

def foundAndRemoved : History Host :=
  [⟨.listAllContainers, some ["SC-7"]⟩, ⟨.isRunning "SC-7", true⟩, ⟨.stop "SC-7", true⟩,
    ⟨.destroy "SC-7", true⟩, ⟨.isDirectory "/tmp/container/", true⟩]

theorem start_secures_oneLeft :
    oneLeft.afterwards foundAndRemoved = (fun _ => none) ∧
      ∃ agent : SoftwareContainerAgent Unit,
        (start false .defaults requestsOnly).run findsOne (⟨⟨⟩, []⟩ : World Host Unit) =
          (.ok agent, ⟨⟨⟩, foundAndRemoved⟩) := by
  have ended : ∃ agent : SoftwareContainerAgent Unit,
      (start false .defaults requestsOnly).run findsOne (⟨⟨⟩, []⟩ : World Host Unit) =
        (.ok agent, ⟨⟨⟩, foundAndRemoved⟩) := by
    refine ⟨⟨∅, [0], .new, { SoftwareContainerConfig.defaults with
      containerConfigPath := "/etc/lxc.conf" }, .empty, .empty, .empty, []⟩, ?_⟩
    rfl
  refine ⟨?_, ended⟩
  obtain ⟨agent, ended⟩ := ended
  have known : Each (Knows oneLeft) foundAndRemoved := by
    refine ⟨fun name => ?_, ?_, trivial, trivial, trivial, trivial⟩
    · simp [afterwards, oneLeft]
    · exact iff_of_true rfl rfl
  obtain ⟨_, started, _⟩ := start_secures oneLeft false .defaults requestsOnly findsOne ended known
  refine Eq.trans started (funext fun name => ?_)
  by_cases same : name = "SC-7"
  · subst same
    rfl
  · simp [cleared, oneLeft, same]

end SoftwareContainerAgent

end SoftwareContainers
