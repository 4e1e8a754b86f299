import SoftwareContainers.Configuration.Precedence

namespace SoftwareContainers

/-! The sources the agent gives its configuration, and the keys that are defined for it. -/

namespace ConfigDefinition

abbrev MandatoryFlag := Bool

def SC_GROUP := "SoftwareContainer"

/-- The flags set by cmake, when the network gateway is enabled. -/
structure NetworkFlags where
  createBridge : MandatoryFlag
  bridgeDevice : MandatoryFlag
  bridgeIP : MandatoryFlag
  bridgeNetmaskBitlength : MandatoryFlag
  bridgeNetmask : MandatoryFlag
  bridgeNetaddr : MandatoryFlag

def CONFIGS (network : Option NetworkFlags) : List (UniqueKey × ConfigType × MandatoryFlag) :=
  (match network with
  | none => []
  | some flags =>
      [((SC_GROUP, "create-bridge"), .boolean, flags.createBridge),
        ((SC_GROUP, "bridge-device"), .string, flags.bridgeDevice),
        ((SC_GROUP, "bridge-ip"), .string, flags.bridgeIP),
        ((SC_GROUP, "bridge-netmask-bitlength"), .integer, flags.bridgeNetmaskBitlength),
        ((SC_GROUP, "bridge-netmask"), .string, flags.bridgeNetmask),
        ((SC_GROUP, "bridge-netaddr"), .string, flags.bridgeNetaddr)]) ++
  [((SC_GROUP, "use-session-bus"), .boolean, false),
    ((SC_GROUP, "shutdown-timeout"), .integer, false),
    ((SC_GROUP, "shared-mounts-dir"), .string, false),
    ((SC_GROUP, "deprecated-lxc-config-path"), .string, false),
    ((SC_GROUP, "service-manifest-dir"), .string, false),
    ((SC_GROUP, "default-service-manifest-dir"), .string, false)]

def mandatory (network : Option NetworkFlags) : MandatoryConfigs :=
  (CONFIGS network).filterMap fun config => if config.2.2 then some config.1 else none

def typeMap (network : Option NetworkFlags) : TypeMap := fun key =>
  (CONFIGS network).foldl
    (fun type config => if config.1 = key then some config.2.1 else type) none

end ConfigDefinition

def ConfigItem.setSource {α : Type} (source : ConfigSourceType) (config : UniqueKey × α) :
    ConfigItem α :=
  ⟨config.1.1, config.1.2, source, config.2⟩

@[simp] theorem ConfigItem.uniqueKey_setSource {α : Type} (source : ConfigSourceType)
    (config : UniqueKey × α) : (ConfigItem.setSource source config).uniqueKey = config.1 := rfl

/-- What `main` has of the command line. -/
structure CommandlineOptions where
  serviceManifestDir : String
  defaultServiceManifestDir : String
  timeout : Int
  useSessionBus : Bool

namespace CommandlineOptions

open ConfigDefinition

def initial : CommandlineOptions := ⟨"", "", -2, false⟩

def withSlash (dir : String) : String :=
  if dir.toList.getLast? = some '/' then dir else dir ++ "/"

def stringConfigs (options : CommandlineOptions) : List (UniqueKey × String) :=
  (if options.serviceManifestDir ≠ initial.serviceManifestDir then
    [((SC_GROUP, "service-manifest-dir"), withSlash options.serviceManifestDir)] else []) ++
  if options.defaultServiceManifestDir ≠ initial.defaultServiceManifestDir then
    [((SC_GROUP, "default-service-manifest-dir"), withSlash options.defaultServiceManifestDir)]
  else []

def intConfigs (options : CommandlineOptions) : List (UniqueKey × Int) :=
  if options.timeout ≠ initial.timeout then
    [((SC_GROUP, "shutdown-timeout"), options.timeout)]
  else []

def boolConfigs (options : CommandlineOptions) : List (UniqueKey × Bool) :=
  if options.useSessionBus then [((SC_GROUP, "use-session-bus"), options.useSessionBus)] else []

end CommandlineOptions

def commandlineConfigSource (stringConfigs : List (UniqueKey × String))
    (intConfigs : List (UniqueKey × Int)) (boolConfigs : List (UniqueKey × Bool)) :
    ConfigSource where
  stringConfigs := stringConfigs.map (.setSource .commandline)
  intConfigs := intConfigs.map (.setSource .commandline)
  boolConfigs := boolConfigs.map (.setSource .commandline)

/-- The values defined by the build system. -/
structure BuildSettings where
  sharedMountsDir : String
  lxcConfigPath : String
  serviceManifestDir : String
  defaultServiceManifestDir : String
  shutdownTimeout : Int
  useSessionBus : Bool

open ConfigDefinition in
def defaultConfigSource (settings : BuildSettings) : ConfigSource where
  stringConfigs :=
    [((SC_GROUP, "shared-mounts-dir"), settings.sharedMountsDir),
      ((SC_GROUP, "deprecated-lxc-config-path"), settings.lxcConfigPath),
      ((SC_GROUP, "service-manifest-dir"), settings.serviceManifestDir),
      ((SC_GROUP, "default-service-manifest-dir"), settings.defaultServiceManifestDir)].map
      (.setSource .default)
  intConfigs :=
    [((SC_GROUP, "shutdown-timeout"), settings.shutdownTimeout)].map (.setSource .default)
  boolConfigs :=
    [((SC_GROUP, "use-session-bus"), settings.useSessionBus)].map (.setSource .default)

/-- A `Glib::KeyFile`: its groups and their keys are each there once.  A value that cannot
be read is an error that says why. -/
structure KeyFile where
  groups : List String
  keys : String → List String
  getString : String → String → Except String String
  getInteger : String → String → Except String Int
  getBoolean : String → String → Except String Bool
  distinctGroups : groups.Nodup
  distinctKeys : ∀ group, (keys group).Nodup

namespace MainConfigSource

/-- The text of the `ConfigFileError` for a value that cannot be read. -/
def getGlibValue {α : Type} (kind : String) (value : Except String α) : Except ConfigError α :=
  match value with
  | .ok value => .ok value
  | .error what => .error (.file ("Could not parse " ++ kind ++ " value: \"" ++ what ++ "\""))

def typeOf (typeMapping : TypeMap) (key : UniqueKey) : Except ConfigError ConfigType :=
  match typeMapping key with
  | some type => .ok type
  | none => .error (.unknown ("Unknown config " ++ key.1 ++ "::" ++ key.2))

def create (config : KeyFile) (key : UniqueKey) (self : ConfigSource) :
    ConfigType → Except ConfigError ConfigSource
  | .string => do
      let value ← getGlibValue "string" (config.getString key.1 key.2)
      return { self with stringConfigs := self.stringConfigs ++ [.setSource .main (key, value)] }
  | .integer => do
      let value ← getGlibValue "integer" (config.getInteger key.1 key.2)
      return { self with intConfigs := self.intConfigs ++ [.setSource .main (key, value)] }
  | .boolean => do
      let value ← getGlibValue "boolean" (config.getBoolean key.1 key.2)
      return { self with boolConfigs := self.boolConfigs ++ [.setSource .main (key, value)] }

/-- The keys of all groups; the map of the groups is in the order of their names. -/
def configsByGroup (config : KeyFile) : List UniqueKey :=
  (config.groups.mergeSort fun first second => first ≤ second).flatMap fun group =>
    (config.keys group).map fun key => (group, key)

def createConfigItems (config : KeyFile) (typeMapping : TypeMap) :
    List UniqueKey → ConfigSource → Except ConfigError ConfigSource
  | [], self => .ok self
  | key :: rest, self => do
      let self ← create config key self (← typeOf typeMapping key)
      createConfigItems config typeMapping rest self

def construct (loaded : Option KeyFile) (typeMapping : TypeMap) :
    Except ConfigError ConfigSource :=
  match loaded with
  | none => .error (.file "Error loading main config file")
  | some config =>
      createConfigItems config typeMapping (configsByGroup config) ⟨[], [], []⟩

end MainConfigSource

/-- The configuration `main` gives the agent. -/
def agentConfig (network : Option ConfigDefinition.NetworkFlags) (settings : BuildSettings)
    (options : CommandlineOptions) (loaded : Option KeyFile) : Except ConfigError Config := do
  let cmdlineConfigs := commandlineConfigSource options.stringConfigs options.intConfigs
    options.boolConfigs
  let mainConfigs ← MainConfigSource.construct loaded (ConfigDefinition.typeMap network)
  let defaultConfigs := defaultConfigSource settings
  Config.construct [cmdlineConfigs, mainConfigs, defaultConfigs]
    (ConfigDefinition.mandatory network) []

/-! Each of these sources is of one kind, and gives the keys their types. -/

theorem itemsOf_setSource {α : Type} {typeMap : TypeMap} {type : ConfigType}
    {configs : List (UniqueKey × α)} (kind : ConfigSourceType)
    (ofType : ∀ config ∈ configs, typeMap config.1 = some type)
    (single : (configs.map Prod.fst).Nodup) :
    ItemsOf typeMap kind type (configs.map (.setSource kind)) where
  ofKind item member := by
    obtain ⟨config, _, rfl⟩ := List.mem_map.mp member
    rfl
  ofType item member := by
    obtain ⟨config, isConfig, rfl⟩ := List.mem_map.mp member
    exact ofType config isConfig
  single := by
    rw [List.map_map]
    exact single

section

open ConfigDefinition

variable (network : Option NetworkFlags)

theorem ofType_of_forall_mem {α : Type} {type : ConfigType} {configs : List (UniqueKey × α)}
    {keys : List UniqueKey} (ofKeys : ∀ config ∈ configs, config.1 ∈ keys)
    (ofType : ∀ key ∈ keys, typeMap network key = some type) :
    ∀ config ∈ configs, typeMap network config.1 = some type :=
  fun config member => ofType config.1 (ofKeys config member)

theorem typeMap_of_string :
    ∀ key ∈ [(SC_GROUP, "shared-mounts-dir"), (SC_GROUP, "deprecated-lxc-config-path"),
      (SC_GROUP, "service-manifest-dir"), (SC_GROUP, "default-service-manifest-dir")],
      typeMap network key = some .string := by
  simp only [List.forall_mem_cons, List.not_mem_nil, false_implies, implies_true, and_true]
  cases network <;> exact ⟨rfl, rfl, rfl, rfl⟩

theorem typeMap_of_integer :
    typeMap network (SC_GROUP, "shutdown-timeout") = some .integer := by
  cases network <;> rfl

theorem typeMap_of_boolean :
    typeMap network (SC_GROUP, "use-session-bus") = some .boolean := by
  cases network <;> rfl

def cmdlineConfigs (options : CommandlineOptions) : KindedSource (typeMap network) where
  toConfigSource := commandlineConfigSource options.stringConfigs options.intConfigs
    options.boolConfigs
  kind := .commandline
  strings := by
    refine itemsOf_setSource _ ?_ ?_
    · refine ofType_of_forall_mem network ?_ (typeMap_of_string network)
      unfold CommandlineOptions.stringConfigs
      split <;> split <;> simp
    · unfold CommandlineOptions.stringConfigs
      split <;> split <;> simp
  ints := by
    refine itemsOf_setSource _ ?_ ?_
    · unfold CommandlineOptions.intConfigs
      split <;> simp [typeMap_of_integer]
    · unfold CommandlineOptions.intConfigs
      split <;> simp
  bools := by
    refine itemsOf_setSource _ ?_ ?_
    · unfold CommandlineOptions.boolConfigs
      split <;> simp [typeMap_of_boolean]
    · unfold CommandlineOptions.boolConfigs
      split <;> simp

def defaultConfigs (settings : BuildSettings) : KindedSource (typeMap network) where
  toConfigSource := defaultConfigSource settings
  kind := .default
  strings := by
    refine itemsOf_setSource _ ?_ ?_
    · exact ofType_of_forall_mem network (by simp) (typeMap_of_string network)
    · simp
  ints := itemsOf_setSource _ (by simp [typeMap_of_integer]) (by simp)
  bools := itemsOf_setSource _ (by simp [typeMap_of_boolean]) (by simp)

end

namespace MainConfigSource

structure ReadItems {α : Type} (typeMapping : TypeMap) (type : ConfigType)
    (later : List UniqueKey) (items : List (ConfigItem α)) : Prop
    extends ItemsOf typeMapping .main type items where
  isNew : ∀ item ∈ items, item.uniqueKey ∉ later

structure Reads (typeMapping : TypeMap) (later : List UniqueKey) (source : ConfigSource) :
    Prop where
  strings : ReadItems typeMapping .string later source.stringConfigs
  ints : ReadItems typeMapping .integer later source.intConfigs
  bools : ReadItems typeMapping .boolean later source.boolConfigs

section
variable {α : Type} {typeMapping : TypeMap} {type : ConfigType} {key : UniqueKey}
  {later : List UniqueKey} {items : List (ConfigItem α)}

theorem ReadItems.skip (read : ReadItems typeMapping type (key :: later) items) :
    ReadItems typeMapping type later items where
  toItemsOf := read.toItemsOf
  isNew item member isLater := read.isNew item member (List.mem_cons_of_mem _ isLater)

theorem ReadItems.append (read : ReadItems typeMapping type (key :: later) items)
    (once : key ∉ later) (ofType : typeMapping key = some type) (value : α) :
    ReadItems typeMapping type later (items ++ [.setSource .main (key, value)]) where
  ofKind item member := by
    rcases List.mem_append.mp member with before | last
    · exact read.ofKind item before
    · rw [List.mem_singleton.mp last]
      rfl
  ofType item member := by
    rcases List.mem_append.mp member with before | last
    · exact read.ofType item before
    · rw [List.mem_singleton.mp last]
      exact ofType
  single := by
    rw [List.map_append]
    refine List.Nodup.append read.single (List.nodup_singleton _) ?_
    rintro other before last
    obtain ⟨item, member, rfl⟩ := List.mem_map.mp before
    rw [List.map_singleton, List.mem_singleton] at last
    exact read.isNew item member (last ▸ List.mem_cons_self)
  isNew item member := by
    rcases List.mem_append.mp member with before | last
    · exact read.skip.isNew item before
    · rw [List.mem_singleton.mp last]
      exact once

end

theorem reads_create {typeMapping : TypeMap} {config : KeyFile} {key : UniqueKey}
    {later : List UniqueKey} {self after : ConfigSource} {type : ConfigType}
    (reads : Reads typeMapping (key :: later) self) (once : key ∉ later)
    (ofType : typeMapping key = some type)
    (created : create config key self type = .ok after) : Reads typeMapping later after := by
  cases type with
  | string =>
      rw [create] at created
      cases read : getGlibValue "string" (config.getString key.1 key.2) with
      | error error =>
          rw [read] at created
          cases created
      | ok value =>
          rw [read] at created
          cases created
          exact ⟨reads.strings.append once ofType value, reads.ints.skip, reads.bools.skip⟩
  | integer =>
      rw [create] at created
      cases read : getGlibValue "integer" (config.getInteger key.1 key.2) with
      | error error =>
          rw [read] at created
          cases created
      | ok value =>
          rw [read] at created
          cases created
          exact ⟨reads.strings.skip, reads.ints.append once ofType value, reads.bools.skip⟩
  | boolean =>
      rw [create] at created
      cases read : getGlibValue "boolean" (config.getBoolean key.1 key.2) with
      | error error =>
          rw [read] at created
          cases created
      | ok value =>
          rw [read] at created
          cases created
          exact ⟨reads.strings.skip, reads.ints.skip, reads.bools.append once ofType value⟩

theorem reads_createConfigItems {typeMapping : TypeMap} {config : KeyFile}
    {keys : List UniqueKey} (distinct : keys.Nodup) {self after : ConfigSource}
    (reads : Reads typeMapping keys self)
    (created : createConfigItems config typeMapping keys self = .ok after) :
    Reads typeMapping [] after := by
  induction keys generalizing self with
  | nil =>
      cases created
      exact reads
  | cons key rest ih =>
      obtain ⟨once, distinct⟩ := List.nodup_cons.mp distinct
      rw [createConfigItems, typeOf] at created
      cases ofType : typeMapping key with
      | none =>
          rw [ofType] at created
          cases created
      | some type =>
          rw [ofType] at created
          cases middle : create config key self type with
          | error error =>
              change (create config key self type >>= _) = _ at created
              rw [middle] at created
              cases created
          | ok between =>
              change (create config key self type >>= _) = _ at created
              rw [middle] at created
              exact ih distinct (reads_create reads once ofType middle) created

theorem nodup_configsByGroup (config : KeyFile) : (configsByGroup config).Nodup := by
  rw [configsByGroup, List.nodup_flatMap]
  constructor
  · intro group _
    exact (config.distinctKeys group).map fun first second same => (Prod.mk.inj same).2
  · have distinct : (config.groups.mergeSort fun first second => first ≤ second).Nodup :=
      (List.mergeSort_perm _ _).nodup_iff.mpr config.distinctGroups
    refine distinct.imp fun different => ?_
    intro key isFirst isSecond
    obtain ⟨_, _, rfl⟩ := List.mem_map.mp isFirst
    obtain ⟨_, _, same⟩ := List.mem_map.mp isSecond
    exact different (Prod.mk.inj same).1.symm

theorem reads_construct {typeMapping : TypeMap} {loaded : Option KeyFile} {self : ConfigSource}
    (constructed : construct loaded typeMapping = .ok self) : Reads typeMapping [] self := by
  cases loaded with
  | none => cases constructed
  | some config =>
      rw [construct] at constructed
      refine reads_createConfigItems (nodup_configsByGroup config) ?_ constructed
      have nothing : ∀ {α : Type} {type : ConfigType}, ReadItems (α := α) typeMapping type
          (configsByGroup config) [] :=
        { ofKind := by simp, ofType := by simp, single := by simp, isNew := by simp }
      exact ⟨nothing, nothing, nothing⟩

end MainConfigSource

def mainConfigs {typeMapping : TypeMap} {loaded : Option KeyFile} {source : ConfigSource}
    (constructed : MainConfigSource.construct loaded typeMapping = .ok source) :
    KindedSource typeMapping where
  toConfigSource := source
  kind := .main
  strings := (MainConfigSource.reads_construct constructed).strings.toItemsOf
  ints := (MainConfigSource.reads_construct constructed).ints.toItemsOf
  bools := (MainConfigSource.reads_construct constructed).bools.toItemsOf

/-- The agent's configuration prefers its command line to its config file, and that to the
defaults, and answers for every key that is mandatory. -/
theorem agentConfig_prioritizes {network : Option ConfigDefinition.NetworkFlags}
    {settings : BuildSettings} {options : CommandlineOptions} {loaded : Option KeyFile}
    {config : Config} (constructed : agentConfig network settings options loaded = .ok config) :
    ∃ source, ∃ isMain : MainConfigSource.construct loaded (ConfigDefinition.typeMap network) =
        .ok source,
      config.Prioritizes [cmdlineConfigs network options, mainConfigs isMain,
        defaultConfigs network settings] ∧
      ∀ key ∈ ConfigDefinition.mandatory network,
        config.Answers (ConfigDefinition.typeMap network) key := by
  obtain ⟨source, isMain, constructed⟩ : ∃ source,
      MainConfigSource.construct loaded (ConfigDefinition.typeMap network) = .ok source ∧
      Config.construct [(cmdlineConfigs network options).toConfigSource, source,
        (defaultConfigs network settings).toConfigSource]
        (ConfigDefinition.mandatory network) [] = .ok config := by
    rw [agentConfig] at constructed
    cases read : MainConfigSource.construct loaded (ConfigDefinition.typeMap network) with
    | error error =>
        rw [read] at constructed
        cases constructed
    | ok source =>
        rw [read] at constructed
        exact ⟨source, rfl, constructed⟩
  have distinct : ([cmdlineConfigs network options, mainConfigs isMain,
      defaultConfigs network settings].map KindedSource.kind).Nodup := by
    simp [cmdlineConfigs, mainConfigs, defaultConfigs]
  obtain ⟨_, present, rfl⟩ := Config.construct_eq_ok_iff.mp
    (show Config.construct ([cmdlineConfigs network options, mainConfigs isMain,
      defaultConfigs network settings].map KindedSource.toConfigSource) _ _ = _ from constructed)
  exact ⟨source, isMain, Config.prioritizes_gathered distinct,
    fun key member => Config.answers_of_isPresent distinct (present key member)⟩

end SoftwareContainers
