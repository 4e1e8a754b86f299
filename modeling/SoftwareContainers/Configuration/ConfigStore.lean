import SoftwareContainers.Configuration.Ownership

namespace SoftwareContainers

open Effect

/-! `class BaseConfigStore`, which keeps the capabilities of the service manifests, and
what its two subclasses hand out. -/

inductive StoreFault where
  | capabilityParseError (message : String)
  | undefined
  deriving DecidableEq, Repr

structure ConfigStore where
  capMap : Std.ExtTreeMap String GatewayConfig

namespace ConfigStore

def empty : ConfigStore := ⟨∅⟩

def onHeap {α : Type} : Option α → Except StoreFault α
  | none => .error .undefined
  | some result => .ok result

def parseGateway (gateway : Json) : Except StoreFault (String × List Json) :=
  if !gateway.isObject then
    .error (.capabilityParseError "A \"gateway\" in the Service Manifest is not a json object")
  else
    match JSONParser.readString gateway "id" with
    | none =>
        .error (.capabilityParseError
          "Could not read the ID of the \"gateway\" object in the Service Manifest")
    | some gwID =>
        match gateway.objectGet "config" with
        | none =>
            .error (.capabilityParseError
              ("Could not read the \"gateway\" object's configuration element (" ++
                gwID ++ ")"))
        | some (.array confs) => .ok (gwID, confs)
        | some _ =>
            .error (.capabilityParseError
              ("The \"gateway\" object's configuration is not an array (" ++ gwID ++ ")"))

/-- The loop of `parseGatewayConfigs`; the array appended is the manifest's. -/
def parseGateways : List Json → GatewayConfig → JsonHeap →
    Except StoreFault (GatewayConfig × JsonHeap)
  | [], gwConf, heap => .ok (gwConf, heap)
  | gateway :: rest, gwConf, heap => do
      let (gwID, confs) ← parseGateway gateway
      let (array, heap) := heap.allocate confs
      let (gwConf, heap) ← onHeap (GatewayConfig.append gwID array gwConf heap)
      parseGateways rest gwConf heap

/-- `m_capMap[capName] = gwConf`, after which the local configuration is destroyed. -/
def store (capName : String) (gwConf : GatewayConfig) (self : ConfigStore)
    (heap : JsonHeap) : Option (ConfigStore × JsonHeap) := do
  let (stored, heap) ← GatewayConfig.assign gwConf heap
  let heap ← gwConf.destructor heap
  return (⟨self.capMap.insert capName stored⟩, heap)

def parseGatewayConfigs (capName : String) (gateways : List Json) (self : ConfigStore)
    (heap : JsonHeap) : Except StoreFault (ConfigStore × JsonHeap) := do
  if self.capMap.contains capName then
    return (self, heap)
  else
    let (gwConf, heap) ← parseGateways gateways .new heap
    onHeap (store capName gwConf self heap)

def parseCapability (capability : Json) : Except StoreFault (String × List Json) :=
  if !capability.isObject then
    .error (.capabilityParseError
      "A \"capability\" in the Service Manifest is not a json object")
  else
    match JSONParser.readString capability "name" with
    | none =>
        .error (.capabilityParseError "Could not read the name of the \"capability\" object")
    | some capName =>
        match capability.objectGet "gateways" with
        | none =>
            .error (.capabilityParseError
              ("Could not read the \"gateway\" objects in \"" ++ capName ++ "\""))
        | some (.array gateways) => .ok (capName, gateways)
        | some _ => .error (.capabilityParseError "The \"gateway\" object is not an array")

def parseCapabilities : List Json → ConfigStore → JsonHeap →
    Except StoreFault (ConfigStore × JsonHeap)
  | [], self, heap => .ok (self, heap)
  | capability :: rest, self, heap => do
      let (capName, gateways) ← parseCapability capability
      let (self, heap) ← parseGatewayConfigs capName gateways self heap
      parseCapabilities rest self heap

def capabilitiesOf (serviceManifest : Json) : Except StoreFault (List Json) :=
  match serviceManifest.objectGet "capabilities" with
  | none => .error (.capabilityParseError "Could not parse the \"capability\" object")
  | some (.array capabilities) => .ok capabilities
  | some _ =>
      .error (.capabilityParseError "The \"capability\" key does not point to an array")

def parseServiceManifests : List Json → ConfigStore → JsonHeap →
    Except StoreFault (ConfigStore × JsonHeap)
  | [], self, heap => .ok (self, heap)
  | serviceManifest :: rest, self, heap => do
      let capabilities ← capabilitiesOf serviceManifest
      let (self, heap) ← parseCapabilities capabilities self heap
      parseServiceManifests rest self heap

/-- The constructor, with what the loader has loaded. -/
def load (content : List Json) (heap : JsonHeap) :
    Except StoreFault (ConfigStore × JsonHeap) :=
  parseServiceManifests content empty heap

/-! `class DefaultConfigStore` and `class FilteredConfigStore`. -/

def appendCapabilities : List (String × GatewayConfig) → GatewayConfig → JsonHeap →
    Option (GatewayConfig × JsonHeap)
  | [], conf, heap => some (conf, heap)
  | cap :: rest, conf, heap => do
      let (conf, heap) ← GatewayConfig.appendAll cap.2 conf heap
      appendCapabilities rest conf heap

def configs (self : ConfigStore) (heap : JsonHeap) : Option (GatewayConfig × JsonHeap) :=
  appendCapabilities self.capMap.toList .new heap

def IDs (self : ConfigStore) : List String := self.capMap.keys

def configByID (self : ConfigStore) (capID : String) (heap : JsonHeap) :
    Option (GatewayConfig × JsonHeap) :=
  match self.capMap[capID]? with
  | none => some (.new, heap)
  | some config => GatewayConfig.copy config heap

/-- The configuration of each capability is destroyed when it has been appended. -/
def appendByID (self : ConfigStore) : List String → GatewayConfig → JsonHeap →
    Option (GatewayConfig × JsonHeap)
  | [], conf, heap => some (conf, heap)
  | id :: rest, conf, heap => do
      let (config, heap) ← self.configByID id heap
      let (conf, heap) ← GatewayConfig.appendAll config conf heap
      let heap ← config.destructor heap
      self.appendByID rest conf heap

def configsByID (self : ConfigStore) (capIDs : List String) (heap : JsonHeap) :
    Option (GatewayConfig × JsonHeap) :=
  self.appendByID capIDs .new heap

/-! What a store stands for, and what it hands out. -/

def Live (self : ConfigStore) (heap : JsonHeap) : Prop :=
  ∀ (name : String) (config : GatewayConfig), self.capMap[name]? = some config →
    config.Live heap

def value (self : ConfigStore) (heap : JsonHeap) : Std.ExtTreeMap String PlainConfig :=
  self.capMap.map fun _ config => config.value heap

def allConfigs (capabilities : Std.ExtTreeMap String PlainConfig) : PlainConfig :=
  capabilities.toList.foldl (fun plain cap => plain.appendAll cap.2) ∅

def listedConfigs (capabilities : Std.ExtTreeMap String PlainConfig)
    (capIDs : List String) : PlainConfig :=
  capIDs.foldl (fun plain id => plain.appendAll (capabilities.getD id ∅)) ∅

/-- The arrays made before the first `base` ones were are as they were. -/
def KeepsBelow (base : Nat) (heap after : JsonHeap) : Prop :=
  ∀ address, address < base → after.cells address = heap.cells address

section

open GatewayConfig

variable {base : Nat} {conf : GatewayConfig} {heap : JsonHeap}

theorem keepsBelow_of_keeps (owned : Owned base conf heap) (isBase : base ≤ heap.next)
    {after : JsonHeap} (keeps : conf.Keeps heap after) : KeepsBelow base heap after := by
  intro address below
  refine keeps.2 address (Nat.lt_of_lt_of_le below isBase) fun id holds => ?_
  have := (owned.owned id address holds).1
  omega

theorem appendCapabilities_owned {caps : List (String × GatewayConfig)}
    (owned : Owned base conf heap) (isBase : base ≤ heap.next)
    (live : ∀ cap ∈ caps, cap.2.Live heap)
    (below : ∀ cap ∈ caps, ∀ id address, cap.2.Holds id address → address < base) :
    ∃ confAfter after, appendCapabilities caps conf heap = some (confAfter, after) ∧
      Owned base confAfter after ∧ base ≤ after.next ∧ KeepsBelow base heap after ∧
      confAfter.value after =
        caps.foldl (fun plain cap => plain.appendAll (cap.2.value heap))
          (conf.value heap) := by
  induction caps generalizing conf heap with
  | nil => exact ⟨conf, heap, rfl, owned, isBase, fun _ _ => rfl, rfl⟩
  | cons cap rest ih =>
      obtain ⟨middle, between, appended, ownedMiddle, keeps, _, value⟩ :=
        appendAll_owned owned isBase (live cap (.head _)) fun id address holds other held => by
          have := below cap (.head _) id address holds
          have := (owned.owned other address held).1
          omega
      have keptBelow := keepsBelow_of_keeps owned isBase keeps
      have kept : ∀ later ∈ rest, ∀ id address, later.2.Holds id address →
          between.cells address = heap.cells address :=
        fun later member id address holds =>
          keptBelow address (below later (.tail _ member) id address holds)
      obtain ⟨confAfter, after, ended, ownedAfter, isBaseAfter, keepsAfter, valueAfter⟩ :=
        ih ownedMiddle (Nat.le_trans isBase keeps.1)
          (fun later member => (live later (.tail _ member)).of_kept (kept later member))
          fun later member => below later (.tail _ member)
      refine ⟨confAfter, after, ?_, ownedAfter, isBaseAfter, ?_, ?_⟩
      · rw [appendCapabilities, appended]
        exact ended
      · intro address isBelow
        rw [keepsAfter address isBelow, keptBelow address isBelow]
      · rw [valueAfter, value, List.foldl_cons]
        exact List.foldl_ext _ _ _ fun plain later member => by
          rw [GatewayConfig.value_of_kept (kept later member)]

theorem live_of_kept {self : ConfigStore} {after : JsonHeap} (live : self.Live heap)
    (kept : ∀ (name : String) (config : GatewayConfig), self.capMap[name]? = some config →
      ∀ id address, config.Holds id address → after.cells address = heap.cells address) :
    self.Live after :=
  fun name config isConfig => (live name config isConfig).of_kept (kept name config isConfig)

theorem value_of_kept {self : ConfigStore} {after : JsonHeap}
    (kept : ∀ (name : String) (config : GatewayConfig), self.capMap[name]? = some config →
      ∀ id address, config.Holds id address → after.cells address = heap.cells address) :
    self.value after = self.value heap := by
  apply Std.ExtTreeMap.ext_getElem?
  intro name
  rw [value, value, Std.ExtTreeMap.getElem?_map, Std.ExtTreeMap.getElem?_map]
  cases isConfig : self.capMap[name]? with
  | none => rfl
  | some config =>
      exact congrArg some (GatewayConfig.value_of_kept (kept name config isConfig))

theorem configByID_owned {self : ConfigStore} (live : self.Live heap) (capID : String) :
    ∃ config after, self.configByID capID heap = some (config, after) ∧
      Owned heap.next config after ∧ heap.next ≤ after.next ∧
      KeepsBelow heap.next heap after ∧
      config.value after = (self.value heap).getD capID ∅ := by
  rw [configByID, Std.ExtTreeMap.getD_eq_getD_getElem?, value, Std.ExtTreeMap.getElem?_map]
  cases found : self.capMap[capID]? with
  | none =>
      exact ⟨.new, heap, rfl, owned_new _ _, Nat.le_refl _, fun _ _ => rfl, value_new heap⟩
  | some config => exact copy_owned (live capID config found)

theorem appendByID_owned {self : ConfigStore} {capIDs : List String}
    (owned : Owned base conf heap) (isBase : base ≤ heap.next) (live : self.Live heap)
    (below : ∀ (name : String) (config : GatewayConfig), self.capMap[name]? = some config →
      ∀ id address, config.Holds id address → address < base) :
    ∃ confAfter after, self.appendByID capIDs conf heap = some (confAfter, after) ∧
      Owned base confAfter after ∧ base ≤ after.next ∧ KeepsBelow base heap after ∧
      confAfter.value after =
        capIDs.foldl (fun plain id => plain.appendAll ((self.value heap).getD id ∅))
          (conf.value heap) := by
  induction capIDs generalizing conf heap with
  | nil => exact ⟨conf, heap, rfl, owned, isBase, fun _ _ => rfl, rfl⟩
  | cons id rest ih =>
      obtain ⟨config, first, handed, ownedConfig, nextFirst, keptFirst, valueConfig⟩ :=
        configByID_owned live id
      have confKept : ∀ id address, conf.Holds id address →
          first.cells address = heap.cells address :=
        fun id address holds => keptFirst address (owned.live.below holds)
      have ownedFirst : Owned base conf first := owned.of_kept confKept
      obtain ⟨middle, second, appended, ownedMiddle, keeps, origin, valueMiddle⟩ :=
        appendAll_owned ownedFirst (Nat.le_trans isBase nextFirst) ownedConfig.live
          fun id address holds other held => by
            have := (ownedConfig.owned id address holds).1
            have := owned.live.below held
            omega
      -- The copy is not part of what it has been appended to.
      have apart : ∀ id address, config.Holds id address → ∀ other,
          ¬ conf.Holds other address := by
        intro id address holds other held
        have := (ownedConfig.owned id address holds).1
        have := owned.live.below held
        omega
      have apartMiddle : ∀ id address, middle.Holds id address → ∀ other,
          ¬ config.Holds other address := by
        intro id address holds other held
        rcases origin id address holds with before | fresh
        · exact apart other address held id before
        · have := ownedConfig.live.below held
          omega
      have configKept : ∀ id address, config.Holds id address →
          second.cells address = first.cells address := fun id address holds =>
        keeps.2 address (ownedConfig.live.below holds) (apart id address holds)
      have ownedSecond : Owned heap.next config second := ownedConfig.of_kept configKept
      obtain ⟨third, destroyed, keepsThird⟩ := destructor_owned ownedSecond
      have middleKept : ∀ id address, middle.Holds id address →
          third.cells address = second.cells address := fun id address holds =>
        keepsThird.2 address (ownedMiddle.live.below holds) (apartMiddle id address holds)
      have ownedThird : Owned base middle third := ownedMiddle.of_kept middleKept
      have keptBelow : KeepsBelow base heap third := by
        intro address isBelow
        have secondKept := keepsBelow_of_keeps ownedFirst (Nat.le_trans isBase nextFirst) keeps
        rw [keepsThird.2 address (by have := keeps.1; omega), secondKept address isBelow,
          keptFirst address (by omega)]
        intro other held
        have := (ownedConfig.owned other address held).1
        omega
      have storeKept : ∀ (name : String) (config : GatewayConfig),
          self.capMap[name]? = some config → ∀ id address, config.Holds id address →
          third.cells address = heap.cells address :=
        fun name config isConfig id address holds =>
          keptBelow address (below name config isConfig id address holds)
      have sameValue : self.value third = self.value heap := value_of_kept storeKept
      have isBaseThird : base ≤ third.next := by
        have := keeps.1
        have := keepsThird.1
        omega
      obtain ⟨confAfter, after, ended, ownedAfter, isBaseAfter, keepsAfter, valueAfter⟩ :=
        ih ownedThird isBaseThird (live_of_kept live storeKept)
      refine ⟨confAfter, after, ?_, ownedAfter, isBaseAfter, ?_, ?_⟩
      · rw [appendByID, handed]
        simp only [Option.bind_eq_bind, Option.bind_some, appended, destroyed, ended]
      · intro address isBelow
        rw [keepsAfter address isBelow, keptBelow address isBelow]
      · rw [valueAfter, sameValue, List.foldl_cons,
          GatewayConfig.value_of_kept middleKept, valueMiddle, valueConfig,
          GatewayConfig.value_of_kept confKept]

end

end ConfigStore

end SoftwareContainers
