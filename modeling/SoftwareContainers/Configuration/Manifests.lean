import SoftwareContainers.Configuration.ConfigStore

namespace SoftwareContainers

open Effect

/-! What a store keeps of the service manifests it is loaded with. -/

namespace ConfigStore

abbrev Capability := String × List (String × List Json)

def readCapability (capability : Json) : Except StoreFault Capability := do
  let (capName, gateways) ← parseCapability capability
  return (capName, ← gateways.mapM parseGateway)

def readManifest (serviceManifest : Json) : Except StoreFault (List Capability) := do
  (← capabilitiesOf serviceManifest).mapM readCapability

/-- All capabilities in the order they are loaded, when everything is well formed. -/
def readManifests (content : List Json) : Except StoreFault (List Capability) := do
  return (← content.mapM readManifest).flatten

def merged (gateways : List (String × List Json)) : PlainConfig :=
  gateways.foldl (fun plain gateway => plain.append gateway.1 gateway.2) ∅

def addCapability (capabilities : Std.ExtTreeMap String PlainConfig)
    (capability : Capability) : Std.ExtTreeMap String PlainConfig :=
  if capabilities.contains capability.1 then capabilities
  else capabilities.insert capability.1 (merged capability.2)

section

open GatewayConfig

variable {base : Nat} {heap : JsonHeap}

theorem except_bind_eq_ok {ε α β : Type} {first : Except ε α} {next : α → Except ε β}
    {result : β} (ended : (first >>= next) = .ok result) :
    ∃ middle, first = .ok middle ∧ next middle = .ok result := by
  cases first with
  | error error => cases ended
  | ok middle => exact ⟨middle, rfl, ended⟩

theorem mapM_cons_eq_ok {ε α β : Type} {change : α → Except ε β} {item : α} {rest : List α}
    {results : List β} (ended : (item :: rest).mapM change = .ok results) :
    ∃ first later, change item = .ok first ∧ rest.mapM change = .ok later ∧
      results = first :: later := by
  rw [List.mapM_cons] at ended
  obtain ⟨first, isFirst, ended⟩ := except_bind_eq_ok ended
  obtain ⟨later, isLater, ended⟩ := except_bind_eq_ok ended
  cases ended
  exact ⟨first, later, isFirst, isLater, rfl⟩

theorem append_allocated_owned {gwConf : GatewayConfig} (owned : Owned base gwConf heap)
    (isBase : base ≤ heap.next) (id : String) (confs : List Json) :
    ∃ confAfter after,
      append id heap.next gwConf (heap.allocate confs).2 = some (confAfter, after) ∧
      Owned base confAfter after ∧ base ≤ after.next ∧ KeepsBelow base heap after ∧
      confAfter.value after = (gwConf.value heap).append id confs := by
  have allocated : ∀ address, address < heap.next →
      (heap.allocate confs).2.cells address = heap.cells address :=
    fun _ below => Heap.cells_allocate_of_lt heap confs below
  have confKept : ∀ other address, gwConf.Holds other address →
      (heap.allocate confs).2.cells address = heap.cells address :=
    fun other address holds => allocated address (owned.live.below holds)
  have isArray := Heap.cells_allocate_self heap confs
  have isBaseFirst : base ≤ (heap.allocate confs).2.next := by
    rw [Heap.allocate_next]
    omega
  obtain ⟨confAfter, after, appended, ownedAfter, keeps, value⟩ :=
    append_owned (owned.of_kept confKept) isBaseFirst isArray fun other holds => by
      have := owned.live.below holds
      omega
  refine ⟨confAfter, after, appended, ownedAfter, Nat.le_trans isBaseFirst keeps.1, ?_, ?_⟩
  · intro address isBelow
    rw [keepsBelow_of_keeps (owned.of_kept confKept) isBaseFirst keeps address isBelow,
      allocated address (by omega)]
  · rw [value, GatewayConfig.value_of_kept confKept]

theorem parseGateways_owned {gateways : List Json} {items : List (String × List Json)}
    (read : gateways.mapM parseGateway = .ok items) {gwConf : GatewayConfig}
    (owned : Owned base gwConf heap) (isBase : base ≤ heap.next) :
    ∃ confAfter after, parseGateways gateways gwConf heap = .ok (confAfter, after) ∧
      Owned base confAfter after ∧ base ≤ after.next ∧ KeepsBelow base heap after ∧
      confAfter.value after =
        items.foldl (fun plain item => plain.append item.1 item.2) (gwConf.value heap) := by
  induction gateways generalizing items gwConf heap with
  | nil =>
      cases read
      exact ⟨gwConf, heap, rfl, owned, isBase, fun _ _ => rfl, rfl⟩
  | cons gateway rest ih =>
      obtain ⟨item, later, isItem, isLater, rfl⟩ := mapM_cons_eq_ok read
      obtain ⟨middle, between, appended, ownedMiddle, isBaseMiddle, keeps, value⟩ :=
        append_allocated_owned owned isBase item.1 item.2
      obtain ⟨confAfter, after, ended, ownedAfter, isBaseAfter, keepsAfter, valueAfter⟩ :=
        ih isLater ownedMiddle isBaseMiddle
      refine ⟨confAfter, after, ?_, ownedAfter, isBaseAfter, ?_, ?_⟩
      · rw [parseGateways, isItem]
        change (onHeap (append item.1 heap.next gwConf (heap.allocate item.2).2) >>= _) = _
        rw [appended]
        exact ended
      · intro address isBelow
        rw [keepsAfter address isBelow, keeps address isBelow]
      · rw [valueAfter, value, List.foldl_cons]

theorem store_eq_some {gwConf : GatewayConfig} (owned : Owned base gwConf heap)
    (capName : String) (self : ConfigStore) :
    ∃ after, store capName gwConf self heap =
        some (⟨self.capMap.insert capName gwConf⟩, after) ∧
      after.next = heap.next ∧ after.cells = heap.cells := by
  obtain ⟨shared, assigned, nextShared, cellsShared⟩ := assign_eq_some owned.live
  have sharedLive : gwConf.Live shared := by
    refine ⟨fun id address holds => ?_, owned.live.injective⟩
    obtain ⟨_, elements, found⟩ := owned.owned id address holds
    rw [cellsShared, if_pos (mem_addresses.mpr ⟨id, holds⟩), found]
    exact ⟨_, rfl⟩
  obtain ⟨after, destroyed, nextAfter, cellsAfter⟩ := destructor_eq_some sharedLive
  refine ⟨after, ?_, nextAfter.trans nextShared, funext fun address => ?_⟩
  · simp only [store, assigned, destroyed, Option.bind_eq_bind, Option.bind_some]
    rfl
  · rw [cellsAfter, cellsShared]
    split
    · next held =>
        obtain ⟨id, holds⟩ := mem_addresses.mp held
        obtain ⟨_, elements, found⟩ := owned.owned id address holds
        rw [found]
        rfl
    · rfl

/-- What is stored is as before, with the new capability if its name is new. -/
structure Loaded (before : ConfigStore) (heap : JsonHeap) (capabilities : List Capability)
    (after : ConfigStore) (heapAfter : JsonHeap) : Prop where
  live : ConfigStore.Live after heapAfter
  next : heap.next ≤ heapAfter.next
  kept : KeepsBelow heap.next heap heapAfter
  value : after.value heapAfter = capabilities.foldl addCapability (before.value heap)

theorem Loaded.refl {before : ConfigStore} (live : before.Live heap) :
    Loaded before heap [] before heap :=
  ⟨live, Nat.le_refl _, fun _ _ => rfl, rfl⟩

theorem contains_value (self : ConfigStore) (heap : JsonHeap) (name : String) :
    (self.value heap).contains name = self.capMap.contains name :=
  Std.ExtTreeMap.contains_map

theorem value_insert {self : ConfigStore} {gwConf : GatewayConfig} {after : JsonHeap}
    (name : String) (kept : ∀ (other : String) (config : GatewayConfig),
      self.capMap[other]? = some config → config.value after = config.value heap) :
    (ConfigStore.mk (self.capMap.insert name gwConf)).value after =
      (self.value heap).insert name (gwConf.value after) := by
  apply Std.ExtTreeMap.ext_getElem?
  intro other
  rw [value, value, Std.ExtTreeMap.getElem?_map, getElem?_insert, getElem?_insert,
    Std.ExtTreeMap.getElem?_map]
  split
  · rfl
  · cases found : self.capMap[other]? with
    | none => rfl
    | some config => exact congrArg some (kept other config found)

theorem parseGatewayConfigs_loaded {self : ConfigStore} (live : self.Live heap)
    (capName : String) {gateways : List Json} {items : List (String × List Json)}
    (read : gateways.mapM parseGateway = .ok items) :
    ∃ selfAfter after, parseGatewayConfigs capName gateways self heap =
        .ok (selfAfter, after) ∧
      Loaded self heap [(capName, items)] selfAfter after := by
  rw [parseGatewayConfigs]
  by_cases known : self.capMap.contains capName = true
  · rw [if_pos known]
    refine ⟨self, heap, rfl, live, Nat.le_refl _, fun _ _ => rfl, ?_⟩
    rw [List.foldl_cons, List.foldl_nil, addCapability, contains_value, if_pos known]
  · rw [if_neg known]
    obtain ⟨gwConf, middle, parsed, owned, nextMiddle, kept, value⟩ :=
      parseGateways_owned read (owned_new heap.next heap) (Nat.le_refl _)
    obtain ⟨after, stored, nextAfter, cells⟩ := store_eq_some owned capName self
    have oldKept : ∀ (other : String) (config : GatewayConfig),
        self.capMap[other]? = some config → ∀ id address, config.Holds id address →
        after.cells address = heap.cells address := by
      intro other config found id address holds
      rw [cells, kept address ((live other config found).below holds)]
    refine ⟨⟨self.capMap.insert capName gwConf⟩, after, ?_, ?_,
      nextAfter ▸ nextMiddle, fun address below => ?_, ?_⟩
    · rw [parsed]
      change onHeap (store capName gwConf self middle) = _
      rw [stored]
      rfl
    · intro name config found
      rw [getElem?_insert] at found
      split at found
      · cases found
        exact owned.live.of_kept fun id address _ => congrFun cells address
      · exact (live name config found).of_kept (oldKept name config found)
    · rw [cells, kept address below]
    · rw [value_insert capName fun other config found =>
          GatewayConfig.value_of_kept (oldKept other config found),
        GatewayConfig.value_of_kept fun id address _ => congrFun cells address, value, value_new,
        List.foldl_cons, List.foldl_nil, addCapability, contains_value, if_neg known]
      rfl

theorem Loaded.trans {self middle selfAfter : ConfigStore} {between after : JsonHeap}
    {first rest : List Capability} (early : Loaded self heap first middle between)
    (late : Loaded middle between rest selfAfter after) :
    Loaded self heap (first ++ rest) selfAfter after where
  live := late.live
  next := Nat.le_trans early.next late.next
  kept address below := by
    rw [late.kept address (Nat.lt_of_lt_of_le below early.next), early.kept address below]
  value := by rw [late.value, early.value, List.foldl_append]

theorem parseCapabilities_loaded {self : ConfigStore} (live : self.Live heap)
    {entries : List Json} {capabilities : List Capability}
    (read : entries.mapM readCapability = .ok capabilities) :
    ∃ selfAfter after, parseCapabilities entries self heap = .ok (selfAfter, after) ∧
      Loaded self heap capabilities selfAfter after := by
  induction entries generalizing capabilities self heap with
  | nil =>
      cases read
      exact ⟨self, heap, rfl, .refl live⟩
  | cons entry rest ih =>
      obtain ⟨capability, later, isCapability, isLater, rfl⟩ := mapM_cons_eq_ok read
      obtain ⟨⟨capName, gateways⟩, parsed, isCapability⟩ := except_bind_eq_ok isCapability
      obtain ⟨items, isItems, isCapability⟩ := except_bind_eq_ok isCapability
      cases isCapability
      obtain ⟨middle, between, isMiddle, first⟩ :=
        parseGatewayConfigs_loaded live capName isItems
      obtain ⟨selfAfter, after, ended, second⟩ := ih first.live isLater
      refine ⟨selfAfter, after, ?_, first.trans second⟩
      rw [parseCapabilities, parsed]
      change (parseGatewayConfigs capName gateways self heap >>= _) = _
      rw [isMiddle]
      exact ended

theorem parseServiceManifests_loaded {self : ConfigStore} (live : self.Live heap)
    {content : List Json} {capabilities : List (List Capability)}
    (read : content.mapM readManifest = .ok capabilities) :
    ∃ selfAfter after, parseServiceManifests content self heap = .ok (selfAfter, after) ∧
      Loaded self heap capabilities.flatten selfAfter after := by
  induction content generalizing capabilities self heap with
  | nil =>
      cases read
      exact ⟨self, heap, rfl, .refl live⟩
  | cons serviceManifest rest ih =>
      obtain ⟨own, later, isOwn, isLater, rfl⟩ := mapM_cons_eq_ok read
      obtain ⟨entries, isEntries, isOwn⟩ := except_bind_eq_ok isOwn
      obtain ⟨middle, between, isMiddle, first⟩ := parseCapabilities_loaded live isOwn
      obtain ⟨selfAfter, after, ended, second⟩ := ih first.live isLater
      refine ⟨selfAfter, after, ?_, first.trans second⟩
      rw [parseServiceManifests, isEntries]
      change (parseCapabilities entries self heap >>= _) = _
      rw [isMiddle]
      exact ended

theorem live_empty (heap : JsonHeap) : empty.Live heap :=
  fun name config found => by simp [empty] at found

/-- Well formed manifests are loaded, and only the first capability of a name is kept. -/
theorem load_loaded {content : List Json} {capabilities : List Capability}
    (read : readManifests content = .ok capabilities) (heap : JsonHeap) :
    ∃ self after, load content heap = .ok (self, after) ∧ self.Live after ∧
      self.value after = capabilities.foldl addCapability ∅ := by
  obtain ⟨lists, isLists, flattened⟩ := except_bind_eq_ok read
  cases flattened
  obtain ⟨self, after, ended, loaded⟩ :=
    parseServiceManifests_loaded (live_empty heap) isLists
  have nothing : empty.value heap = ∅ := by
    apply Std.ExtTreeMap.ext_getElem?
    intro name
    rw [value, Std.ExtTreeMap.getElem?_map]
    simp [empty]
  refine ⟨self, after, ended, loaded.live, ?_⟩
  rw [loaded.value, nothing]

/-! Whatever is loaded, the arrays of the store are on the heap. -/

theorem read_of_parseGateways {gateways : List Json} {gwConf : GatewayConfig}
    {result : GatewayConfig × JsonHeap}
    (parsed : parseGateways gateways gwConf heap = .ok result) :
    ∃ items, gateways.mapM parseGateway = .ok items := by
  induction gateways generalizing gwConf heap with
  | nil => exact ⟨[], rfl⟩
  | cons gateway rest ih =>
      rw [parseGateways] at parsed
      obtain ⟨item, isItem, parsed⟩ := except_bind_eq_ok parsed
      obtain ⟨_, _, parsed⟩ := except_bind_eq_ok parsed
      obtain ⟨items, isItems⟩ := ih parsed
      refine ⟨item :: items, ?_⟩
      rw [List.mapM_cons, isItem, isItems]
      rfl

theorem loaded_of_parseGatewayConfigs {self selfAfter : ConfigStore} {after : JsonHeap}
    (live : self.Live heap) {capName : String} {gateways : List Json}
    (ended : parseGatewayConfigs capName gateways self heap = .ok (selfAfter, after)) :
    ∃ capabilities, Loaded self heap capabilities selfAfter after := by
  have parsed := ended
  rw [parseGatewayConfigs] at parsed
  by_cases known : self.capMap.contains capName = true
  · rw [if_pos known] at parsed
    cases parsed
    exact ⟨[], .refl live⟩
  · rw [if_neg known] at parsed
    obtain ⟨_, isRead, _⟩ := except_bind_eq_ok parsed
    obtain ⟨items, isItems⟩ := read_of_parseGateways isRead
    obtain ⟨_, _, same, loaded⟩ := parseGatewayConfigs_loaded live capName isItems
    cases same.symm.trans ended
    exact ⟨_, loaded⟩

theorem loaded_of_parseCapabilities {entries : List Json} {self selfAfter : ConfigStore}
    {after : JsonHeap} (live : self.Live heap)
    (ended : parseCapabilities entries self heap = .ok (selfAfter, after)) :
    ∃ capabilities, Loaded self heap capabilities selfAfter after := by
  induction entries generalizing self heap with
  | nil =>
      cases ended
      exact ⟨[], .refl live⟩
  | cons entry rest ih =>
      rw [parseCapabilities] at ended
      obtain ⟨_, _, ended⟩ := except_bind_eq_ok ended
      obtain ⟨_, isMiddle, ended⟩ := except_bind_eq_ok ended
      obtain ⟨_, first⟩ := loaded_of_parseGatewayConfigs live isMiddle
      obtain ⟨_, second⟩ := ih first.live ended
      exact ⟨_, first.trans second⟩

theorem loaded_of_parseServiceManifests {content : List Json} {self selfAfter : ConfigStore}
    {after : JsonHeap} (live : self.Live heap)
    (ended : parseServiceManifests content self heap = .ok (selfAfter, after)) :
    ∃ capabilities, Loaded self heap capabilities selfAfter after := by
  induction content generalizing self heap with
  | nil =>
      cases ended
      exact ⟨[], .refl live⟩
  | cons serviceManifest rest ih =>
      rw [parseServiceManifests] at ended
      obtain ⟨_, _, ended⟩ := except_bind_eq_ok ended
      obtain ⟨_, isMiddle, ended⟩ := except_bind_eq_ok ended
      obtain ⟨_, first⟩ := loaded_of_parseCapabilities live isMiddle
      obtain ⟨_, second⟩ := ih first.live ended
      exact ⟨_, first.trans second⟩

theorem loaded_of_load {content : List Json} {self : ConfigStore} {after : JsonHeap}
    (ended : load content heap = .ok (self, after)) :
    ∃ capabilities, Loaded empty heap capabilities self after :=
  loaded_of_parseServiceManifests (live_empty heap) ended

end

/-! What is given for a capability and a gateway, and what is kept of it. -/

def givenBy (gateway : String) (capability : Capability) : List Json :=
  capability.2.flatMap fun entry => if entry.1 = gateway then entry.2 else []

def given (capabilities : List Capability) (name gateway : String) : List Json :=
  capabilities.flatMap fun capability =>
    if capability.1 = name then givenBy gateway capability else []

def stored (self : ConfigStore) (heap : JsonHeap) (name gateway : String) : List Json :=
  ((self.capMap[name]?).bind fun config => config.config gateway heap).getD []

/-- Every well formed list of manifests is loaded, and nothing of it is lost. -/
def Combines (content : List Json) (capabilities : List Capability) (heap : JsonHeap) :
    Prop :=
  readManifests content = .ok capabilities ∧
    ∃ store after, load content heap = .ok (store, after) ∧
      ∀ name gateway, store.stored after name gateway = given capabilities name gateway

/-- Of two capabilities of one name, the later has nothing but empty arrays. -/
def Repeated (first later : Capability) : Prop :=
  later.1 = first.1 → ∀ entry ∈ later.2, entry.2 = []

theorem getElem?_addCapability (capabilities : Std.ExtTreeMap String PlainConfig)
    (capability : Capability) (name : String) :
    (addCapability capabilities capability)[name]? =
      capabilities[name]?.or (if capability.1 = name then some (merged capability.2) else none) := by
  rw [addCapability]
  split
  · next known =>
      cases found : capabilities[name]? with
      | some plain => rfl
      | none =>
          rw [if_neg]
          · rfl
          · rintro rfl
            rw [Std.ExtTreeMap.contains_eq_isSome_getElem?, found] at known
            cases known
  · next unknown =>
      rw [getElem?_insert]
      split
      · next same =>
          subst same
          rw [Std.ExtTreeMap.contains_eq_isSome_getElem?, Option.not_isSome_iff_eq_none]
            at unknown
          rw [unknown]
          rfl
      · rw [Option.or_none]

/-- The first capability of the name is the one that is kept. -/
theorem getElem?_foldl_addCapability (capabilities : List Capability) (name : String)
    (before : Std.ExtTreeMap String PlainConfig) :
    (capabilities.foldl addCapability before)[name]? =
      before[name]?.or ((capabilities.find? fun capability => capability.1 = name).map
        fun capability => merged capability.2) := by
  induction capabilities generalizing before with
  | nil => rw [List.foldl_nil, List.find?_nil, Option.map_none, Option.or_none]
  | cons capability rest ih =>
      rw [List.foldl_cons, ih, getElem?_addCapability, Option.or_assoc, List.find?_cons]
      by_cases same : capability.1 = name
      · rw [if_pos same, decide_eq_true same]
        rfl
      · rw [if_neg same, decide_eq_false same, Option.none_or]

theorem getD_foldl_append (entries : List (String × List Json)) (gateway : String)
    (before : PlainConfig) :
    ((entries.foldl (fun plain entry => plain.append entry.1 entry.2) before)[gateway]?).getD
        [] =
      before[gateway]?.getD [] ++
        entries.flatMap fun entry => if entry.1 = gateway then entry.2 else [] := by
  induction entries generalizing before with
  | nil => simp
  | cons entry rest ih =>
      rw [List.foldl_cons, ih, PlainConfig.getElem?_append, List.flatMap_cons]
      by_cases same : entry.1 = gateway
      · rw [if_pos same, if_pos same, Option.getD_some, List.append_assoc]
      · rw [if_neg same, if_neg same, List.nil_append]

theorem stored_eq {store : ConfigStore} {after : JsonHeap} {capabilities : List Capability}
    (live : store.Live after)
    (value : store.value after = capabilities.foldl addCapability ∅) (name gateway : String) :
    store.stored after name gateway =
      ((capabilities.find? fun capability => capability.1 = name).map
        (givenBy gateway)).getD [] := by
  have found : (store.value after)[name]? =
      (capabilities.find? fun capability => capability.1 = name).map
        fun capability => merged capability.2 := by
    rw [value, getElem?_foldl_addCapability]
    simp
  rw [ConfigStore.value, Std.ExtTreeMap.getElem?_map] at found
  rw [stored]
  cases isFirst : capabilities.find? fun capability => capability.1 = name with
  | none =>
      rw [isFirst, Option.map_none, Option.map_eq_none_iff] at found
      rw [found]
      rfl
  | some capability =>
      rw [isFirst, Option.map_some, Option.map_eq_some_iff] at found
      obtain ⟨config, isConfig, sameValue⟩ := found
      rw [isConfig, Option.bind_some,
        GatewayConfig.config_eq_value (live name config isConfig), sameValue, merged,
        getD_foldl_append]
      simp [givenBy]

theorem given_cons (capability : Capability) (rest : List Capability)
    (name gateway : String) :
    given (capability :: rest) name gateway =
      (if capability.1 = name then givenBy gateway capability else []) ++
        given rest name gateway :=
  List.flatMap_cons

theorem given_eq_nil_iff {capabilities : List Capability} {name : String} :
    (∀ gateway, given capabilities name gateway = []) ↔
      ∀ capability ∈ capabilities, capability.1 = name →
        ∀ entry ∈ capability.2, entry.2 = [] := by
  simp only [given, givenBy, List.flatMap_eq_nil_iff]
  constructor
  · intro nothing capability member same entry isEntry
    have none := nothing entry.1 capability member
    rw [if_pos same, List.flatMap_eq_nil_iff] at none
    have empty := none entry isEntry
    rwa [if_pos rfl] at empty
  · intro nothing gateway capability member
    split
    · next same =>
        rw [List.flatMap_eq_nil_iff]
        intro entry isEntry
        split
        · exact nothing capability member same entry isEntry
        · rfl
    · rfl

/-- The first one of each name is all there is exactly when no later one gives anything. -/
theorem first_eq_given_iff (capabilities : List Capability) :
    (∀ name gateway, ((capabilities.find? fun capability => capability.1 = name).map
        (givenBy gateway)).getD [] = given capabilities name gateway) ↔
      capabilities.Pairwise Repeated := by
  induction capabilities with
  | nil => exact ⟨fun _ => .nil, fun _ _ _ => rfl⟩
  | cons first rest ih =>
      rw [List.pairwise_cons]
      constructor
      · intro kept
        have nothing : ∀ gateway, given rest first.1 gateway = [] := by
          intro gateway
          have own := kept first.1 gateway
          rw [List.find?_cons, decide_eq_true rfl, given_cons, if_pos rfl] at own
          exact List.self_eq_append_right.mp own
        have empty := given_eq_nil_iff.mp nothing
        refine ⟨fun later member same => empty later member same, ih.mp fun name gateway => ?_⟩
        by_cases same : first.1 = name
        · subst same
          rw [nothing gateway]
          cases found : rest.find? fun capability => capability.1 = first.1 with
          | none => rfl
          | some later =>
              have isName : later.1 = first.1 := by simpa using List.find?_some found
              have none := empty later (List.mem_of_find?_eq_some found) isName
              rw [Option.map_some, Option.getD_some, givenBy, List.flatMap_eq_nil_iff]
              intro entry isEntry
              rw [none entry isEntry, ite_self]
        · have other := kept name gateway
          rw [List.find?_cons, decide_eq_false same, given_cons, if_neg same,
            List.nil_append] at other
          exact other
      · rintro ⟨repeated, rest'⟩ name gateway
        rw [List.find?_cons, given_cons]
        by_cases same : first.1 = name
        · subst same
          rw [decide_eq_true rfl, if_pos rfl, given_eq_nil_iff.mpr repeated gateway,
            List.append_nil]
          rfl
        · rw [decide_eq_false same, if_neg same, List.nil_append]
          exact ih.mpr rest' name gateway

/-- A store combines the manifests it is loaded with exactly when of several capabilities
of a name all but the first are without configuration. -/
theorem manifests_combine_iff {content : List Json} {capabilities : List Capability}
    (read : readManifests content = .ok capabilities) (heap : JsonHeap) :
    Combines content capabilities heap ↔ capabilities.Pairwise Repeated := by
  obtain ⟨store, after, loaded, live, value⟩ := load_loaded read heap
  rw [← first_eq_given_iff]
  constructor
  · rintro ⟨_, other, otherAfter, isOther, combined⟩ name gateway
    cases loaded.symm.trans isOther
    rw [← stored_eq live value, combined]
  · intro combined
    refine ⟨read, store, after, loaded, fun name gateway => ?_⟩
    rw [stored_eq live value, combined]

def oneCapability (value : Json) : Json :=
  .object [("capabilities", .array [.object [("name", .string "com.example"),
    ("gateways", .array [.object [("id", .string "env"), ("config", .array [value])]])]])]

theorem manifests_combine_iff_oneCapability :
    Combines [oneCapability .null] [("com.example", [("env", [.null])])] .empty :=
  (manifests_combine_iff rfl .empty).mpr (List.pairwise_singleton _ _)

/-- Of two manifests with a capability of one name, the second is dropped. -/
theorem second_manifest_is_dropped :
    ¬ ∀ content capabilities, readManifests content = .ok capabilities →
      Combines content capabilities .empty := by
  intro combines
  obtain ⟨_, store, after, loaded, stored⟩ :=
    combines [oneCapability .null, oneCapability (.boolean true)] _ rfl
  cases loaded
  cases stored "com.example" "env"

end ConfigStore

end SoftwareContainers
