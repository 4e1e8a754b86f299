import SoftwareContainers.Agent.Pool
import SoftwareContainers.Agent.Remembered
import SoftwareContainers.Library.Addresses
import SoftwareContainers.Library.Coupling
import SoftwareContainers.Network.Subnet

namespace SoftwareContainers

open Effect Effect.Act

/-! The addresses that the containers of an agent get. -/

theorem generateIP_ok {netmask : Nat} {gatewayIP : String} {containerID : Int} {ip : Nat}
    (generated : generateIP netmask gatewayIP containerID = .ok ip) :
    ∃ bridge, inetPton gatewayIP = some bridge ∧
      ip = ((bridge + containerID + 1) % 2 ^ 32).toNat := by
  rw [generateIP] at generated
  split at generated
  · cases generated
  · split at generated
    · cases generated
    · cases parsed : inetPton gatewayIP with
      | none => simp [parsed] at generated
      | some bridge =>
          rw [parsed] at generated
          dsimp only at generated
          split at generated
          · cases generated
          · cases generated
            exact ⟨bridge, rfl, rfl⟩

namespace SoftwareContainer

open NetworkGateway (Place Gives)

/-- What the address of the container with the id is generated from. -/
def place (config : SoftwareContainerConfig) (containerID : Int) : Place :=
  ⟨(config.bridgeNetmaskBitLength % 256).toNat, config.bridgeIPAddress, containerID⟩

theorem records_gives (place : Place) (shellParseArgv : String → Option (List String)) :
    Remembered.Records (containerClass shellParseArgv)
      (Holds (fun network => network.place = place) fun _ => True) (Gives place) where
  startGateways gwConfig := (serving_startGateways Container.serves_gives network_gives
    Container.usable_gives gwConfig).anyError
  createCommandJob _ :=
    keeps_map (keeps_bind (serving_assertReady _).anyError fun _ => keeps_pure _)
  startJob job := (serving_startJob Container.serves_gives shellParseArgv job).anyError
  bindMount pathOnHost pathInContainer readonly :=
    (serving_bindMount Container.serves_gives pathOnHost pathInContainer readonly).anyError
  suspend := giving_suspend.anyError
  resume := giving_resume.anyError
  shutdown timeout := (giving_shutdown timeout).anyError

def Addressed (config : SoftwareContainerConfig) (containerID : Int)
    (whole : Remembered LibraryContainer) : Prop :=
  Holds (fun network => network.place = place config containerID) (fun _ => True) whole.1 ∧
    ∀ event ∈ whole.2, Gives (place config containerID) event

theorem addressed_construct {containerID : Int} {created config : SoftwareContainerConfig}
    (address : created.bridgeIPAddress = config.bridgeIPAddress)
    (netmask : created.bridgeNetmaskBitLength = config.bridgeNetmaskBitLength)
    {oracle : Oracle Sys} {world after : World Sys Unit} {whole : Remembered LibraryContainer}
    (constructed : (remembered (construct containerID created)).run oracle world =
      (.ok whole, after)) : Addressed config containerID whole := by
  obtain ⟨self, events⟩ := whole
  obtain ⟨ended, rfl⟩ := run_remembered_eq_ok constructed
  obtain ⟨_, _, _, gateways, _⟩ := construct_ready ended
  refine ⟨⟨fun gateway member => ?_, trivial⟩, ?_⟩
  · rw [gateways] at member
    simp only [createGateways, List.mem_cons, List.not_mem_nil, or_false] at member
    rcases member with rfl | rfl | rfl | rfl | rfl | rfl | rfl | rfl
    case inr.inl =>
      simp only [AnyGateway.Networks, NetworkGateway.place, NetworkGateway.new, place, address,
        netmask]
    all_goals trivial
  · have only := @Keeps.drop _ _ _ _ _ _ _ _
      (@gives_construct (place config containerID) _ containerID created) oracle world trivial
    rw [ended] at only
    exact only

def givenAddress (event : Event Sys) : Option Nat :=
  match event.call with
  | .child (.setIP address _) => some address
  | _ => none

/-- The addresses that jobs have given to the interface of the container. -/
def addresses (whole : Remembered LibraryContainer) : List Nat :=
  whole.2.filterMap givenAddress

theorem Addressed.generated {config : SoftwareContainerConfig} {containerID : Int}
    {whole : Remembered LibraryContainer} (addressed : Addressed config containerID whole)
    {address : Nat} (member : address ∈ addresses whole) :
    generateIP (config.bridgeNetmaskBitLength % 256).toNat config.bridgeIPAddress
      containerID = .ok address := by
  obtain ⟨⟨call, answer⟩, recorded, given⟩ := List.mem_filterMap.mp member
  have gives := addressed.2 _ recorded
  dsimp only [givenAddress] at given
  split at given
  · cases given
    exact (gives address _ rfl).1
  · cases given

end SoftwareContainer

namespace SoftwareContainerAgent

variable {κ α : Type}

/-! No method changes the configuration of the agent. -/

section

abbrev LeavesConfig (method : Method κ α) : Prop :=
  Leaves (fun self : SoftwareContainerAgent κ => self.containerConfig) method

theorem aside_containerConfig :
    Aside (fun self : SoftwareContainerAgent κ => self.containerConfig) where
  heap _ _ := rfl
  connections _ _ := rfl
  entry _ _ _ _ _ := rfl

theorem leavesConfig_forgetContainer (containerID : Int) :
    LeavesConfig (forgetContainer containerID : Method κ PUnit) :=
  leaves_bind (leaves_assertContainerExists containerID) fun _ => leaves_modify fun _ => rfl

theorem leavesConfig_findSuitableId : LeavesConfig (findSuitableId : Method κ Int) := by
  refine leaves_get_bind fun self => ?_
  dsimp only
  cases self.containerIdPool.getLast? with
  | none => exact leaves_throw _
  | some availableID =>
      exact leaves_ite (leaves_bind (leaves_modify fun _ => rfl) fun _ => leaves_pure _)
        (leaves_ite (leaves_throw _)
          (leaves_bind (leaves_modify fun _ => rfl) fun _ => leaves_pure _))

variable (cls : ContainerClass κ) (jsonLoads : String → Except String Json)

theorem leavesConfig_createContainer (config : String) :
    LeavesConfig (createContainer cls jsonLoads config) :=
  leaves_bind (leaves_zoom fun _ _ => rfl) fun _ => leaves_get_bind fun _ =>
    leaves_bind leavesConfig_findSuitableId fun _ => leaves_bind (leaves_runOn _ _) fun _ =>
      leaves_bind (leaves_get_bind fun _ => leaves_bind (leaves_modify fun _ => rfl)
        fun _ => leaves_releaseContainer cls _) fun _ => leaves_pure _

theorem leavesConfig_perform (operation : Operation) :
    LeavesConfig (perform cls jsonLoads operation) := by
  intro oracle world
  by_cases creates : ∃ config, operation = .createContainer config
  · obtain ⟨config, rfl⟩ := creates
    exact leaves_map (leavesConfig_createContainer cls jsonLoads config) oracle world
  · have kept : Preserves (fun agent => agent.containerConfig = world.state.containerConfig)
        (perform cls jsonLoads operation) :=
      aside_containerConfig.preserves_perform cls jsonLoads
        (fun _ _ holds same => same.trans holds) (fun config same => creates ⟨config, same⟩)
        fun containerID _ => (leavesConfig_forgetContainer containerID).preserves
          fun _ _ holds same => same.trans holds
    exact kept oracle world rfl

end

/-! Every id in use is one that can be asked for. -/

section

/-- The first id of the pool may be one that is never handed out. -/
structure IdsInRange (agent : SoftwareContainerAgent κ) : Prop where
  pool : ∀ id ∈ agent.containerIdPool, 0 ≤ id ∧ id ≤ INT32_MAX
  containers : ∀ id ∈ agent.containers, 0 ≤ id ∧ id < INT32_MAX

theorem IdsInRange.of_ids {self after : SoftwareContainerAgent κ} (inRange : IdsInRange self)
    (same : after.ids = self.ids) : IdsInRange after where
  pool id member := inRange.pool id (by
    have pool : after.containerIdPool = self.containerIdPool := congrArg Prod.fst same
    exact pool ▸ member)
  containers id isLive := inRange.containers id (by
    have contains := congrFun (congrArg Prod.snd same) id
    rw [Std.ExtTreeMap.mem_iff_contains] at isLive ⊢
    exact contains.symm.trans isLive)

theorem preserves_inRange_forgetContainer (containerID : Int) :
    Preserves IdsInRange (forgetContainer containerID : Method κ PUnit) := by
  intro oracle world inRange
  rcases run_forgetContainer containerID world oracle with ⟨_, failed⟩ | ⟨isLive, forgotten⟩
  · rw [failed]
    exact inRange
  · rw [forgotten]
    refine ⟨fun id member => ?_, fun id isLive => ?_⟩
    · rcases List.mem_append.mp member with member | member
      · exact inRange.pool id member
      · cases List.mem_singleton.mp member
        exact (inRange.containers _ isLive).imp_right Int.le_of_lt
    · exact inRange.containers id (Std.ExtTreeMap.mem_of_mem_erase isLive)

variable (cls : ContainerClass κ) (jsonLoads : String → Except String Json)

theorem issue_inRange {live : Int → Prop} {counter : Int} {free : List Int}
    (fresh : FreshIds live counter free) (notExhausted : ¬ Exhausted counter free)
    (inRange : ∀ id ∈ counter :: free, 0 ≤ id ∧ id ≤ INT32_MAX) :
    (0 ≤ (issue counter free).1 ∧ (issue counter free).1 < INT32_MAX) ∧
      ∀ id ∈ (issue counter free).2, 0 ≤ id ∧ id ≤ INT32_MAX := by
  obtain ⟨atLeast, atMost⟩ := inRange counter List.mem_cons_self
  cases free with
  | nil =>
      have room : counter < INT32_MAX := Int.not_le.mp fun full => notExhausted ⟨rfl, full⟩
      refine ⟨⟨atLeast, room⟩, fun id member => ?_⟩
      cases List.mem_singleton.mp member
      constructor <;> omega
  | cons next rest =>
      have isFree : (issue counter (next :: rest)).1 ∈ next :: rest := List.getLast_mem _
      have below := fresh.freeBelow _ isFree
      refine ⟨⟨(inRange _ (List.mem_cons_of_mem _ isFree)).1, by omega⟩, fun id member => ?_⟩
      rcases List.mem_cons.mp member with rfl | member
      · exact ⟨atLeast, atMost⟩
      · exact inRange id (List.mem_cons_of_mem _ (List.dropLast_subset _ member))

theorem inRange_createContainer {counter : Int} {world : World Sys (SoftwareContainerAgent κ)}
    (has : HasCounter counter world.state) (inRange : IdsInRange world.state)
    (config : String) (oracle : Oracle Sys) :
    IdsInRange ((createContainer cls jsonLoads config).run oracle world).2.state := by
  obtain ⟨free, has⟩ := has
  cases ended : (createContainer cls jsonLoads config).run oracle world with
  | mk result after =>
      have issued : ¬ Exhausted counter free → _ := fun notExhausted =>
        issue_inRange has.fresh notExhausted fun id member =>
          inRange.pool id (has.pool ▸ member)
      cases creation cls jsonLoads has ended with
      | rejected | exhausted => exact ⟨inRange.pool, inRange.containers⟩
      | failed _ notExhausted => exact ⟨(issued notExhausted).2, inRange.containers⟩
      | created _ notExhausted =>
          refine ⟨(issued notExhausted).2, fun id isLive => ?_⟩
          rcases Std.ExtTreeMap.mem_insert.mp isLive with same | isLive
          · rw [← Std.LawfulEqOrd.compare_eq_iff_eq.mp same]
            exact (issued notExhausted).1
          · exact inRange.containers id isLive

theorem inRange_perform {counter : Int} {world : World Sys (SoftwareContainerAgent κ)}
    (has : HasCounter counter world.state) (inRange : IdsInRange world.state)
    (operation : Operation) (oracle : Oracle Sys) :
    IdsInRange ((perform cls jsonLoads operation).run oracle world).2.state := by
  by_cases creates : ∃ config, operation = .createContainer config
  · obtain ⟨config, rfl⟩ := creates
    rw [perform, run_map]
    exact inRange_createContainer cls jsonLoads has inRange config oracle
  · exact aside_ids.preserves_perform cls jsonLoads (fun _ _ inRange same => inRange.of_ids same)
      (fun config same => creates ⟨config, same⟩)
      (fun containerID _ => preserves_inRange_forgetContainer containerID) oracle world inRange

end

/-! The addresses. -/

section

/-- The containers of the library, which remember what is recorded for them. -/
abbrev rememberedClass (shellParseArgv : String → Option (List String)) :
    ContainerClass (Remembered LibraryContainer) :=
  Remembered.containerClass (SoftwareContainer.containerClass shellParseArgv)

variable (shellParseArgv : String → Option (List String))
  (jsonLoads : String → Except String Json)

structure Housed (config : SoftwareContainerConfig)
    (agent : SoftwareContainerAgent (Remembered LibraryContainer)) : Prop where
  sameConfig : agent.containerConfig = config
  counter : ∃ counter, HasCounter counter agent
  inRange : IdsInRange agent
  addressed : EachContainer (SoftwareContainer.Addressed config) agent

theorem addressed_createContainer {config : SoftwareContainerConfig} (options : String) :
    Preserves (fun agent => EachContainer (SoftwareContainer.Addressed config) agent ∧
        agent.containerConfig = config)
      (createContainer (rememberedClass shellParseArgv) jsonLoads options) := by
  refine preserves_bind (preserves_zoom fun _ _ holds => holds) fun read oracle world holds => ?_
  rw [run_get_bind, holds.2]
  have found : Preserves (fun agent => EachContainer (SoftwareContainer.Addressed config) agent ∧
      agent.containerConfig = config) (findSuitableId : Method (Remembered LibraryContainer) Int) :=
    fun oracle world holds => ⟨keepsEach_findSuitableId oracle world holds.1,
      (leavesConfig_findSuitableId oracle world).trans holds.2⟩
  refine preserves_bind found (fun containerID => ?_) oracle world holds
  refine @preserves_runOn_bind Sys Fault _ Unit (Remembered LibraryContainer) Int _
    (SoftwareContainer.Addressed config containerID) ()
    (remembered (SoftwareContainer.construct containerID (read.toConfig config)))
    (fun container => do
      assignContainer (rememberedClass shellParseArgv) containerID container
      return containerID) (fun oracle world whole after constructed => ?_)
    fun container addressed => ?_
  · exact @SoftwareContainer.addressed_construct _ (read.toConfig config) config rfl rfl _ _ _ _
      constructed
  · refine preserves_bind (preserves_get_bind fun _ => preserves_bind (preserves_modify
      fun _ holds => ⟨holds.1.insert addressed, holds.2⟩) fun _ oracle world holds => ?_)
      fun _ => preserves_pure _
    have left : ∀ container, LeavesConfig (releaseContainer
        (rememberedClass shellParseArgv) container) :=
      fun container => leaves_releaseContainer _ container
    exact ⟨keepsEach_releaseContainer _ _ oracle world holds.1,
      (left _ oracle world).trans holds.2⟩

theorem housed_perform {config : SoftwareContainerConfig} (operation : Operation) :
    Preserves (Housed config)
      (perform (rememberedClass shellParseArgv) jsonLoads operation) := by
  intro oracle world housed
  obtain ⟨counter, has⟩ := housed.counter
  obtain ⟨after, _, hasAfter⟩ :=
    hasCounter_perform (rememberedClass shellParseArgv) jsonLoads has operation oracle
  refine ⟨(leavesConfig_perform _ jsonLoads operation oracle world).trans housed.sameConfig,
    ⟨after, hasAfter⟩, inRange_perform _ jsonLoads has housed.inRange operation oracle, ?_⟩
  by_cases creates : ∃ options, operation = .createContainer options
  · obtain ⟨options, rfl⟩ := creates
    rw [perform, run_map]
    exact (addressed_createContainer shellParseArgv jsonLoads options oracle world
      ⟨housed.addressed, housed.sameConfig⟩).1
  · exact keepsEach_perform jsonLoads
      (fun id => (SoftwareContainer.records_gives _ shellParseArgv).keepsPart)
      (fun options same => creates ⟨options, same⟩) oracle world housed.addressed

theorem housed_constructed {config : SoftwareContainerConfig}
    {manifests defaultManifests : List Json}
    {agent : SoftwareContainerAgent (Remembered LibraryContainer)}
    (constructed : construct config manifests defaultManifests = .ok agent) :
    Housed config agent := by
  have counter := hasCounter_constructed constructed
  rw [construct] at constructed
  obtain ⟨filtered, _, constructed⟩ := ConfigStore.except_bind_eq_ok constructed
  obtain ⟨defaults, _, constructed⟩ := ConfigStore.except_bind_eq_ok constructed
  cases constructed
  refine ⟨rfl, ⟨0, counter⟩, ⟨fun id member => ?_, fun id isLive => ?_⟩, fun id _ found => ?_⟩
  · cases List.mem_singleton.mp member
    decide
  · exact absurd isLive Std.ExtTreeMap.not_mem_empty
  · rw [Std.ExtTreeMap.getElem?_empty] at found
    cases found

structure OwnAddress (agent : SoftwareContainerAgent (Remembered LibraryContainer))
    (containerID : Int) (address : Nat) : Prop where
  generated : generateIP (agent.containerConfig.bridgeNetmaskBitLength % 256).toNat
    agent.containerConfig.bridgeIPAddress containerID = .ok address
  notBridge : inetPton agent.containerConfig.bridgeIPAddress ≠ some address
  alone : ∀ (other : Int) container, agent.containers[other]? = some container →
    address ∈ SoftwareContainer.addresses container → other = containerID

/-- In every run the address that a job gives to the interface of a container is its own: the
one that is generated for the container, which no other container and not the bridge has. -/
theorem addresses_are_apart {config : SoftwareContainerConfig}
    {manifests defaultManifests : List Json}
    {agent : SoftwareContainerAgent (Remembered LibraryContainer)}
    (constructed : construct config manifests defaultManifests = .ok agent)
    (oracle : Oracle Sys) (history : History Sys) (operations : List Operation)
    {reached : SoftwareContainerAgent (Remembered LibraryContainer)}
    (run : (runAll (perform (rememberedClass shellParseArgv) jsonLoads) oracle operations
      ⟨agent, history⟩).2.state = reached) {containerID : Int}
    {container : Remembered LibraryContainer}
    (found : reached.containers[containerID]? = some container) {address : Nat}
    (given : address ∈ SoftwareContainer.addresses container) :
    OwnAddress reached containerID address := by
  have housed : Housed config reached := run ▸ preserves_runAll
    (fun operation => housed_perform shellParseArgv jsonLoads operation) oracle operations
    ⟨agent, history⟩ (housed_constructed constructed)
  have live : ∀ {id : Int} {other : Remembered LibraryContainer},
      reached.containers[id]? = some other → 0 ≤ id ∧ id < 2147483647 :=
    fun isFound => housed.inRange.containers _ (Std.ExtTreeMap.mem_iff_isSome_getElem?.mpr (by
      rw [isFound]
      rfl))
  have generated : ∀ {id : Int} {other : Remembered LibraryContainer},
      reached.containers[id]? = some other → ∀ {ip : Nat},
        ip ∈ SoftwareContainer.addresses other →
          generateIP (config.bridgeNetmaskBitLength % 256).toNat config.bridgeIPAddress id =
            .ok ip :=
    fun isFound _ member => (housed.addressed _ _ isFound).generated member
  obtain ⟨bridge, isBridge, isAddress⟩ := generateIP_ok (generated found given)
  obtain ⟨atLeast, atMost⟩ := live found
  have bound := inetPton_lt isBridge
  refine ⟨by rw [housed.sameConfig]; exact generated found given, ?_, ?_⟩
  · rw [housed.sameConfig, isBridge]
    intro same
    have := Option.some.inj same
    omega
  · intro other otherContainer foundOther givenOther
    obtain ⟨atLeastOther, atMostOther⟩ := live foundOther
    obtain ⟨otherBridge, isOther, sameAddress⟩ := generateIP_ok (generated foundOther givenOther)
    cases isBridge.symm.trans isOther
    omega

def closedNetwork : Json :=
  .object [("capabilities", .array [.object [("name", .string "com.example"),
    ("gateways", .array [.object [("id", .string "network"), ("config", .array
      [.object [("direction", .string "INCOMING"), ("allow", .array [])]])]])]])]

/-- Two containers with an interface each. -/
theorem addresses_are_apart_two :
    ∃ agent reached, construct .defaults [] [closedNetwork] = .ok agent ∧
      (runAll (perform (rememberedClass fun _ => none) emptyOptions) fortunate
        [.createContainer "[]", .createContainer "[]", .execute 0 "ls" "/" "" ∅,
          .execute 1 "ls" "/" "" ∅] ⟨agent, []⟩).2.state = reached ∧
      OwnAddress reached 0 167772930 := by
  obtain ⟨agent, constructed⟩ : ∃ agent : SoftwareContainerAgent (Remembered LibraryContainer),
      construct .defaults [] [closedNetwork] = .ok agent := ⟨_, rfl⟩
  have evaluated : (match (construct .defaults [] [closedNetwork] :
        Except StoreFault (SoftwareContainerAgent (Remembered LibraryContainer))) with
      | .error _ => none
      | .ok agent => (runAll (perform (rememberedClass fun _ => none) emptyOptions) fortunate
          [.createContainer "[]", .createContainer "[]", .execute 0 "ls" "/" "" ∅,
            .execute 1 "ls" "/" "" ∅] ⟨agent, []⟩).2.state.containers[(0 : Int)]?.map
          SoftwareContainer.addresses) = some [167772930] := by
    decide +kernel
  rw [constructed] at evaluated
  dsimp only at evaluated
  generalize run : (runAll (perform (rememberedClass fun _ => none) emptyOptions) fortunate
    [.createContainer "[]", .createContainer "[]", .execute 0 "ls" "/" "" ∅,
      .execute 1 "ls" "/" "" ∅] ⟨agent, []⟩).2.state = reached at evaluated
  obtain ⟨container, found, given⟩ := Option.map_eq_some_iff.mp evaluated
  exact ⟨agent, reached, constructed, run, addresses_are_apart (fun _ => none) emptyOptions
    constructed fortunate [] _ run found (given ▸ List.mem_singleton_self _)⟩

end

end SoftwareContainerAgent

end SoftwareContainers
