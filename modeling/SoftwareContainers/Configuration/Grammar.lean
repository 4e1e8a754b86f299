import SoftwareContainers.Configuration.Manifests

namespace SoftwareContainers

open Effect

namespace ConfigStore

/-! The shape a service manifest must have, and what is loaded of those that do not have it. -/

/-- Only an object has members. -/
def WellFormedGateway (gateway : Json) : Prop :=
  (∃ gwID, gateway.objectGet "id" = some (.string gwID)) ∧
    ∃ confs, gateway.objectGet "config" = some (.array confs)

def WellFormedCapability (capability : Json) : Prop :=
  (∃ capName, capability.objectGet "name" = some (.string capName)) ∧
    ∃ gateways, capability.objectGet "gateways" = some (.array gateways) ∧
      ∀ gateway ∈ gateways, WellFormedGateway gateway

def WellFormedManifest (serviceManifest : Json) : Prop :=
  ∃ capabilities, serviceManifest.objectGet "capabilities" = some (.array capabilities) ∧
    ∀ capability ∈ capabilities, WellFormedCapability capability

abbrev Outline := String × List Json

def outlinesOfManifest (serviceManifest : Json) : Except StoreFault (List Outline) := do
  (← capabilitiesOf serviceManifest).mapM parseCapability

def outlinesOf (content : List Json) : Except StoreFault (List Outline) := do
  return (← content.mapM outlinesOfManifest).flatten

def WellFormedOutline (outline : Outline) : Prop :=
  ∀ gateway ∈ outline.2, WellFormedGateway gateway

theorem isObject_of_objectGet {element value : Json} {key : String}
    (found : element.objectGet key = some value) : element.isObject = true := by
  cases element with
  | object members => rfl
  | null | boolean | integer | real | string | array => cases found

theorem readString_eq_some_iff {element : Json} {key text : String} :
    JSONParser.readString element key = some text ↔
      element.objectGet key = some (.string text) := by
  rw [JSONParser.readString]
  split
  · next value found => rw [found, Option.some_inj, Option.some_inj, Json.string.injEq]
  · next other =>
      constructor
      · intro read
        cases read
      · intro found
        exact absurd found (other text)

theorem parseGateway_eq_ok_iff {gateway : Json} {gwID : String} {confs : List Json} :
    parseGateway gateway = .ok (gwID, confs) ↔
      gateway.objectGet "id" = some (.string gwID) ∧
        gateway.objectGet "config" = some (.array confs) := by
  constructor
  · intro parsed
    unfold parseGateway at parsed
    split at parsed
    · cases parsed
    · split at parsed
      · cases parsed
      · next read =>
          split at parsed
          · cases parsed
          · next found =>
              cases parsed
              exact ⟨readString_eq_some_iff.mp read, found⟩
          · cases parsed
  · rintro ⟨named, found⟩
    simp only [parseGateway, isObject_of_objectGet named, readString_eq_some_iff.mpr named,
      found]
    rfl

theorem parseCapability_eq_ok_iff {capability : Json} {capName : String}
    {gateways : List Json} :
    parseCapability capability = .ok (capName, gateways) ↔
      capability.objectGet "name" = some (.string capName) ∧
        capability.objectGet "gateways" = some (.array gateways) := by
  constructor
  · intro parsed
    unfold parseCapability at parsed
    split at parsed
    · cases parsed
    · split at parsed
      · cases parsed
      · next read =>
          split at parsed
          · cases parsed
          · next found =>
              cases parsed
              exact ⟨readString_eq_some_iff.mp read, found⟩
          · cases parsed
  · rintro ⟨named, found⟩
    simp only [parseCapability, isObject_of_objectGet named, readString_eq_some_iff.mpr named,
      found]
    rfl

theorem capabilitiesOf_eq_ok_iff {serviceManifest : Json} {capabilities : List Json} :
    capabilitiesOf serviceManifest = .ok capabilities ↔
      serviceManifest.objectGet "capabilities" = some (.array capabilities) := by
  unfold capabilitiesOf
  constructor
  · intro parsed
    split at parsed
    · cases parsed
    · next found =>
        cases parsed
        exact found
    · cases parsed
  · intro found
    rw [found]

theorem exists_mapM_ok_iff {α β : Type} {change : α → Except StoreFault β} {good : β → Prop}
    {items : List α} :
    (∃ results, items.mapM change = .ok results ∧ ∀ result ∈ results, good result) ↔
      ∀ item ∈ items, ∃ result, change item = .ok result ∧ good result := by
  induction items with
  | nil =>
      constructor
      · intro _ item member
        cases member
      · intro _
        refine ⟨[], rfl, fun result member => ?_⟩
        cases member
  | cons item rest ih =>
      rw [List.forall_mem_cons, ← ih]
      constructor
      · rintro ⟨results, changed, allGood⟩
        obtain ⟨first, later, isFirst, isLater, rfl⟩ := mapM_cons_eq_ok changed
        obtain ⟨firstGood, laterGood⟩ := List.forall_mem_cons.mp allGood
        exact ⟨⟨first, isFirst, firstGood⟩, later, isLater, laterGood⟩
      · rintro ⟨⟨first, isFirst, firstGood⟩, later, isLater, laterGood⟩
        refine ⟨first :: later, ?_, List.forall_mem_cons.mpr ⟨firstGood, laterGood⟩⟩
        rw [List.mapM_cons, isFirst, isLater]
        rfl

theorem wellFormedGateway_iff {gateway : Json} :
    WellFormedGateway gateway ↔ ∃ item, parseGateway gateway = .ok item := by
  constructor
  · rintro ⟨⟨gwID, named⟩, confs, found⟩
    exact ⟨_, parseGateway_eq_ok_iff.mpr ⟨named, found⟩⟩
  · rintro ⟨⟨gwID, confs⟩, parsed⟩
    obtain ⟨named, found⟩ := parseGateway_eq_ok_iff.mp parsed
    exact ⟨⟨_, named⟩, _, found⟩

theorem wellFormedOutline_iff {outline : Outline} :
    WellFormedOutline outline ↔ ∃ items, outline.2.mapM parseGateway = .ok items := by
  constructor
  · intro wellFormed
    obtain ⟨items, read, _⟩ := exists_mapM_ok_iff.mpr fun gateway member => by
      obtain ⟨item, parsed⟩ := wellFormedGateway_iff.mp (wellFormed gateway member)
      exact ⟨item, parsed, trivial⟩
    exact ⟨items, read⟩
  · rintro ⟨items, read⟩ gateway member
    obtain ⟨item, parsed, _⟩ :=
      exists_mapM_ok_iff.mp ⟨items, read, fun _ _ => trivial⟩ gateway member
    exact wellFormedGateway_iff.mpr ⟨item, parsed⟩

theorem wellFormedCapability_iff {capability : Json} :
    WellFormedCapability capability ↔
      ∃ outline, parseCapability capability = .ok outline ∧ WellFormedOutline outline := by
  constructor
  · rintro ⟨⟨capName, named⟩, gateways, found, wellFormed⟩
    exact ⟨_, parseCapability_eq_ok_iff.mpr ⟨named, found⟩, wellFormed⟩
  · rintro ⟨⟨capName, gateways⟩, parsed, wellFormed⟩
    obtain ⟨named, found⟩ := parseCapability_eq_ok_iff.mp parsed
    exact ⟨⟨_, named⟩, _, found, wellFormed⟩

theorem wellFormedManifest_iff {serviceManifest : Json} :
    WellFormedManifest serviceManifest ↔
      ∃ outlines, outlinesOfManifest serviceManifest = .ok outlines ∧
        ∀ outline ∈ outlines, WellFormedOutline outline := by
  constructor
  · rintro ⟨capabilities, found, wellFormed⟩
    obtain ⟨outlines, read, allGood⟩ := exists_mapM_ok_iff.mpr fun capability member =>
      wellFormedCapability_iff.mp (wellFormed capability member)
    refine ⟨outlines, ?_, allGood⟩
    rw [outlinesOfManifest, capabilitiesOf_eq_ok_iff.mpr found]
    exact read
  · rintro ⟨outlines, read, allGood⟩
    obtain ⟨capabilities, found, read⟩ := except_bind_eq_ok read
    refine ⟨capabilities, capabilitiesOf_eq_ok_iff.mp found, fun capability member => ?_⟩
    exact wellFormedCapability_iff.mpr (exists_mapM_ok_iff.mp ⟨outlines, read, allGood⟩ _ member)

/-- The grammar, by what is read of the manifests. -/
theorem all_wellFormedManifest_iff {content : List Json} :
    (∀ serviceManifest ∈ content, WellFormedManifest serviceManifest) ↔
      ∃ outlines, outlinesOf content = .ok outlines ∧
        ∀ outline ∈ outlines, WellFormedOutline outline := by
  simp only [wellFormedManifest_iff]
  rw [← exists_mapM_ok_iff]
  constructor
  · rintro ⟨lists, read, allGood⟩
    refine ⟨lists.flatten, ?_, ?_⟩
    · rw [outlinesOf, read]
      rfl
    · intro outline member
      obtain ⟨own, isOwn, member⟩ := List.mem_flatten.mp member
      exact allGood own isOwn outline member
  · rintro ⟨outlines, read, allGood⟩
    obtain ⟨lists, isLists, flattened⟩ := except_bind_eq_ok read
    cases flattened
    exact ⟨lists, isLists, fun own isOwn outline member =>
      allGood outline (List.mem_flatten.mpr ⟨own, isOwn, member⟩)⟩

/-! The gateways of a capability are only looked at when its name is new. -/

def Accepts : List Outline → List String → Prop
  | [], _ => True
  | outline :: rest, known =>
      (outline.1 ∈ known ∨ WellFormedOutline outline) ∧ Accepts rest (outline.1 :: known)

def knownAfter (outlines : List Outline) (known : List String) : List String :=
  (outlines.map Prod.fst).reverse ++ known

theorem knownAfter_cons (outline : Outline) (rest : List Outline) (known : List String) :
    knownAfter (outline :: rest) known = knownAfter rest (outline.1 :: known) := by
  simp [knownAfter]

theorem accepts_append {first second : List Outline} {known : List String} :
    Accepts (first ++ second) known ↔
      Accepts first known ∧ Accepts second (knownAfter first known) := by
  induction first generalizing known with
  | nil => exact ⟨fun accepted => ⟨trivial, accepted⟩, fun accepted => accepted.2⟩
  | cons outline rest ih =>
      rw [List.cons_append, Accepts, ih, Accepts, knownAfter_cons, and_assoc]

theorem accepts_of_wellFormed {outlines : List Outline}
    (wellFormed : ∀ outline ∈ outlines, WellFormedOutline outline) (known : List String) :
    Accepts outlines known := by
  induction outlines generalizing known with
  | nil => exact trivial
  | cons outline rest ih =>
      obtain ⟨first, later⟩ := List.forall_mem_cons.mp wellFormed
      exact ⟨.inr first, ih later _⟩

/-- The first capability of each name is well formed. -/
def FirstsWellFormed (outlines : List Outline) : Prop :=
  ∀ name outline, outlines.find? (fun outline => outline.1 = name) = some outline →
    WellFormedOutline outline

theorem accepts_iff {outlines : List Outline} {known : List String} :
    Accepts outlines known ↔
      ∀ name outline, name ∉ known →
        outlines.find? (fun outline => outline.1 = name) = some outline →
        WellFormedOutline outline := by
  induction outlines generalizing known with
  | nil =>
      constructor
      · intro _ name outline _ found
        cases found
      · intro _
        exact trivial
  | cons first rest ih =>
      rw [Accepts, ih]
      constructor
      · rintro ⟨isFirst, later⟩ name outline unknown found
        rw [List.find?_cons] at found
        by_cases same : first.1 = name
        · rw [decide_eq_true same] at found
          cases found
          exact isFirst.resolve_left (same ▸ unknown)
        · rw [decide_eq_false same] at found
          refine later name outline (fun member => ?_) found
          rcases List.mem_cons.mp member with rfl | isKnown
          · exact same rfl
          · exact unknown isKnown
      · intro firsts
        constructor
        · by_cases isKnown : first.1 ∈ known
          · exact .inl isKnown
          · refine .inr (firsts first.1 first isKnown ?_)
            rw [List.find?_cons, decide_eq_true rfl]
        · intro name outline unknown found
          obtain ⟨different, isNew⟩ := not_or.mp (mt List.mem_cons.mpr unknown)
          refine firsts name outline isNew ?_
          rw [List.find?_cons, decide_eq_false (Ne.symm different)]
          exact found

theorem accepts_nil_iff {outlines : List Outline} :
    Accepts outlines [] ↔ FirstsWellFormed outlines := by
  rw [accepts_iff, FirstsWellFormed]
  exact forall₂_congr fun name outline => by simp only [List.not_mem_nil, not_false_iff,
    true_implies]

def Knows (self : ConfigStore) (known : List String) : Prop :=
  ∀ name, self.capMap.contains name = true ↔ name ∈ known

inductive Decides (known : List String) (outlines : Except StoreFault (List Outline)) :
    Except StoreFault (ConfigStore × JsonHeap) → Prop
  | loads {self : ConfigStore} {heap : JsonHeap} {read : List Outline}
      (isRead : outlines = .ok read) (accepted : Accepts read known) (live : self.Live heap)
      (knows : self.Knows (knownAfter read known)) : Decides known outlines (.ok (self, heap))
  | throws {message : String}
      (refused : ∀ read, outlines = .ok read → ¬ Accepts read known) :
      Decides known outlines (.error (.capabilityParseError message))

theorem Decides.bind {known : List String} {first second : Except StoreFault (List Outline)}
    {result : Except StoreFault (ConfigStore × JsonHeap)}
    {next : ConfigStore × JsonHeap → Except StoreFault (ConfigStore × JsonHeap)}
    (early : Decides known first result)
    (late : ∀ {self heap read}, self.Live heap → self.Knows (knownAfter read known) →
      Decides (knownAfter read known) second (next (self, heap))) :
    Decides known (do return (← first) ++ (← second)) (result >>= next) := by
  cases early with
  | throws refused =>
      refine .throws fun read isRead accepted => ?_
      obtain ⟨own, isOwn, isRead⟩ := except_bind_eq_ok isRead
      obtain ⟨later, _, isRead⟩ := except_bind_eq_ok isRead
      cases isRead
      exact refused own isOwn (accepts_append.mp accepted).1
  | loads isOwn accepted live knows =>
      rename_i self heap own
      change Decides known _ (next (self, heap))
      have rest := late live knows
      generalize next (self, heap) = final at rest
      cases rest with
      | loads isLater acceptedLater liveAfter knowsAfter =>
          rename_i later
          have isRead : (do return (← first) ++ (← second)) = .ok (own ++ later) := by
            rw [isOwn, isLater]
            rfl
          refine .loads isRead (accepts_append.mpr ⟨accepted, acceptedLater⟩) liveAfter ?_
          simpa [knownAfter] using knowsAfter
      | throws refused =>
          refine .throws fun read isRead acceptedAll => ?_
          obtain ⟨same, isSame, isRead⟩ := except_bind_eq_ok isRead
          cases isOwn.symm.trans isSame
          obtain ⟨later, isLater, isRead⟩ := except_bind_eq_ok isRead
          cases isRead
          exact refused later isLater (accepts_append.mp acceptedAll).2

section

open GatewayConfig

variable {base : Nat} {heap : JsonHeap}

theorem parseGateway_ne_undefined (gateway : Json) : parseGateway gateway ≠ .error .undefined := by
  intro parsed
  unfold parseGateway at parsed
  split at parsed
  · cases parsed
  · split at parsed
    · cases parsed
    · split at parsed <;> cases parsed

theorem parseCapability_ne_undefined (capability : Json) :
    parseCapability capability ≠ .error .undefined := by
  intro parsed
  unfold parseCapability at parsed
  split at parsed
  · cases parsed
  · split at parsed
    · cases parsed
    · split at parsed <;> cases parsed

theorem capabilitiesOf_ne_undefined (serviceManifest : Json) :
    capabilitiesOf serviceManifest ≠ .error .undefined := by
  intro parsed
  unfold capabilitiesOf at parsed
  split at parsed <;> cases parsed

theorem parseGateways_ne_undefined {gwConf : GatewayConfig} (owned : Owned base gwConf heap)
    (isBase : base ≤ heap.next) (gateways : List Json) :
    parseGateways gateways gwConf heap ≠ .error .undefined := by
  induction gateways generalizing gwConf heap with
  | nil =>
      intro ended
      cases ended
  | cons gateway rest ih =>
      rw [parseGateways]
      cases parsed : parseGateway gateway with
      | error error =>
          intro ended
          cases ended
          exact parseGateway_ne_undefined gateway parsed
      | ok item =>
          obtain ⟨middle, between, appended, ownedMiddle, isBaseMiddle, _⟩ :=
            append_allocated_owned owned isBase item.1 item.2
          change (onHeap (append item.1 heap.next gwConf (heap.allocate item.2).2) >>= _) ≠ _
          rw [appended]
          exact ih ownedMiddle isBaseMiddle

theorem error_eq_capabilityParseError {error : StoreFault} (isDefined : error ≠ .undefined) :
    ∃ message, error = .capabilityParseError message := by
  cases error with
  | capabilityParseError message => exact ⟨message, rfl⟩
  | undefined => exact absurd rfl isDefined

theorem Loaded.knows {self after : ConfigStore} {heapAfter : JsonHeap} {capability : Capability}
    {known : List String} (knows : self.Knows known)
    (loaded : Loaded self heap [capability] after heapAfter) :
    after.Knows (capability.1 :: known) := by
  intro name
  rw [← contains_value after heapAfter, loaded.value, List.foldl_cons, List.foldl_nil,
    addCapability, List.mem_cons, ← knows name, ← contains_value self heap]
  split
  · next isKnown =>
      constructor
      · exact .inr
      · rintro (rfl | contained)
        · exact isKnown
        · exact contained
  · rw [Std.ExtTreeMap.contains_insert, Bool.or_eq_true, beq_iff_eq,
      Std.LawfulEqOrd.compare_eq_iff_eq, eq_comm]

theorem parseGatewayConfigs_decides {self : ConfigStore} (live : self.Live heap)
    {known : List String} (knows : self.Knows known) (outline : Outline) :
    Decides known (.ok [outline]) (parseGatewayConfigs outline.1 outline.2 self heap) := by
  cases read : outline.2.mapM parseGateway with
  | ok items =>
      obtain ⟨selfAfter, after, ended, loaded⟩ := parseGatewayConfigs_loaded live outline.1 read
      rw [ended]
      exact .loads rfl ⟨.inr (wellFormedOutline_iff.mpr ⟨items, read⟩), trivial⟩ loaded.live
        (loaded.knows knows)
  | error malformed =>
      have isMalformed : ¬ WellFormedOutline outline := by
        intro wellFormed
        obtain ⟨items, isItems⟩ := wellFormedOutline_iff.mp wellFormed
        cases read.symm.trans isItems
      rw [parseGatewayConfigs]
      by_cases isKnown : self.capMap.contains outline.1 = true
      · rw [if_pos isKnown]
        refine .loads rfl ⟨.inl ((knows outline.1).mp isKnown), trivial⟩ live fun name => ?_
        rw [knows name]
        constructor
        · exact List.mem_cons_of_mem _
        · intro member
          rcases List.mem_cons.mp member with rfl | member
          · exact (knows _).mp isKnown
          · exact member
      · rw [if_neg isKnown]
        cases ended : parseGateways outline.2 .new heap with
        | ok result =>
            obtain ⟨items, isItems⟩ := read_of_parseGateways ended
            cases read.symm.trans isItems
        | error error =>
            obtain ⟨message, rfl⟩ := error_eq_capabilityParseError fun same =>
              parseGateways_ne_undefined (owned_new heap.next heap) (Nat.le_refl _) outline.2
                (same ▸ ended)
            refine .throws fun read isRead accepted => ?_
            cases isRead
            rcases accepted.1 with member | wellFormed
            · exact isKnown ((knows _).mpr member)
            · exact isMalformed wellFormed

theorem parseCapabilities_decides {self : ConfigStore} (live : self.Live heap)
    {known : List String} (knows : self.Knows known) (entries : List Json) :
    Decides known (entries.mapM parseCapability) (parseCapabilities entries self heap) := by
  induction entries generalizing self heap known with
  | nil => exact .loads rfl trivial live knows
  | cons entry rest ih =>
      rw [parseCapabilities, List.mapM_cons]
      cases parsed : parseCapability entry with
      | error error =>
          obtain ⟨message, rfl⟩ := error_eq_capabilityParseError fun same =>
            parseCapability_ne_undefined entry (same ▸ parsed)
          refine .throws fun read isRead => ?_
          cases isRead
      | ok outline =>
          exact (parseGatewayConfigs_decides live knows outline).bind
            fun liveMiddle knowsMiddle => ih liveMiddle knowsMiddle

theorem outlinesOf_cons (serviceManifest : Json) (rest : List Json) :
    outlinesOf (serviceManifest :: rest) =
      do return (← outlinesOfManifest serviceManifest) ++ (← outlinesOf rest) := by
  rw [outlinesOf, List.mapM_cons, outlinesOf]
  cases outlinesOfManifest serviceManifest with
  | error error => rfl
  | ok own => cases rest.mapM outlinesOfManifest <;> rfl

theorem parseServiceManifests_decides {self : ConfigStore} (live : self.Live heap)
    {known : List String} (knows : self.Knows known) (content : List Json) :
    Decides known (outlinesOf content) (parseServiceManifests content self heap) := by
  induction content generalizing self heap known with
  | nil => exact .loads rfl trivial live knows
  | cons serviceManifest rest ih =>
      rw [parseServiceManifests, outlinesOf_cons]
      cases parsed : capabilitiesOf serviceManifest with
      | error error =>
          obtain ⟨message, rfl⟩ := error_eq_capabilityParseError fun same =>
            capabilitiesOf_ne_undefined serviceManifest (same ▸ parsed)
          rw [outlinesOfManifest, parsed]
          refine .throws fun read isRead => ?_
          cases isRead
      | ok capabilities =>
          rw [outlinesOfManifest, parsed]
          exact (parseCapabilities_decides live knows capabilities).bind
            fun liveMiddle knowsMiddle => ih liveMiddle knowsMiddle

end

def Throws (content : List Json) (heap : JsonHeap) : Prop :=
  ∃ message, load content heap = .error (.capabilityParseError message)

theorem throws_iff (content : List Json) (heap : JsonHeap) :
    Throws content heap ↔
      ¬ ∃ outlines, outlinesOf content = .ok outlines ∧ FirstsWellFormed outlines := by
  have nothing : empty.Knows [] := by
    intro name
    simp [empty]
  have decided := parseServiceManifests_decides (live_empty heap) nothing content
  rw [Throws, load]
  simp only [← accepts_nil_iff]
  generalize parseServiceManifests content empty heap = result at decided
  cases decided with
  | loads isRead accepted live knows =>
      refine iff_of_false ?_ (not_not_intro ⟨_, isRead, accepted⟩)
      rintro ⟨message, ended⟩
      cases ended
  | throws refused =>
      refine iff_of_true ⟨_, rfl⟩ ?_
      rintro ⟨outlines, isRead, accepted⟩
      exact refused outlines isRead accepted

/-- A store is refused in the given order exactly for what is malformed. -/
def Recognizes (content : List Json) (heap : JsonHeap) : Prop :=
  Throws content heap ↔
    ∃ serviceManifest ∈ content, ¬ WellFormedManifest serviceManifest

theorem recognizes_iff (content : List Json) (heap : JsonHeap) :
    Recognizes content heap ↔
      ∀ outlines, outlinesOf content = .ok outlines → FirstsWellFormed outlines →
        ∀ outline ∈ outlines, WellFormedOutline outline := by
  have malformed : (∃ serviceManifest ∈ content, ¬ WellFormedManifest serviceManifest) ↔
      ¬ ∃ outlines, outlinesOf content = .ok outlines ∧
        ∀ outline ∈ outlines, WellFormedOutline outline := by
    rw [← all_wellFormedManifest_iff]
    simp only [not_forall, exists_prop]
  rw [Recognizes, throws_iff, malformed, not_iff_not]
  constructor
  · rintro ⟨all, _⟩ outlines read firsts
    obtain ⟨same, isSame, wellFormed⟩ := all ⟨outlines, read, firsts⟩
    cases read.symm.trans isSame
    exact wellFormed
  · intro later
    constructor
    · rintro ⟨outlines, read, firsts⟩
      exact ⟨outlines, read, later outlines read firsts⟩
    · rintro ⟨outlines, read, wellFormed⟩
      exact ⟨outlines, read, accepts_nil_iff.mp (accepts_of_wellFormed wellFormed [])⟩

/-- In every order the manifests are refused exactly when one of them is malformed, if and
only if in no order the malformed gateways all stand in later capabilities of a name. -/
theorem recognizes_in_every_order_iff (content : List Json) (heap : JsonHeap) :
    (∀ order, order.Perm content → (Throws order heap ↔
        ∃ serviceManifest ∈ content, ¬ WellFormedManifest serviceManifest)) ↔
      ∀ order outlines, order.Perm content → outlinesOf order = .ok outlines →
        FirstsWellFormed outlines → ∀ outline ∈ outlines, WellFormedOutline outline := by
  have sameMalformed : ∀ order : List Json, order.Perm content →
      ((∃ serviceManifest ∈ order, ¬ WellFormedManifest serviceManifest) ↔
        ∃ serviceManifest ∈ content, ¬ WellFormedManifest serviceManifest) := by
    intro order permuted
    simp only [permuted.mem_iff]
  constructor
  · intro recognized order outlines permuted
    have here := recognized order permuted
    rw [← sameMalformed order permuted] at here
    exact (recognizes_iff order heap).mp here outlines
  · intro later order permuted
    rw [← sameMalformed order permuted]
    exact (recognizes_iff order heap).mpr fun outlines => later order outlines permuted

/-- Two capabilities of one name, of which the second has a gateway that is no object. -/
def malformedLater : Json :=
  .object [("capabilities", .array
    [.object [("name", .string "com.example"), ("gateways", .array [])],
      .object [("name", .string "com.example"), ("gateways", .array [.null])]])]

theorem malformed_gateway_is_accepted : ¬ ∀ content heap, Recognizes content heap := by
  intro recognized
  have malformed : ¬ WellFormedManifest malformedLater := by
    rintro ⟨capabilities, found, wellFormed⟩
    cases found
    obtain ⟨_, gateways, isGateways, allGood⟩ := wellFormed _ (.tail _ (.head _))
    cases isGateways
    obtain ⟨⟨gwID, found⟩, _⟩ := allGood _ (.head _)
    cases found
  obtain ⟨message, thrown⟩ := (recognized [malformedLater] .empty).mpr
    ⟨_, List.mem_singleton.mpr rfl, malformed⟩
  cases thrown

end ConfigStore

end SoftwareContainers
