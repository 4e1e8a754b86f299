import Mathlib.Data.List.Find
import SoftwareContainers.Base.Keyed
import SoftwareContainers.Configuration.Config

namespace SoftwareContainers

/-! Which source a value of the configuration comes from. -/

abbrev TypeMap := UniqueKey → Option ConfigType

structure ItemsOf {α : Type} (typeMap : TypeMap) (kind : ConfigSourceType) (type : ConfigType)
    (items : List (ConfigItem α)) : Prop where
  ofKind : ∀ item ∈ items, item.source = kind
  ofType : ∀ item ∈ items, typeMap item.uniqueKey = some type
  single : (items.map ConfigItem.uniqueKey).Nodup

structure KindedSource (typeMap : TypeMap) extends ConfigSource where
  kind : ConfigSourceType
  strings : ItemsOf typeMap kind .string stringConfigs
  ints : ItemsOf typeMap kind .integer intConfigs
  bools : ItemsOf typeMap kind .boolean boolConfigs

namespace Config

section
variable {α : Type} {typeMap : TypeMap}

structure Selection (α : Type) (typeMap : TypeMap) where
  type : ConfigType
  items : KindedSource typeMap → List (ConfigItem α)
  isOf : ∀ source, ItemsOf typeMap source.kind type (items source)

def strings : Selection String typeMap :=
  ⟨.string, fun source => source.stringConfigs, fun source => source.strings⟩

def ints : Selection Int typeMap :=
  ⟨.integer, fun source => source.intConfigs, fun source => source.ints⟩

def bools : Selection Bool typeMap :=
  ⟨.boolean, fun source => source.boolConfigs, fun source => source.bools⟩

def given (selection : Selection α typeMap) (sources : List (KindedSource typeMap))
    (key : UniqueKey) (kind : ConfigSourceType) : Option (ConfigItem α) :=
  (sources.find? fun source => source.kind = kind).bind fun source =>
    (selection.items source).find? fun item => item.uniqueKey = key

def prioritized (selection : Selection α typeMap) (sources : List (KindedSource typeMap))
    (key : UniqueKey) : Option (ConfigItem α) :=
  (given selection sources key .commandline).or
    ((given selection sources key .main).or (given selection sources key .default))

def answer (key : UniqueKey) : Option (ConfigItem α) → Except ConfigError α
  | some item => .ok item.value
  | none => .error (.notFound ("No config found for " ++ key.1 ++ "::" ++ key.2))

def found (configs : List (ConfigItem α)) (key : UniqueKey) (kind : ConfigSourceType) :
    Option (ConfigItem α) :=
  configs.find? fun config => decide (config.uniqueKey = key) && decide (config.source = kind)

theorem find?_foundConfigs (configs : List (ConfigItem α)) (group key : String)
    (kind : ConfigSourceType) :
    ((configs.filter fun config => config.group = group ∧ config.key = key).find?
        fun config => config.source = kind) = found configs (group, key) kind := by
  rw [List.find?_filter, found]
  simp only [ConfigItem.uniqueKey, Prod.mk.injEq, Bool.decide_and, Bool.decide_eq_true]

theorem prioritizedConfig_eq_ok {configs : List (ConfigItem α)} (some : configs ≠ []) :
    ∃ config, prioritizedConfig configs = .ok config ∧
      ((configs.find? fun config => config.source = .commandline).or
        ((configs.find? fun config => config.source = .main).or
          (configs.find? fun config => config.source = .default))) = .some config := by
  rw [prioritizedConfig]
  cases commandline : configs.find? fun config => config.source = .commandline with
  | some config => exact ⟨config, rfl, rfl⟩
  | none =>
      cases main : configs.find? fun config => config.source = .main with
      | some config => exact ⟨config, rfl, rfl⟩
      | none =>
          cases isDefault : configs.find? fun config => config.source = .default with
          | some config => exact ⟨config, rfl, rfl⟩
          | none =>
              obtain ⟨first, rest, rfl⟩ := List.exists_cons_of_ne_nil some
              have member := List.mem_cons_self (a := first) (l := rest)
              have noCommandline := List.find?_eq_none.mp commandline first member
              have noMain := List.find?_eq_none.mp main first member
              have noDefault := List.find?_eq_none.mp isDefault first member
              cases source : first.source <;> simp_all

theorem getConfig_eq (configs : List (ConfigItem α)) (group key : String) :
    ConfigItem.value <$> getConfig group key configs =
      answer (group, key) ((found configs (group, key) .commandline).or
        ((found configs (group, key) .main).or (found configs (group, key) .default))) := by
  simp only [← find?_foundConfigs]
  rw [getConfig]
  generalize configs.filter (fun config => config.group = group ∧ config.key = key) = matching
  by_cases empty : matching = []
  · rw [empty]
    rfl
  · obtain ⟨config, chosen, first⟩ := prioritizedConfig_eq_ok empty
    rw [first, if_neg (by simpa using empty), chosen]
    rfl

theorem found_flatMap (selection : Selection α typeMap) {sources : List (KindedSource typeMap)}
    (distinct : (sources.map KindedSource.kind).Nodup) (key : UniqueKey)
    (kind : ConfigSourceType) :
    found (sources.flatMap selection.items) key kind = given selection sources key kind := by
  induction sources with
  | nil => rfl
  | cons source rest ih =>
      obtain ⟨others, distinct⟩ := List.nodup_cons.mp distinct
      have isOf := selection.isOf source
      rw [found, List.flatMap_cons, List.find?_append, given, List.find?_cons]
      by_cases same : source.kind = kind
      · have own : (selection.items source).find? (fun config =>
              decide (config.uniqueKey = key) && decide (config.source = kind)) =
            (selection.items source).find? fun item => item.uniqueKey = key := by
          refine List.find?_congr fun item member => ?_
          rw [isOf.ofKind item member, decide_eq_true same, Bool.and_true]
        have none : found (rest.flatMap selection.items) key kind = none := by
          rw [ih distinct, given, List.find?_eq_none.mpr, Option.bind_none]
          intro other member isKind
          refine others (List.mem_map.mpr ⟨other, member, ?_⟩)
          rw [same]
          exact of_decide_eq_true isKind
        rw [found] at none
        rw [own, none, decide_eq_true same, Option.or_none]
        rfl
      · have own : (selection.items source).find? (fun config =>
            decide (config.uniqueKey = key) && decide (config.source = kind)) = none := by
          refine List.find?_eq_none.mpr fun item member => ?_
          rw [isOf.ofKind item member, decide_eq_false same, Bool.and_false]
          exact Bool.false_ne_true
        rw [own, Option.none_or, decide_eq_false same]
        exact ih distinct

theorem given_eq_some_iff (selection : Selection α typeMap)
    {sources : List (KindedSource typeMap)}
    (distinct : (sources.map KindedSource.kind).Nodup) {key : UniqueKey}
    {kind : ConfigSourceType} {item : ConfigItem α} :
    given selection sources key kind = some item ↔
      ∃ source ∈ sources, source.kind = kind ∧ item ∈ selection.items source ∧
        item.uniqueKey = key := by
  rw [given, Option.bind_eq_some_iff]
  constructor
  · rintro ⟨source, isSource, isItem⟩
    obtain ⟨member, isKind⟩ := (Keyed.find?_eq_some_iff distinct).mp isSource
    exact ⟨source, member, isKind,
      (Keyed.find?_eq_some_iff (selection.isOf source).single).mp isItem⟩
  · rintro ⟨source, member, isKind, isItem⟩
    exact ⟨source, (Keyed.find?_eq_some_iff distinct).mpr ⟨member, isKind⟩,
      (Keyed.find?_eq_some_iff (selection.isOf source).single).mpr isItem⟩

theorem prioritized_of_perm (selection : Selection α typeMap)
    {sources order : List (KindedSource typeMap)}
    (distinct : (sources.map KindedSource.kind).Nodup) (permuted : order.Perm sources)
    (key : UniqueKey) : prioritized selection order key = prioritized selection sources key := by
  have distinctOrder := (permuted.map KindedSource.kind).nodup_iff.mpr distinct
  have same : given selection order key = given selection sources key := by
    funext kind
    refine Option.ext fun item => ?_
    rw [given_eq_some_iff selection distinctOrder, given_eq_some_iff selection distinct]
    simp only [permuted.mem_iff]
  rw [prioritized, prioritized, same]

theorem prioritized_eq_none_iff (selection : Selection α typeMap)
    {sources : List (KindedSource typeMap)}
    (distinct : (sources.map KindedSource.kind).Nodup) {key : UniqueKey} :
    prioritized selection sources key = none ↔
      ∀ source ∈ sources, ∀ item ∈ selection.items source, item.uniqueKey ≠ key := by
  constructor
  · intro none source member item isItem hasKey
    have isGiven := (given_eq_some_iff selection distinct).mpr
      ⟨source, member, rfl, isItem, hasKey⟩
    rw [prioritized, Option.or_eq_none_iff, Option.or_eq_none_iff] at none
    obtain ⟨commandline, main, isDefault⟩ := none
    cases kind : source.kind with
    | commandline => cases (kind ▸ isGiven).symm.trans commandline
    | main => cases (kind ▸ isGiven).symm.trans main
    | default => cases (kind ▸ isGiven).symm.trans isDefault
  · intro missing
    have none : ∀ kind, given selection sources key kind = none := by
      intro kind
      refine Option.eq_none_iff_forall_ne_some.mpr fun item isGiven => ?_
      obtain ⟨source, member, _, isItem, hasKey⟩ :=
        (given_eq_some_iff selection distinct).mp isGiven
      exact missing source member item isItem hasKey
    rw [prioritized, none, none, none]
    rfl

/-- A getter answers with what comes first, whichever the type is. -/
theorem getConfig_flatMap (selection : Selection α typeMap)
    {sources : List (KindedSource typeMap)}
    (distinct : (sources.map KindedSource.kind).Nodup) (group key : String) :
    ConfigItem.value <$> getConfig group key (sources.flatMap selection.items) =
      answer (group, key) (prioritized selection sources (group, key)) := by
  rw [getConfig_eq, found_flatMap selection distinct, found_flatMap selection distinct,
    found_flatMap selection distinct, prioritized]

end

section
variable {typeMap : TypeMap} {sources : List (KindedSource typeMap)}

/-- Some source gives the key a value. -/
def IsPresent (sources : List (KindedSource typeMap)) (key : UniqueKey) : Prop :=
  ∃ source ∈ sources, (∃ item ∈ source.stringConfigs, item.uniqueKey = key) ∨
    (∃ item ∈ source.intConfigs, item.uniqueKey = key) ∨
    ∃ item ∈ source.boolConfigs, item.uniqueKey = key

/-- The getter for the type that is defined for the key does not throw. -/
def Answers (self : Config) (typeMap : TypeMap) (key : UniqueKey) : Prop :=
  match typeMap key with
  | some .string => ∃ value, self.getStringValue key.1 key.2 = .ok value
  | some .integer => ∃ value, self.getIntValue key.1 key.2 = .ok value
  | some .boolean => ∃ value, self.getBoolValue key.1 key.2 = .ok value
  | none => False

/-- Each getter answers with the value that comes first. -/
structure Prioritizes (config : Config) (sources : List (KindedSource typeMap)) : Prop where
  string : ∀ group key, config.getStringValue group key =
    answer (group, key) (prioritized strings sources (group, key))
  int : ∀ group key, config.getIntValue group key =
    answer (group, key) (prioritized ints sources (group, key))
  bool : ∀ group key, config.getBoolValue group key =
    answer (group, key) (prioritized bools sources (group, key))

abbrev gathered (sources : List (KindedSource typeMap)) : Config :=
  readConfigsFromSources (sources.map KindedSource.toConfigSource)

theorem mem_allConfigs_iff {key : UniqueKey} :
    key ∈ (gathered sources).allConfigs ↔ IsPresent sources key := by
  simp only [readConfigsFromSources, IsPresent, List.mem_append, List.mem_map, List.mem_flatMap]
  constructor
  · rintro ((⟨item, ⟨_, ⟨source, member, rfl⟩, isItem⟩, hasKey⟩ |
      ⟨item, ⟨_, ⟨source, member, rfl⟩, isItem⟩, hasKey⟩) |
      ⟨item, ⟨_, ⟨source, member, rfl⟩, isItem⟩, hasKey⟩)
    · exact ⟨source, member, .inl ⟨item, isItem, hasKey⟩⟩
    · exact ⟨source, member, .inr (.inl ⟨item, isItem, hasKey⟩)⟩
    · exact ⟨source, member, .inr (.inr ⟨item, isItem, hasKey⟩)⟩
  · rintro ⟨source, member, ⟨item, isItem, hasKey⟩ | ⟨item, isItem, hasKey⟩ |
      ⟨item, isItem, hasKey⟩⟩
    · exact .inl (.inl ⟨item, ⟨_, ⟨source, member, rfl⟩, isItem⟩, hasKey⟩)
    · exact .inl (.inr ⟨item, ⟨_, ⟨source, member, rfl⟩, isItem⟩, hasKey⟩)
    · exact .inr ⟨item, ⟨_, ⟨source, member, rfl⟩, isItem⟩, hasKey⟩

theorem prioritizes_gathered (distinct : (sources.map KindedSource.kind).Nodup) :
    (gathered sources).Prioritizes sources where
  string group key := by
    have read : (gathered sources).stringConfigs = sources.flatMap strings.items :=
      List.flatMap_map ..
    rw [← getConfig_flatMap strings distinct, getStringValue, read]
  int group key := by
    have read : (gathered sources).intConfigs = sources.flatMap ints.items :=
      List.flatMap_map ..
    rw [← getConfig_flatMap ints distinct, getIntValue, read]
  bool group key := by
    have read : (gathered sources).boolConfigs = sources.flatMap bools.items :=
      List.flatMap_map ..
    rw [← getConfig_flatMap bools distinct, getBoolValue, read]

theorem answer_of_item {α : Type} (selection : Selection α typeMap)
    (distinct : (sources.map KindedSource.kind).Nodup) {source : KindedSource typeMap}
    (member : source ∈ sources) {item : ConfigItem α} (isItem : item ∈ selection.items source)
    {key : UniqueKey} (hasKey : item.uniqueKey = key) :
    ∃ value, answer key (prioritized selection sources key) = .ok value := by
  cases first : prioritized selection sources key with
  | none =>
      exact absurd hasKey
        ((prioritized_eq_none_iff selection distinct).mp first source member item isItem)
  | some chosen => exact ⟨chosen.value, rfl⟩

theorem answers_of_isPresent (distinct : (sources.map KindedSource.kind).Nodup)
    {key : UniqueKey} (present : IsPresent sources key) :
    (gathered sources).Answers typeMap key := by
  have prioritizes := prioritizes_gathered distinct
  obtain ⟨source, member, ⟨item, isItem, hasKey⟩ | ⟨item, isItem, hasKey⟩ |
    ⟨item, isItem, hasKey⟩⟩ := present
  · rw [Answers, ← hasKey, source.strings.ofType item isItem, hasKey]
    dsimp only
    rw [prioritizes.string]
    exact answer_of_item strings distinct member isItem hasKey
  · rw [Answers, ← hasKey, source.ints.ofType item isItem, hasKey]
    dsimp only
    rw [prioritizes.int]
    exact answer_of_item ints distinct member isItem hasKey
  · rw [Answers, ← hasKey, source.bools.ofType item isItem, hasKey]
    dsimp only
    rw [prioritizes.bool]
    exact answer_of_item bools distinct member isItem hasKey

end

theorem assertDependencies_eq_ok_iff {self : Config} {dependencies : ConfigDependencies} :
    self.assertDependencies dependencies = .ok ⟨⟩ ↔
      ∀ dep ∈ dependencies, dep.1 ∈ self.allConfigs →
        ∀ dependency ∈ dep.2, dependency ∈ self.allConfigs := by
  induction dependencies with
  | nil => simp [assertDependencies]
  | cons dep rest ih =>
      rw [assertDependencies, List.forall_mem_cons, ← ih]
      by_cases unmet : (self.allConfigs.contains dep.1 && !self.allDepsSatisfied dep.2) = true
      · rw [if_pos unmet]
        refine iff_of_false (fun ended => by cases ended) fun met => ?_
        simp only [allDepsSatisfied, Bool.and_eq_true, List.contains_iff_mem,
          Bool.not_eq_true', List.all_eq_false] at unmet
        obtain ⟨isFound, dependency, member, missing⟩ := unmet
        exact missing (by simpa using met.1 isFound dependency member)
      · rw [if_neg unmet]
        refine ⟨fun ended => ⟨fun isFound dependency member => ?_, ended⟩, fun met => met.2⟩
        simp only [allDepsSatisfied, Bool.and_eq_true, List.contains_iff_mem,
          Bool.not_eq_true', List.all_eq_false, not_and, not_exists, not_not] at unmet
        simpa using unmet isFound dependency member

theorem assertAllMandatoryPresent_eq_ok_iff {self : Config} {mandatory : MandatoryConfigs} :
    self.assertAllMandatoryPresent mandatory = .ok ⟨⟩ ↔
      ∀ key ∈ mandatory, key ∈ self.allConfigs := by
  induction mandatory with
  | nil => simp [assertAllMandatoryPresent]
  | cons key rest ih =>
      rw [assertAllMandatoryPresent, List.forall_mem_cons, ← ih]
      by_cases isFound : key ∈ self.allConfigs
      · simp [isFound]
      · simp [isFound]

theorem construct_eq_ok_iff {typeMap : TypeMap} {sources : List (KindedSource typeMap)}
    {mandatory : MandatoryConfigs} {dependencies : ConfigDependencies} {config : Config} :
    construct (sources.map KindedSource.toConfigSource) mandatory dependencies = .ok config ↔
      (∀ dep ∈ dependencies, IsPresent sources dep.1 →
        ∀ dependency ∈ dep.2, IsPresent sources dependency) ∧
      (∀ key ∈ mandatory, IsPresent sources key) ∧ gathered sources = config := by
  simp only [← mem_allConfigs_iff]
  rw [← assertDependencies_eq_ok_iff, ← assertAllMandatoryPresent_eq_ok_iff, construct]
  cases (gathered sources).assertDependencies dependencies with
  | error error =>
      refine iff_of_false (fun ended => by cases ended) ?_
      rintro ⟨met, _⟩
      cases met
  | ok =>
      cases (gathered sources).assertAllMandatoryPresent mandatory with
      | error error =>
          refine iff_of_false (fun ended => by cases ended) ?_
          rintro ⟨_, present, _⟩
          cases present
      | ok =>
          constructor
          · intro ended
            exact ⟨rfl, rfl, Except.ok.inj ended⟩
          · rintro ⟨_, _, rfl⟩
            rfl

/-- A configuration that is constructed answers with the command line first, then the main
config file, then the defaults, in whatever order the sources stand.  What is mandatory is
answered, and what something present depends on is present. -/
theorem construct_prioritizes {typeMap : TypeMap} {sources : List (KindedSource typeMap)}
    (distinct : (sources.map KindedSource.kind).Nodup) {mandatory : MandatoryConfigs}
    {dependencies : ConfigDependencies} {config : Config}
    (constructed : construct (sources.map KindedSource.toConfigSource) mandatory dependencies =
      .ok config) :
    config.Prioritizes sources ∧
      (∀ order : List (KindedSource typeMap), order.Perm sources → ∃ other,
        construct (order.map KindedSource.toConfigSource) mandatory dependencies = .ok other ∧
          other.Prioritizes sources) ∧
      (∀ key ∈ mandatory, config.Answers typeMap key) ∧
      ∀ dep ∈ dependencies, IsPresent sources dep.1 →
        ∀ dependency ∈ dep.2, IsPresent sources dependency := by
  obtain ⟨met, present, rfl⟩ := construct_eq_ok_iff.mp constructed
  refine ⟨prioritizes_gathered distinct, ?_,
    fun key member => answers_of_isPresent distinct (present key member), met⟩
  intro order permuted
  have samePresent : ∀ key, IsPresent order key ↔ IsPresent sources key := by
    intro key
    simp only [IsPresent, permuted.mem_iff]
  refine ⟨gathered order, construct_eq_ok_iff.mpr ?_, ?_⟩
  · simp only [samePresent]
    exact ⟨met, present, trivial⟩
  · have distinctOrder := (permuted.map KindedSource.kind).nodup_iff.mpr distinct
    have prioritizes := prioritizes_gathered distinctOrder
    exact
      { string := fun group key => by
          rw [prioritizes.string, prioritized_of_perm strings distinct permuted]
        int := fun group key => by
          rw [prioritizes.int, prioritized_of_perm ints distinct permuted]
        bool := fun group key => by
          rw [prioritizes.bool, prioritized_of_perm bools distinct permuted] }

def timeoutKey : UniqueKey := ("SoftwareContainer", "shutdown-timeout")

def timeoutType : TypeMap := fun key => if key = timeoutKey then some .integer else none

def timeoutSource (kind : ConfigSourceType) (value : Int) : KindedSource timeoutType where
  stringConfigs := []
  intConfigs := [⟨"SoftwareContainer", "shutdown-timeout", kind, value⟩]
  boolConfigs := []
  kind := kind
  strings := ⟨by simp, by simp, by simp⟩
  ints := ⟨by simp, by simp [timeoutType, timeoutKey, ConfigItem.uniqueKey], by simp⟩
  bools := ⟨by simp, by simp, by simp⟩

theorem construct_prioritizes_commandline :
    ((gathered [timeoutSource .default 2, timeoutSource .commandline 5]).getIntValue
      "SoftwareContainer" "shutdown-timeout" = .ok 5) ∧
    IsPresent [timeoutSource .default 2, timeoutSource .commandline 5] timeoutKey := by
  have constructed : construct ([timeoutSource .default 2, timeoutSource .commandline 5].map
      KindedSource.toConfigSource) [timeoutKey] [(timeoutKey, [timeoutKey])] =
        .ok (gathered [timeoutSource .default 2, timeoutSource .commandline 5]) := rfl
  have distinct : ([timeoutSource .default 2, timeoutSource .commandline 5].map
      KindedSource.kind).Nodup := by decide
  obtain ⟨prioritizes, _, _, met⟩ := construct_prioritizes distinct constructed
  refine ⟨prioritizes.int _ _, met _ (.head _) ?_ _ (.head _)⟩
  exact ⟨_, .head _, .inr (.inl ⟨_, .head _, rfl⟩)⟩

end Config

end SoftwareContainers
