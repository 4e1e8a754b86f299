import SoftwareContainers.Agent.Agent
import SoftwareContainers.Configuration.Manifests

namespace SoftwareContainers

open Effect Effect.Act GatewayConfig ConfigStore

/-! What the agent reads from its stores, as long as nothing changes their arrays. -/

/-- The configuration as a container reads it. -/
def PlainConfig.handed (plain : PlainConfig) : GatewayConfiguration :=
  plain.map fun _ elements => .array elements

theorem foldlM_insert {ids : List String} {read : String → Option (List Json)}
    (found : ∀ id ∈ ids, ∃ elements, read id = some elements) (before : GatewayConfiguration) :
    ∃ gwConfig, ids.foldlM (fun gwConfig id => do
        return gwConfig.insert id (.array (← read id))) before = some gwConfig ∧
      ∀ other, gwConfig[other]? =
        if other ∈ ids then (read other).map .array else before[other]? := by
  induction ids generalizing before with
  | nil => exact ⟨before, rfl, fun _ => by simp⟩
  | cons id rest ih =>
      obtain ⟨elements, isRead⟩ := found id (.head _)
      obtain ⟨gwConfig, ended, lookup⟩ := ih (fun later member => found later (.tail _ member))
        (before.insert id (.array elements))
      refine ⟨gwConfig, ?_, fun other => ?_⟩
      · rw [List.foldlM_cons, isRead]
        exact ended
      · rw [lookup, getElem?_insert]
        by_cases same : id = other
        · subst same
          rw [if_pos rfl, if_pos (List.mem_cons_self), isRead, Option.map_some,
            ite_self]
        · rw [if_neg same]
          by_cases member : other ∈ rest
          · rw [if_pos member, if_pos (List.mem_cons_of_mem _ member)]
          · rw [if_neg member, if_neg fun either =>
              (List.mem_cons.mp either).elim (fun equal => same equal.symm) member]

theorem handedOver_eq_some {conf : GatewayConfig} {heap : JsonHeap} (live : conf.Live heap) :
    conf.handedOver heap = some (conf.value heap).handed := by
  have found : ∀ id ∈ conf.ids, ∃ elements, conf.config id heap = some elements := by
    intro id member
    have isKey := Std.ExtTreeMap.mem_keys.mp member
    obtain ⟨cell, isCell⟩ :=
      live.found id _ (Std.ExtTreeMap.getElem?_eq_some_getElem isKey)
    refine ⟨cell.value, ?_⟩
    rw [config, Std.ExtTreeMap.getElem?_eq_some_getElem isKey]
    exact read_eq_some isCell
  obtain ⟨gwConfig, ended, lookup⟩ := foldlM_insert found ∅
  rw [handedOver, ended]
  congr 1
  apply Std.ExtTreeMap.ext_getElem?
  intro id
  rw [lookup, PlainConfig.handed, Std.ExtTreeMap.getElem?_map, ← config_eq_value live]
  by_cases member : id ∈ conf.ids
  · rw [if_pos member]
  · have missing : conf.configMap[id]? = none :=
      Std.ExtTreeMap.getElem?_eq_none fun isKey => member (Std.ExtTreeMap.mem_keys.mpr isKey)
    rw [if_neg member, config, missing]
    simp

structure LoadedStores where
  filtered : ConfigStore
  defaults : ConfigStore
  heap : JsonHeap
  filteredLive : filtered.Live heap
  defaultsLive : defaults.Live heap

namespace LoadedStores

def capabilities (stores : LoadedStores) : Std.ExtTreeMap String PlainConfig :=
  stores.filtered.value stores.heap

def defaultCapabilities (stores : LoadedStores) : Std.ExtTreeMap String PlainConfig :=
  stores.defaults.value stores.heap

structure Since (stores : LoadedStores) (heap : JsonHeap) : Prop where
  next : stores.heap.next ≤ heap.next
  kept : KeepsBelow stores.heap.next stores.heap heap

variable {stores : LoadedStores} {heap after : JsonHeap}

theorem Since.refl (stores : LoadedStores) : stores.Since stores.heap :=
  ⟨Nat.le_refl _, fun _ _ => rfl⟩

theorem Since.later (since : stores.Since heap) (next : heap.next ≤ after.next)
    (kept : KeepsBelow heap.next heap after) : stores.Since after where
  next := Nat.le_trans since.next next
  kept address below := by
    rw [kept address (Nat.lt_of_lt_of_le below since.next), since.kept address below]

section

variable {store : ConfigStore} (storeLive : store.Live stores.heap) (since : stores.Since heap)

include storeLive since

theorem Since.arrays_kept (name : String) (config : GatewayConfig)
    (isConfig : store.capMap[name]? = some config) (id : String) (address : Nat)
    (holds : config.Holds id address) : heap.cells address = stores.heap.cells address :=
  since.kept address ((storeLive name config isConfig).below holds)

theorem Since.live_now : store.Live heap :=
  live_of_kept storeLive (since.arrays_kept storeLive)

theorem Since.value_now : store.value heap = store.value stores.heap :=
  ConfigStore.value_of_kept (since.arrays_kept storeLive)

theorem Since.configs : ∃ conf after, store.configs heap = some (conf, after) ∧
    Owned heap.next conf after ∧ heap.next ≤ after.next ∧
    KeepsBelow heap.next heap after ∧
    conf.value after = allConfigs (store.value stores.heap) := by
  have liveNow := since.live_now storeLive
  have found : ∀ cap ∈ store.capMap.toList, store.capMap[cap.1]? = some cap.2 :=
    fun cap member => Std.ExtTreeMap.mem_toList_iff_getElem?_eq_some.mp member
  obtain ⟨conf, after, ended, owned, next, kept, value⟩ :=
    appendCapabilities_owned (owned_new heap.next heap) (Nat.le_refl _)
      (fun cap member => liveNow cap.1 cap.2 (found cap member))
      fun cap member id address holds => (liveNow cap.1 cap.2 (found cap member)).below holds
  refine ⟨conf, after, ended, owned, next, kept, ?_⟩
  rw [value, value_new, allConfigs, ← since.value_now storeLive, ConfigStore.value,
    Std.ExtTreeMap.toList_map, List.foldl_map]

theorem Since.configsByID (capIDs : List String) :
    ∃ conf after, store.configsByID capIDs heap = some (conf, after) ∧
    Owned heap.next conf after ∧ heap.next ≤ after.next ∧
    KeepsBelow heap.next heap after ∧
    conf.value after = listedConfigs (store.value stores.heap) capIDs := by
  have liveNow := since.live_now storeLive
  obtain ⟨conf, after, ended, owned, next, kept, value⟩ :=
    @appendByID_owned heap.next .new heap store capIDs (owned_new heap.next heap)
      (Nat.le_refl _) liveNow
      fun name config isConfig id address holds => (liveNow name config isConfig).below holds
  refine ⟨conf, after, ended, owned, next, kept, ?_⟩
  rw [value, value_new, since.value_now storeLive, listedConfigs]

end

end LoadedStores

/-! The configurations that `setCapabilities` makes, and their end. -/

section

variable {base : Nat} {heap : JsonHeap}

theorem destroyed_both {first second : GatewayConfig} (ownedFirst : Owned base first heap)
    (ownedSecond : Owned base second heap) (isBase : base ≤ heap.next)
    (apart : ∀ id address, first.Holds id address → ∀ other, ¬ second.Holds other address) :
    ∃ middle after, second.destructor heap = some middle ∧
      first.destructor middle = some after ∧ heap.next ≤ after.next ∧
      KeepsBelow base heap after := by
  obtain ⟨middle, endedSecond, keepsSecond⟩ := destructor_owned ownedSecond
  have firstKept : Owned base first middle := ownedFirst.of_kept fun id address holds =>
    keepsSecond.2 address (ownedFirst.live.below holds) (apart id address holds)
  obtain ⟨after, endedFirst, keepsFirst⟩ := destructor_owned firstKept
  refine ⟨middle, after, endedSecond, endedFirst, Nat.le_trans keepsSecond.1 keepsFirst.1,
    fun address below => ?_⟩
  rw [keepsBelow_of_keeps firstKept (Nat.le_trans isBase keepsSecond.1) keepsFirst address below,
    keepsBelow_of_keeps ownedSecond isBase keepsSecond address below]

end

namespace LoadedStores

variable {stores : LoadedStores} {heap : JsonHeap}

theorem Since.handed_out (since : stores.Since heap) (capIDs : List String) :
    ∃ gatewayConfigs between filteredConfigs after,
      stores.defaults.configs heap = some (gatewayConfigs, between) ∧
      stores.filtered.configsByID capIDs between = some (filteredConfigs, after) ∧
      Owned heap.next gatewayConfigs after ∧ Owned heap.next filteredConfigs after ∧
      (∀ id address, filteredConfigs.Holds id address → ∀ other,
        ¬ gatewayConfigs.Holds other address) ∧
      heap.next ≤ after.next ∧ KeepsBelow heap.next heap after ∧
      gatewayConfigs.value after = allConfigs stores.defaultCapabilities ∧
      filteredConfigs.value after = listedConfigs stores.capabilities capIDs := by
  obtain ⟨gatewayConfigs, between, madeDefaults, ownedDefaults, nextBetween, keptBetween,
    valueDefaults⟩ := since.configs stores.defaultsLive
  obtain ⟨filteredConfigs, after, madeFiltered, ownedFiltered, nextAfter, keptAfter,
    valueFiltered⟩ := (since.later nextBetween keptBetween).configsByID stores.filteredLive capIDs
  have defaultsKept : ∀ id address, gatewayConfigs.Holds id address →
      after.cells address = between.cells address :=
    fun id address holds => keptAfter address (ownedDefaults.live.below holds)
  refine ⟨gatewayConfigs, between, filteredConfigs, after, madeDefaults, madeFiltered,
    ownedDefaults.of_kept defaultsKept, ownedFiltered.mono nextBetween, ?_,
    Nat.le_trans nextBetween nextAfter, fun address below => ?_, ?_, valueFiltered⟩
  · intro id address holds other held
    have := (ownedFiltered.owned id address holds).1
    have := ownedDefaults.live.below held
    omega
  · rw [keptAfter address (Nat.lt_of_lt_of_le below nextBetween), keptBetween address below]
  · rw [GatewayConfig.value_of_kept defaultsKept, valueDefaults]
    rfl

end LoadedStores

end SoftwareContainers
