import SoftwareContainers.Base.Keyed
import SoftwareContainers.Gateways.Simple

namespace SoftwareContainers

open Effect Effect.Act Hook Keyed

/-! The settings that a file gateway stores, and where their flags come from. -/

namespace FileGateway

/-- Calls of `addSetting`, one after the other: the settings that are accepted, and the
store. -/
def addSettings : List FileSetting → List FileSetting → List FileSetting × List FileSetting
  | [], store => ([], store)
  | setting :: rest, store =>
      match addSetting setting store with
      | none => addSettings rest store
      | some after => (setting :: (addSettings rest after).1, (addSettings rest after).2)

/-- The store has the path for another path of the host. -/
def Conflicts (setting : FileSetting) (store : List FileSetting) : Prop :=
  ∃ entry ∈ store, entry.pathInContainer = setting.pathInContainer ∧
    entry.pathInHost ≠ setting.pathInHost

def merge (setting entry : FileSetting) : FileSetting :=
  { entry with readOnly := entry.readOnly && setting.readOnly }

section

variable {setting : FileSetting} {store : List FileSetting}

theorem addSetting_of_conflicts (distinct : (store.map FileSetting.pathInContainer).Nodup)
    (conflicts : Conflicts setting store) : addSetting setting store = none := by
  obtain ⟨entry, member, samePath, otherHost⟩ := conflicts
  induction store with
  | nil => cases member
  | cons first rest ih =>
      rw [List.map_cons, List.nodup_cons] at distinct
      rw [addSetting]
      rcases List.mem_cons.mp member with rfl | inRest
      · rw [if_pos samePath, if_pos otherHost]
      · rw [if_neg, ih distinct.2 inRest]
        · rfl
        · intro sameFirst
          rw [sameFirst, ← samePath] at distinct
          exact distinct.1 (List.mem_map_of_mem inRest)

theorem addSetting_of_no_conflict (noConflict : ¬ Conflicts setting store) :
    addSetting setting store = some (upsert FileSetting.pathInContainer
      setting.pathInContainer (merge setting) setting store) := by
  induction store with
  | nil => rfl
  | cons first rest ih =>
      rw [addSetting, upsert]
      by_cases samePath : first.pathInContainer = setting.pathInContainer
      · have sameHost : ¬ first.pathInHost ≠ setting.pathInHost := fun otherHost =>
          noConflict ⟨first, List.mem_cons_self, samePath, otherHost⟩
        rw [if_pos samePath, if_pos samePath, if_neg sameHost]
        rfl
      · rw [if_neg samePath, if_neg samePath, ih]
        · rfl
        · rintro ⟨entry, member, conflict⟩
          exact noConflict ⟨entry, List.mem_cons_of_mem _ member, conflict⟩

theorem addSetting_eq_none_iff (distinct : (store.map FileSetting.pathInContainer).Nodup) :
    addSetting setting store = none ↔ Conflicts setting store := by
  refine ⟨fun rejected => ?_, addSetting_of_conflicts distinct⟩
  by_contra noConflict
  rw [addSetting_of_no_conflict noConflict] at rejected
  cases rejected

end

/-- What the store holds after some calls: each path once, with the path of the host that
came first, and read-only if every accepted setting says so. -/
structure Merges (given accepted store : List FileSetting) : Prop where
  subset : accepted ⊆ given
  distinct : (store.map FileSetting.pathInContainer).Nodup
  paths : ∀ path, path ∈ store.map FileSetting.pathInContainer ↔
    path ∈ given.map FileSetting.pathInContainer
  first : ∀ entry ∈ store, ∃ setting,
    given.find? (fun other => decide (other.pathInContainer = entry.pathInContainer)) =
        some setting ∧ entry.pathInHost = setting.pathInHost
  readOnly : ∀ entry ∈ store, entry.readOnly = true ↔
    ∀ setting ∈ accepted, setting.pathInContainer = entry.pathInContainer →
      setting.readOnly = true

section

variable {given accepted store : List FileSetting} {setting : FileSetting}

theorem merges_nil : Merges [] [] [] where
  subset := List.Subset.refl _
  distinct := List.nodup_nil
  paths _ := Iff.rfl
  first := nofun
  readOnly := nofun

theorem Merges.first_append (merges : Merges given accepted store) {entry : FileSetting}
    (member : entry ∈ store) :
    ∃ first, (given ++ [setting]).find?
        (fun other => decide (other.pathInContainer = entry.pathInContainer)) = some first ∧
      entry.pathInHost = first.pathInHost := by
  obtain ⟨first, found, sameHost⟩ := merges.first entry member
  exact ⟨first, by rw [List.find?_append, found]; rfl, sameHost⟩

theorem Merges.reject (merges : Merges given accepted store)
    (conflicts : Conflicts setting store) :
    Merges (given ++ [setting]) accepted store where
  subset := List.subset_append_of_subset_left _ merges.subset
  distinct := merges.distinct
  paths path := by
    obtain ⟨entry, member, samePath, _⟩ := conflicts
    have present := (merges.paths _).mp (List.mem_map_of_mem member)
    rw [merges.paths, List.map_append, List.mem_append]
    refine ⟨.inl, ?_⟩
    rintro (before | now)
    · exact before
    · rw [List.mem_singleton.mp now]
      exact samePath ▸ present
  first _ member := merges.first_append member
  readOnly := merges.readOnly

theorem Merges.accept (merges : Merges given accepted store)
    (noConflict : ¬ Conflicts setting store) :
    Merges (given ++ [setting]) (accepted ++ [setting])
      (upsert FileSetting.pathInContainer setting.pathInContainer (merge setting) setting
        store) where
  subset := List.append_subset.mpr
    ⟨List.subset_append_of_subset_left _ merges.subset, List.subset_append_right _ _⟩
  distinct := nodup_upsert (fun _ => rfl) rfl merges.distinct
  paths path := by
    rw [mem_map_key_upsert (show ∀ entry, (merge setting entry).pathInContainer = _ from
      fun _ => rfl) rfl, merges.paths, List.map_append, List.mem_append]
    simp
  first entry member := by
    rcases mem_upsert merges.distinct member with ⟨stored, _⟩ | ⟨stored, isStored, _, rfl⟩ |
      ⟨missing, rfl⟩
    · exact merges.first_append stored
    · exact @Merges.first_append _ _ _ setting merges stored isStored
    · rw [merges.paths] at missing
      refine ⟨entry, ?_, rfl⟩
      rw [List.find?_append, List.find?_eq_none.mpr]
      · simp
      · intro other isGiven samePath
        rw [← of_decide_eq_true samePath] at missing
        exact missing (List.mem_map_of_mem isGiven)
  readOnly entry member := by
    simp only [List.forall_mem_append, List.forall_mem_singleton]
    rcases mem_upsert merges.distinct member with ⟨stored, different⟩ |
      ⟨stored, isStored, samePath, rfl⟩ | ⟨missing, rfl⟩
    · rw [merges.readOnly entry stored]
      exact ⟨fun all => ⟨all, fun same => absurd same.symm different⟩, fun both => both.1⟩
    · change (stored.readOnly && setting.readOnly) = true ↔ _
      rw [Bool.and_eq_true, merges.readOnly stored isStored]
      exact and_congr_right fun _ => ⟨fun isReadOnly _ => isReadOnly, fun all => all samePath.symm⟩
    · rw [merges.paths] at missing
      refine ⟨fun isReadOnly => ⟨fun other isAccepted samePath => ?_, fun _ => isReadOnly⟩,
        fun both => both.2 rfl⟩
      rw [← samePath] at missing
      exact absurd (List.mem_map_of_mem (merges.subset isAccepted)) missing

theorem Merges.addSettings {earlier acceptedEarlier : List FileSetting}
    (merges : Merges earlier acceptedEarlier store) (given : List FileSetting) :
    Merges (earlier ++ given) (acceptedEarlier ++ (addSettings given store).1)
      (addSettings given store).2 := by
  induction given generalizing earlier acceptedEarlier store with
  | nil =>
      rw [List.append_nil, FileGateway.addSettings, List.append_nil]
      exact merges
  | cons setting rest ih =>
      rw [FileGateway.addSettings]
      by_cases conflicts : Conflicts setting store
      · rw [addSetting_of_conflicts merges.distinct conflicts]
        have merged := ih (merges.reject conflicts)
        rwa [List.append_assoc] at merged
      · rw [addSetting_of_no_conflict conflicts]
        have merged := ih (merges.accept conflicts)
        rwa [List.append_assoc, List.append_assoc] at merged

theorem addSettings_append (given more : List FileSetting) :
    addSettings (given ++ more) store =
      ((addSettings given store).1 ++ (addSettings more (addSettings given store).2).1,
        (addSettings more (addSettings given store).2).2) := by
  induction given generalizing store with
  | nil => rfl
  | cons setting rest ih =>
      rw [List.cons_append, FileGateway.addSettings, FileGateway.addSettings]
      cases addSetting setting store with
      | none => exact ih
      | some after =>
          dsimp only
          rw [ih]
          rfl

/-- **The store of a file gateway** after any calls: each path in the container is there once
with the path of the host that was given first, it is read-only if all settings accepted for it
are, and a call is rejected exactly when there is another path of the host for it; a rejected
call changes nothing. -/
theorem addSettings_merges (given : List FileSetting) :
    Merges given (addSettings given []).1 (addSettings given []).2 ∧
      ∀ setting,
        (addSetting setting (addSettings given []).2 = none ↔
          Conflicts setting (addSettings given []).2) ∧
        (Conflicts setting (addSettings given []).2 →
          addSettings (given ++ [setting]) [] = addSettings given []) := by
  have merged := merges_nil.addSettings given
  rw [List.nil_append, List.nil_append] at merged
  refine ⟨merged, fun setting => ⟨addSetting_eq_none_iff merged.distinct, fun conflicts => ?_⟩⟩
  rw [addSettings_append, FileGateway.addSettings,
    addSetting_of_conflicts merged.distinct conflicts]
  dsimp only [FileGateway.addSettings]
  rw [List.append_nil]

end

/-! What a setting depends on. -/

def memoryAt (oracle : Oracle Sys) (world : World Sys (FileGateway × Container)) : Bool :=
  oracle world.history .indeterminateBool

def settingPassed (oracle : Oracle Sys) (world : World Sys (FileGateway × Container))
    (element : Json) : Option FileSetting :=
  parseConfigElement element (memoryAt oracle world)

theorem run_readConfigElement (element : Json) (oracle : Oracle Sys)
    (world : World Sys (FileGateway × Container)) :
    ((readConfigElement element).run oracle world).1 =
        .ok ((settingPassed oracle world element).any fun setting =>
          (addSetting setting world.state.1.settings).isSome) ∧
      ((readConfigElement element).run oracle world).2.state.1.settings =
        ((settingPassed oracle world element).bind fun setting =>
          addSetting setting world.state.1.settings).getD world.state.1.settings := by
  rw [readConfigElement, run_ask_bind, settingPassed, memoryAt]
  cases parseConfigElement element (oracle world.history .indeterminateBool) with
  | none => exact ⟨rfl, rfl⟩
  | some setting =>
      dsimp only [getGateway]
      rw [run_bind_ok (show (_ >>= _ : Hook FileGateway FileGateway).run _ _ = _ from rfl)]
      simp only [Option.any_some, Option.bind_some]
      cases addSetting setting world.state.1.settings with
      | none => exact ⟨rfl, rfl⟩
      | some settings => exact ⟨rfl, rfl⟩

def Accepts (oracle : Oracle Sys) (world : World Sys (FileGateway × Container))
    (element : Json) : Prop :=
  ((readConfigElement element).run oracle world).1 = .ok true

/-- In any two runs that accept the element, whatever is in memory and in the stores, the
same setting reaches the store. -/
def IsDetermined (element : Json) : Prop :=
  ∀ (oracle other : Oracle Sys) (world otherWorld : World Sys (FileGateway × Container)),
    Accepts oracle world element → Accepts other otherWorld element →
      settingPassed oracle world element = settingPassed other otherWorld element

section

variable {element : Json}

theorem parseConfigElement_of_hasKey (hasFlag : JSONParser.hasKey element "read-only" = true)
    (first second : Bool) :
    parseConfigElement element first = parseConfigElement element second := by
  unfold parseConfigElement JSONParser.readOptionalBool
  rw [if_pos hasFlag, if_pos hasFlag]

theorem parseConfigElement_of_noKey (noFlag : ¬ JSONParser.hasKey element "read-only" = true)
    {first : Bool} {setting : FileSetting}
    (parsed : parseConfigElement element first = some setting) (second : Bool) :
    parseConfigElement element second = some { setting with readOnly := second } := by
  unfold parseConfigElement JSONParser.readOptionalBool at parsed ⊢
  rw [if_neg noFlag] at parsed ⊢
  cases hosted : JSONParser.readString element "path-host" with
  | none =>
      rw [hosted] at parsed
      cases parsed
  | some pathInHost =>
      cases contained : JSONParser.readString element "path-container" with
      | none =>
          rw [hosted, contained] at parsed
          cases parsed
      | some pathInContainer =>
          rw [hosted, contained] at parsed
          simp only [bind, Option.bind] at parsed ⊢
          split at parsed
          · cases parsed
          · rename_i nonempty
            cases parsed
            rw [if_neg nonempty]
            rfl

theorem accepts_iff {oracle : Oracle Sys} {world : World Sys (FileGateway × Container)} :
    Accepts oracle world element ↔ ∃ setting, settingPassed oracle world element = some setting ∧
      ∃ settings, addSetting setting world.state.1.settings = some settings := by
  rw [Accepts, (run_readConfigElement element oracle world).1, Except.ok.injEq,
    Option.any_eq_true]
  simp only [Option.isSome_iff_exists]

end

def memoryOf (value : Bool) : Oracle Sys
  | _, .indeterminateBool => value
  | history, call => fortunate history call

def emptyStore (container : Container) : World Sys (FileGateway × Container) :=
  ⟨(new, container), []⟩

/-- **A setting is determined by its JSON** exactly if the element has the key `read-only`, or
is never accepted. -/
theorem isDetermined_iff (element : Json) :
    IsDetermined element ↔ JSONParser.hasKey element "read-only" = true ∨
      ∀ oracle world, ¬ Accepts oracle world element := by
  constructor
  · intro determined
    by_cases hasFlag : JSONParser.hasKey element "read-only" = true
    · exact .inl hasFlag
    · refine .inr fun oracle world accepts => ?_
      obtain ⟨setting, passed, _⟩ := accepts_iff.mp accepts
      have any (value : Bool) : settingPassed (memoryOf value) (emptyStore world.state.2) element =
          some { setting with readOnly := value } :=
        parseConfigElement_of_noKey hasFlag passed value
      have acceptsAny (value : Bool) :
          Accepts (memoryOf value) (emptyStore world.state.2) element :=
        accepts_iff.mpr ⟨_, any value, _, rfl⟩
      have same := determined _ _ _ _ (acceptsAny true) (acceptsAny false)
      rw [any, any] at same
      cases same
  · rintro (hasFlag | never) oracle other world otherWorld accepts acceptsToo
    · exact parseConfigElement_of_hasKey hasFlag _ _
    · exact absurd accepts (never oracle world)

def withoutFlag : Json :=
  .object [("path-host", .string "/tmp/socket"), ("path-container", .string "/tmp/socket")]

/-- Without the key two runs differ in whether the mount is writable. -/
theorem withoutFlag_is_not_determined :
    ¬ ∀ element oracle world, Accepts oracle world element → IsDetermined element := by
  intro determined
  have accepts (value : Bool) : Accepts (memoryOf value)
      (emptyStore (.new "SC-0" "/etc/sc.conf" "/tmp/container" true 2)) withoutFlag := by
    rw [Accepts]
    cases value <;> decide +kernel
  have same := determined withoutFlag _ _ (accepts true) _ _ _ _ (accepts true) (accepts false)
  revert same
  decide +kernel

end FileGateway

end SoftwareContainers
