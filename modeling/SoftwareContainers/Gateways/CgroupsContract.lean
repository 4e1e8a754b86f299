import SoftwareContainers.Gateways.Contracts

namespace SoftwareContainers

open Effect Effect.Act Hook

/-! The settings a cgroups gateway has stored can be read as numbers again, as long as
what it is given can. -/

/-- A computation of the parser that ends in one of its own errors or in something
with a property. -/
def Parses {α : Type} (result : Except Fault α) (holds : α → Prop) : Prop :=
  match result with
  | .ok value => holds value
  | .error error => error.isCgroupsGatewayError = true

namespace CGroupsParser

def isMemoryLimit (key : String) : Prop :=
  key = "memory.limit_in_bytes" ∨ key = "memory.memsw.limit_in_bytes"

def IsLimit (text : String) : Prop := ∃ limit, stoll text = .ok limit

def Converts (value : String) : Prop :=
  ∃ suffix, value.toList.getLast? = some suffix ∧
    (suffix.isDigit = true → IsLimit value) ∧
    ∀ factor, unitFactor suffix = some factor →
      LLONG_MIN ≤ (strtoll (String.ofList value.toList.dropLast)).1 * factor

def Fits (element : Json) : Prop :=
  ∀ key value, JSONParser.readString element "setting" = some key →
    JSONParser.readString element "value" = some value → isMemoryLimit key → Converts value

/-- What is compared with a new value is a number. -/
structure Comparable (settings : CgroupSettings) : Prop where
  memory : ∀ key stored, isMemoryLimit key → settings[key]? = some stored → IsLimit stored
  cpuShares : ∀ stored, settings["cpu.shares"]? = some stored →
    ∃ shares, stoi stored = .ok shares

theorem unitFactor_isDigit {suffix : Char} {factor : Int}
    (isUnit : unitFactor suffix = some factor) : suffix.isDigit = false ∧ 2 ≤ factor := by
  unfold unitFactor at isUnit
  split at isUnit
  · rename_i kilo
    cases isUnit
    rcases kilo with rfl | rfl <;> decide
  · split at isUnit
    · rename_i mega
      cases isUnit
      rcases mega with rfl | rfl <;> decide
    · split at isUnit
      · rename_i giga
        cases isUnit
        rcases giga with rfl | rfl <;> decide
      · cases isUnit

theorem unitFactor_pos {suffix : Char} {factor : Int}
    (unit : unitFactor suffix = some factor) : 0 < factor :=
  Int.lt_of_lt_of_le (by decide) (unitFactor_isDigit unit).2

abbrev withoutUnit (value : String) : String := String.ofList value.toList.dropLast

/-! What the correction makes of the last character. -/

section

variable {value : String} {suffix : Char} {errnoIsRange : Bool}

theorem popBack_of_last (last : value.toList.getLast? = some suffix) :
    popBack value = .ok (withoutUnit value) := by
  have nonempty : value.isEmpty = false := by
    rw [Bool.eq_false_iff]
    intro empty
    rw [String.isEmpty_iff.mp empty] at last
    cases last
  rw [popBack, nonempty]
  rfl

theorem suffixCorrection_of_digit (last : value.toList.getLast? = some suffix)
    (isDigit : suffix.isDigit = true) : suffixCorrection value errnoIsRange = .ok value := by
  rw [suffixCorrection, last]
  dsimp only
  rw [popBack_of_last last]
  simp only [bind, Except.bind]
  rw [if_pos isDigit]
  rfl

theorem suffixCorrection_of_other (last : value.toList.getLast? = some suffix)
    (notDigit : ¬ suffix.isDigit = true) (noUnit : unitFactor suffix = none) :
    suffixCorrection value errnoIsRange =
      .error (.badSuffixError ("Bad suffix on setting value " ++ value)) := by
  rw [suffixCorrection, last]
  dsimp only
  rw [popBack_of_last last]
  simp only [bind, Except.bind]
  rw [if_neg notDigit, noUnit]
  rfl

theorem suffixCorrection_of_unit {factor : Int} (last : value.toList.getLast? = some suffix)
    (unit : unitFactor suffix = some factor) :
    suffixCorrection value errnoIsRange =
      convertToBytes (withoutUnit value) factor errnoIsRange := by
  have notDigit : ¬ suffix.isDigit = true := by simp [(unitFactor_isDigit unit).1]
  rw [suffixCorrection, last]
  dsimp only
  rw [popBack_of_last last]
  simp only [bind, Except.bind]
  rw [if_neg notDigit, unit]

end

theorem convertToBytes_parses {value : String} {factor : Int} {errnoIsRange : Bool}
    {result : Except Fault String} (positive : 0 < factor)
    (noUnderflow : LLONG_MIN ≤ (strtoll value).1 * factor)
    (converted : convertToBytes value factor errnoIsRange = result) : Parses result IsLimit := by
  rw [convertToBytes] at converted
  dsimp only at converted
  split at converted
  · rw [← converted]
    rfl
  · split at converted
    · rw [← converted]
      rfl
    · rename_i small
      rw [if_neg (Int.not_lt.mpr noUnderflow)] at converted
      rw [← converted]
      refine ⟨_, stoInteger_toString ⟨noUnderflow, ?_⟩⟩
      exact Int.mul_le_of_le_ediv positive (Int.not_lt.mp small)

theorem suffixCorrection_parses {value : String} (converts : Converts value)
    (errnoIsRange : Bool) : Parses (suffixCorrection value errnoIsRange) IsLimit := by
  obtain ⟨suffix, last, digit, unit⟩ := converts
  by_cases isDigit : suffix.isDigit = true
  · rw [suffixCorrection_of_digit last isDigit]
    exact digit isDigit
  · cases factored : unitFactor suffix with
    | none =>
        rw [suffixCorrection_of_other last isDigit factored]
        rfl
    | some factor =>
        rw [suffixCorrection_of_unit last factored]
        generalize converted : convertToBytes (withoutUnit value) factor errnoIsRange = result
        exact convertToBytes_parses (unitFactor_pos factored) (unit factor factored) converted

theorem comparable_empty : Comparable ∅ where
  memory key _ _ found := by
    rw [Std.ExtTreeMap.getElem?_empty] at found
    cases found
  cpuShares _ found := by
    rw [Std.ExtTreeMap.getElem?_empty] at found
    cases found

theorem Comparable.insert {settings : CgroupSettings} (comparable : Comparable settings)
    {key value : String} (limit : isMemoryLimit key → IsLimit value)
    (shares : key = "cpu.shares" → ∃ shares, stoi value = .ok shares) :
    Comparable (settings.insert key value) where
  memory other stored isLimit found := by
    rw [Std.ExtTreeMap.getElem?_insert] at found
    split at found
    · rename_i same
      cases found
      rw [Std.compare_eq_iff_eq] at same
      exact limit (same ▸ isLimit)
    · exact comparable.memory other stored isLimit found
  cpuShares stored found := by
    rw [Std.ExtTreeMap.getElem?_insert] at found
    split at found
    · rename_i same
      cases found
      rw [Std.compare_eq_iff_eq] at same
      exact shares same
    · exact comparable.cpuShares stored found

theorem isMemoryLimit_ne_cpuShares {key : String} (isLimit : isMemoryLimit key) :
    key ≠ "cpu.shares" := by
  rcases isLimit with rfl | rfl <;> decide

theorem storeMemoryLimit_parses {settings : CgroupSettings}
    (comparable : Comparable settings) {key value : String} (isLimit : isMemoryLimit key)
    (converts : Converts value) (errnoIsRange : Bool) :
    Parses (storeMemoryLimit key value errnoIsRange settings) Comparable := by
  have corrected := suffixCorrection_parses converts errnoIsRange
  rw [storeMemoryLimit]
  cases same : suffixCorrection value errnoIsRange with
  | error error =>
      rw [same] at corrected
      exact corrected
  | ok bytes =>
      rw [same] at corrected
      obtain ⟨limit, isNumber⟩ := corrected
      have inserted : Comparable (settings.insert key bytes) :=
        comparable.insert (fun _ => ⟨limit, isNumber⟩)
          fun isShares => absurd isShares (isMemoryLimit_ne_cpuShares isLimit)
      cases found : settings[key]? with
      | none => exact inserted
      | some stored =>
          obtain ⟨storedLimit, storedIsNumber⟩ := comparable.memory key stored isLimit found
          simp only [storedIsNumber, isNumber, bind, Except.bind]
          split
          · exact comparable
          · exact inserted

theorem storeCpuShares_parses {settings : CgroupSettings}
    (comparable : Comparable settings) (value : String) :
    Parses (storeCpuShares "cpu.shares" value settings) Comparable := by
  rw [storeCpuShares]
  cases converted : stoi value with
  | error error => cases error <;> rfl
  | ok newValue =>
      have inserted : Comparable (settings.insert "cpu.shares" (toString newValue)) :=
        comparable.insert (fun isLimit => absurd rfl (isMemoryLimit_ne_cpuShares isLimit))
          fun _ => ⟨newValue, stoInteger_toString (stoInteger_bounds converted)⟩
      dsimp only
      split
      · rfl
      · cases found : settings["cpu.shares"]? with
        | none => exact inserted
        | some stored =>
            obtain ⟨shares, isNumber⟩ := comparable.cpuShares stored found
            simp only [isNumber, bind, Except.bind]
            split
            · exact comparable
            · exact inserted

theorem storeClassId_parses {settings : CgroupSettings}
    (comparable : Comparable settings) (value : String) :
    Parses (storeClassId "net_cls.classid" value settings) Comparable := by
  rw [storeClassId]
  split
  · rfl
  · dsimp only
    split
    · rfl
    · exact comparable.insert
        (fun isLimit => by rcases isLimit with same | same <;> exact absurd same (by decide))
        fun same => absurd same (by decide)

theorem parseCGroupsGatewayConfiguration_parses {settings : CgroupSettings}
    (comparable : Comparable settings) {element : Json} (fits : Fits element)
    (errnoIsRange : Bool) :
    Parses (parseCGroupsGatewayConfiguration element errnoIsRange settings) Comparable := by
  rw [parseCGroupsGatewayConfiguration]
  cases keyed : JSONParser.readString element "setting" with
  | none => rfl
  | some key =>
      cases valued : JSONParser.readString element "value" with
      | none => rfl
      | some value =>
          dsimp only
          split
          · rename_i isLimit
            exact storeMemoryLimit_parses comparable isLimit
              (fits key value keyed valued isLimit) errnoIsRange
          · rename_i notLimit
            split
            · rename_i isShares
              subst isShares
              exact storeCpuShares_parses comparable value
            · rename_i notShares
              split
              · rename_i isClassId
                subst isClassId
                exact storeClassId_parses comparable value
              · exact comparable.insert (fun isLimit => absurd isLimit notLimit)
                  fun isShares => absurd isShares notShares

end CGroupsParser

namespace CgroupsGateway

structure Valid (gateway : CgroupsGateway) : Prop where
  id : gateway.base.id = ID
  settings : CGroupsParser.Comparable gateway.settings

theorem sound_setItems {ok : Prop} {inv : CgroupsGateway → Prop} {may : Fault → Prop}
    (settings : List (String × String)) (success : Bool) :
    Sound ok inv may (setItems settings success) := by
  induction settings generalizing success with
  | nil => exact sound_pure success
  | cons setting rest ih =>
      obtain ⟨subsys, value⟩ := setting
      exact sound_bind (sound_onContainer_quiet (Container.quiet_setCgroupItem subsys value))
        fun _ => sound_ite (sound_pure false) (ih true)

theorem sound_hooks : hooks.Sound Valid (fun _ => False) CGroupsParser.Fits where
  state _ _ valid := ⟨valid.id, valid.settings⟩
  readConfigElement ok element fits := by
    refine sound_bind (sound_sys rfl) fun errnoIsRange => ?_
    refine sound_getGateway_bind fun self valid => ?_
    cases parsed : CGroupsParser.parseCGroupsGatewayConfiguration element errnoIsRange
        self.settings with
    | ok settings =>
        refine sound_bind (sound_modifyGateway fun fine _ validOther =>
          ⟨validOther.id, ?_⟩) fun _ => sound_pure true
        have parses := CGroupsParser.parseCGroupsGatewayConfiguration_parses
          (valid fine).settings (fits fine) errnoIsRange
        rw [parsed] at parses
        exact parses
    | error error =>
        refine sound_ite (sound_pure false) (sound_throw fun fine => .inl ?_)
        have parses := CGroupsParser.parseCGroupsGatewayConfiguration_parses
          (valid fine).settings (fits fine) errnoIsRange
        rw [parsed] at parses
        exact Fault.isSoftwareContainerError_of_isCgroupsGatewayError parses
  activateGateway ok := sound_getGateway_bind fun self _ => sound_setItems _ false
  teardownGateway := nothingToTearDown_keeps

end CgroupsGateway

end SoftwareContainers
