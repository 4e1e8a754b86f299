import SoftwareContainers.Effect.Invariant
import SoftwareContainers.Gateways.CgroupsValues

namespace SoftwareContainers

open Effect Effect.Act Hook

/-! Elements that the cgroups parser cannot refuse in an orderly way, and those that an
earlier one makes it refuse. -/

namespace CGroupsParser

/-- The parser returns or throws one of its own errors, and it returns if it does so
without what is stored. -/
structure ParsesCleanly (result alone : Except Fault CgroupSettings) : Prop where
  parses : Parses result fun _ => True
  independent : (∃ after, alone = .ok after) → ∃ after, result = .ok after

/-- A limit is read from the value: it ends in a digit, or the conversion does not refuse the
number before the unit. -/
def GivesLimit (value : String) (errnoIsRange : Bool) : Prop :=
  ∃ suffix, value.toList.getLast? = some suffix ∧
    (suffix.isDigit = true ∨
      ∃ factor, unitFactor suffix = some factor ∧
        ¬ Refused (withoutUnit value) factor errnoIsRange)

/-- A memory limit that is handled: there is a last character, the multiplication does not
overflow, and two limits that are compared are numbers. -/
structure IsHandled (settings : CgroupSettings) (errnoIsRange : Bool) (key value : String) :
    Prop where
  nonempty : value ≠ ""
  noUnderflow : ∀ suffix factor, value.toList.getLast? = some suffix →
    unitFactor suffix = some factor → ¬ Refused (withoutUnit value) factor errnoIsRange →
      LLONG_MIN ≤ (strtoll (withoutUnit value)).1 * factor
  stored : ∀ stored, settings[key]? = some stored → GivesLimit value errnoIsRange →
    IsLimit stored
  compared : ∀ stored suffix, settings[key]? = some stored →
    value.toList.getLast? = some suffix → suffix.isDigit = true → IsLimit value

theorem toList_getLast?_eq_none {value : String} (last : value.toList.getLast? = none) :
    value = "" := by
  rw [List.getLast?_eq_none_iff] at last
  apply String.toList_inj.mp
  exact last

section

variable {settings : CgroupSettings} {key value : String} {errnoIsRange : Bool}

theorem storeMemoryLimit_of_error {error : Fault}
    (corrected : suffixCorrection value errnoIsRange = .error error) :
    storeMemoryLimit key value errnoIsRange settings = .error error := by
  rw [storeMemoryLimit, corrected]
  rfl

theorem storeMemoryLimit_of_fresh {limit : String}
    (corrected : suffixCorrection value errnoIsRange = .ok limit)
    (fresh : settings[key]? = none) :
    storeMemoryLimit key value errnoIsRange settings = .ok (settings.insert key limit) := by
  rw [storeMemoryLimit, corrected]
  simp only [bind, Except.bind]
  rw [fresh]
  rfl

theorem storeMemoryLimit_of_stored {limit stored : String}
    (corrected : suffixCorrection value errnoIsRange = .ok limit)
    (found : settings[key]? = some stored) :
    ParsesCleanly (storeMemoryLimit key value errnoIsRange settings)
        (storeMemoryLimit key value errnoIsRange ∅) ↔
      IsLimit stored ∧ IsLimit limit := by
  have alone := storeMemoryLimit_of_fresh corrected
    (Std.ExtTreeMap.getElem?_empty : (∅ : CgroupSettings)[key]? = none)
  rw [alone, storeMemoryLimit, corrected]
  simp only [bind, Except.bind]
  rw [found]
  dsimp only
  cases storedRead : stoll stored with
  | error error =>
      constructor
      · intro cleanly
        obtain ⟨after, impossible⟩ := cleanly.independent ⟨_, rfl⟩
        cases impossible
      · rintro ⟨⟨number, isNumber⟩, _⟩
        cases storedRead.symm.trans isNumber
  | ok storedNumber =>
      cases limitRead : stoll limit with
      | error error =>
          constructor
          · intro cleanly
            obtain ⟨after, impossible⟩ := cleanly.independent ⟨_, rfl⟩
            cases impossible
          · rintro ⟨_, number, isNumber⟩
            cases limitRead.symm.trans isNumber
      | ok limitNumber =>
          refine ⟨fun _ => ⟨⟨_, storedRead⟩, _, limitRead⟩, fun _ => ?_⟩
          dsimp only
          split
          · exact ⟨trivial, fun _ => ⟨_, rfl⟩⟩
          · exact ⟨trivial, fun _ => ⟨_, rfl⟩⟩

theorem parsesCleanly_of_error {error : Fault}
    (corrected : suffixCorrection value errnoIsRange = .error error) :
    ParsesCleanly (storeMemoryLimit key value errnoIsRange settings)
        (storeMemoryLimit key value errnoIsRange ∅) ↔
      error.isCgroupsGatewayError = true := by
  rw [storeMemoryLimit_of_error corrected, storeMemoryLimit_of_error corrected]
  exact ⟨fun cleanly => cleanly.parses, fun own => ⟨own, nofun⟩⟩

theorem parsesCleanly_of_ok {limit : String}
    (corrected : suffixCorrection value errnoIsRange = .ok limit) :
    ParsesCleanly (storeMemoryLimit key value errnoIsRange settings)
        (storeMemoryLimit key value errnoIsRange ∅) ↔
      ∀ stored, settings[key]? = some stored → IsLimit stored ∧ IsLimit limit := by
  cases found : settings[key]? with
  | none =>
      rw [storeMemoryLimit_of_fresh corrected found]
      exact ⟨fun _ => nofun, fun _ => ⟨trivial, fun _ => ⟨_, rfl⟩⟩⟩
  | some stored =>
      rw [storeMemoryLimit_of_stored corrected found]
      refine ⟨?_, fun both => both stored rfl⟩
      intro both other same
      cases same
      exact both

theorem parsesCleanly_of_unit {suffix : Char} {factor : Int}
    (last : value.toList.getLast? = some suffix) (unit : unitFactor suffix = some factor) :
    ParsesCleanly (storeMemoryLimit key value errnoIsRange settings)
        (storeMemoryLimit key value errnoIsRange ∅) ↔
      (¬ Refused (withoutUnit value) factor errnoIsRange →
        LLONG_MIN ≤ (strtoll (withoutUnit value)).1 * factor ∧
        ∀ stored, settings[key]? = some stored → IsLimit stored) := by
  have corrected := @suffixCorrection_of_unit _ _ errnoIsRange _ last unit
  by_cases refused : Refused (withoutUnit value) factor errnoIsRange
  · obtain ⟨message, thrown⟩ := convertToBytes_of_refused refused
    rw [parsesCleanly_of_error (corrected.trans thrown)]
    exact ⟨fun _ accepted => absurd refused accepted, fun _ => rfl⟩
  · rw [convertToBytes_of_not_refused refused] at corrected
    split at corrected
    · rename_i underflow
      rw [parsesCleanly_of_error corrected]
      refine ⟨nofun, fun handled => ?_⟩
      exact absurd underflow (Int.not_lt.mpr (handled refused).1)
    · rename_i noUnderflow
      rw [parsesCleanly_of_ok corrected]
      have isLimit : IsLimit (toString ((strtoll (withoutUnit value)).1 * factor)) := by
        refine ⟨_, stoInteger_toString ⟨Int.not_lt.mp noUnderflow, ?_⟩⟩
        apply Int.mul_le_of_le_ediv (unitFactor_pos unit)
        exact Int.not_lt.mp fun large => refused (.inr large)
      constructor
      · intro both _
        exact ⟨Int.not_lt.mp noUnderflow, fun stored found => (both stored found).1⟩
      · intro handled stored found
        exact ⟨(handled refused).2 stored found, isLimit⟩

theorem storeMemoryLimit_parsesCleanly_iff :
    ParsesCleanly (storeMemoryLimit key value errnoIsRange settings)
        (storeMemoryLimit key value errnoIsRange ∅) ↔
      IsHandled settings errnoIsRange key value := by
  cases last : value.toList.getLast? with
  | none =>
      have thrown : suffixCorrection value errnoIsRange = .error .undefined := by
        rw [suffixCorrection, last]
        rfl
      rw [parsesCleanly_of_error thrown]
      refine ⟨fun own => ?_, fun handled => ?_⟩
      · cases own
      · exact absurd (toList_getLast?_eq_none last) handled.nonempty
  | some suffix =>
      have nonempty : value ≠ "" := by
        rintro rfl
        cases last
      by_cases isDigit : suffix.isDigit = true
      · rw [parsesCleanly_of_ok (suffixCorrection_of_digit last isDigit)]
        constructor
        · intro both
          refine ⟨nonempty, fun other factor otherLast unit => ?_,
            fun stored found _ => (both stored found).1,
            fun stored _ found _ _ => (both stored found).2⟩
          cases last.symm.trans otherLast
          rw [(unitFactor_isDigit unit).1] at isDigit
          cases isDigit
        · intro handled stored found
          exact ⟨handled.stored stored found ⟨suffix, last, .inl isDigit⟩,
            handled.compared stored suffix found last isDigit⟩
      · cases unit : unitFactor suffix with
        | none =>
            rw [parsesCleanly_of_error (suffixCorrection_of_other last isDigit unit)]
            refine ⟨fun _ => ⟨nonempty, fun other factor otherLast otherUnit => ?_,
              fun stored found gives => ?_, fun _ other _ otherLast otherDigit => ?_⟩,
              fun _ => rfl⟩
            · cases last.symm.trans otherLast
              cases unit.symm.trans otherUnit
            · obtain ⟨other, otherLast, given⟩ := gives
              cases last.symm.trans otherLast
              rcases given with digit | ⟨factor, otherUnit, _⟩
              · exact absurd digit isDigit
              · cases unit.symm.trans otherUnit
            · cases last.symm.trans otherLast
              exact absurd otherDigit isDigit
        | some factor =>
            rw [parsesCleanly_of_unit last unit]
            constructor
            · intro handled
              refine ⟨nonempty, fun other otherFactor otherLast otherUnit accepted => ?_,
                fun stored found gives => ?_, fun _ other _ otherLast otherDigit => ?_⟩
              · cases last.symm.trans otherLast
                cases unit.symm.trans otherUnit
                exact (handled accepted).1
              · obtain ⟨other, otherLast, given⟩ := gives
                cases last.symm.trans otherLast
                rcases given with digit | ⟨otherFactor, otherUnit, accepted⟩
                · exact absurd digit isDigit
                · cases unit.symm.trans otherUnit
                  exact (handled accepted).2 stored found
              · cases last.symm.trans otherLast
                exact absurd otherDigit isDigit
            · intro handled accepted
              exact ⟨handled.noUnderflow suffix factor last unit accepted,
                fun stored found => handled.stored stored found
                  ⟨suffix, last, .inr ⟨factor, unit, accepted⟩⟩⟩

end

def SharesReadable (settings : CgroupSettings) : Prop :=
  ∀ stored, settings["cpu.shares"]? = some stored → ∃ shares, stoi stored = .ok shares

section

variable {settings after : CgroupSettings} {key value : String} {errnoIsRange : Bool}

theorem sharesReadable_empty : SharesReadable ∅ := comparable_empty.cpuShares

theorem SharesReadable.insert (readable : SharesReadable settings) (other : key ≠ "cpu.shares") :
    SharesReadable (settings.insert key value) := by
  intro stored found
  rw [getElem?_insert_of_ne other.symm] at found
  exact readable stored found

theorem storeMemoryLimit_ok (stores : storeMemoryLimit key value errnoIsRange settings = .ok after) :
    after = settings ∨ ∃ limit, after = settings.insert key limit := by
  cases corrected : suffixCorrection value errnoIsRange with
  | error error =>
      rw [storeMemoryLimit_of_error corrected] at stores
      cases stores
  | ok limit =>
      cases found : settings[key]? with
      | none =>
          rw [storeMemoryLimit_of_fresh corrected found] at stores
          cases stores
          exact .inr ⟨limit, rfl⟩
      | some stored =>
          rw [storeMemoryLimit, corrected] at stores
          simp only [bind, Except.bind, found] at stores
          split at stores
          · cases stores
          · split at stores
            · cases stores
            · split at stores
              · cases stores
                exact .inl rfl
              · cases stores
                exact .inr ⟨limit, rfl⟩

theorem storeCpuShares_cases (readable : SharesReadable settings) (value : String) :
    (∃ error, error.isCgroupsGatewayError = true ∧
        ∀ other, storeCpuShares "cpu.shares" value other = .error error) ∨
      ∃ after, storeCpuShares "cpu.shares" value settings = .ok after ∧
        SharesReadable after := by
  unfold storeCpuShares
  cases converted : stoi value with
  | error error =>
      left
      cases error <;> exact ⟨_, rfl, fun _ => rfl⟩
  | ok newValue =>
      dsimp only
      by_cases small : newValue < 2
      · left
        refine ⟨.invalidInputError "Value of cpu.shares must be at least 2", rfl, fun _ => ?_⟩
        rw [if_pos small]
        rfl
      · right
        have inserted : SharesReadable (settings.insert "cpu.shares" (toString newValue)) := by
          intro stored found
          rw [Std.ExtTreeMap.getElem?_insert_self] at found
          cases found
          exact ⟨newValue, stoInteger_toString (stoInteger_bounds converted)⟩
        rw [if_neg small]
        cases found : settings["cpu.shares"]? with
        | none => exact ⟨_, rfl, inserted⟩
        | some stored =>
            obtain ⟨shares, isNumber⟩ := readable stored found
            simp only [isNumber, bind, Except.bind]
            split
            · exact ⟨_, rfl, readable⟩
            · exact ⟨_, rfl, inserted⟩

theorem storeClassId_cases (settings : CgroupSettings) (value : String) :
    (∃ error, error.isCgroupsGatewayError = true ∧
        ∀ other, storeClassId "net_cls.classid" value other = .error error) ∨
      storeClassId "net_cls.classid" value settings =
        .ok (settings.insert "net_cls.classid" value) := by
  unfold storeClassId
  split
  · exact .inl ⟨_, rfl, fun _ => rfl⟩
  · dsimp only
    split
    · exact .inl ⟨_, rfl, fun _ => rfl⟩
    · exact .inr rfl

theorem parsesCleanly_of_cases {store : CgroupSettings → Except Fault CgroupSettings}
    (cases : (∃ error, error.isCgroupsGatewayError = true ∧ ∀ other, store other = .error error) ∨
      ∃ after, store settings = .ok after) :
    ParsesCleanly (store settings) (store ∅) := by
  rcases cases with ⟨error, own, thrown⟩ | ⟨after, stores⟩
  · rw [thrown, thrown]
    exact ⟨own, nofun⟩
  · rw [stores]
    exact ⟨trivial, fun _ => ⟨after, rfl⟩⟩

def ElementIsHandled (settings : CgroupSettings) (errnoIsRange : Bool) (element : Json) : Prop :=
  ∀ key value, settingOf element = some (key, value) → isMemoryLimit key →
    IsHandled settings errnoIsRange key value

theorem parse_of_noSetting {element : Json} (none : settingOf element = none) :
    ∃ error, error.isCgroupsGatewayError = true ∧
      ∀ other, parseCGroupsGatewayConfiguration element errnoIsRange other = .error error := by
  unfold parseCGroupsGatewayConfiguration
  cases keyed : JSONParser.readString element "setting" with
  | none => exact ⟨_, rfl, fun _ => rfl⟩
  | some key =>
      cases valued : JSONParser.readString element "value" with
      | none => exact ⟨_, rfl, fun _ => rfl⟩
      | some value =>
          rw [settingOf, keyed, valued] at none
          cases none

def storeFor (key value : String) (errnoIsRange : Bool) (settings : CgroupSettings) :
    Except Fault CgroupSettings :=
  if key = "memory.limit_in_bytes" ∨ key = "memory.memsw.limit_in_bytes" then
    storeMemoryLimit key value errnoIsRange settings
  else if key = "cpu.shares" then storeCpuShares key value settings
  else if key = "net_cls.classid" then storeClassId key value settings
  else .ok (settings.insert key value)

theorem parse_of_setting {element : Json} (isSetting : settingOf element = some (key, value)) :
    parseCGroupsGatewayConfiguration element errnoIsRange settings =
      storeFor key value errnoIsRange settings := by
  obtain ⟨keyed, valued⟩ := settingOf_eq_some isSetting
  rw [parseCGroupsGatewayConfiguration, keyed, valued]
  rfl

theorem storeFor_of_limit (isLimit : isMemoryLimit key) :
    storeFor key value errnoIsRange settings =
      storeMemoryLimit key value errnoIsRange settings :=
  if_pos isLimit

theorem storeFor_of_other (notLimit : ¬ isMemoryLimit key) :
    storeFor key value errnoIsRange settings =
      if key = "cpu.shares" then storeCpuShares key value settings
      else if key = "net_cls.classid" then storeClassId key value settings
      else .ok (settings.insert key value) :=
  if_neg notLimit

theorem storeFor_cases (readable : SharesReadable settings) (notLimit : ¬ isMemoryLimit key) :
    (∃ error, error.isCgroupsGatewayError = true ∧
        ∀ other, storeFor key value errnoIsRange other = .error error) ∨
      ∃ after, storeFor key value errnoIsRange settings = .ok after ∧ SharesReadable after := by
  simp only [storeFor_of_other notLimit]
  by_cases isShares : key = "cpu.shares"
  · subst isShares
    exact storeCpuShares_cases readable value
  · simp only [if_neg isShares]
    by_cases isClassId : key = "net_cls.classid"
    · subst isClassId
      refine (storeClassId_cases settings value).imp id fun stores => ?_
      exact ⟨_, stores, readable.insert isShares⟩
    · simp only [if_neg isClassId]
      exact .inr ⟨_, rfl, readable.insert isShares⟩

theorem parsesCleanly_iff (readable : SharesReadable settings) (element : Json) :
    ParsesCleanly (parseCGroupsGatewayConfiguration element errnoIsRange settings)
        (parseCGroupsGatewayConfiguration element errnoIsRange ∅) ↔
      ElementIsHandled settings errnoIsRange element := by
  cases isSetting : settingOf element with
  | none =>
      refine ⟨fun _ key value impossible => ?_, fun _ => ?_⟩
      · cases isSetting.symm.trans impossible
      · exact parsesCleanly_of_cases (.inl (parse_of_noSetting isSetting))
  | some setting =>
      obtain ⟨key, value⟩ := setting
      rw [parse_of_setting isSetting, parse_of_setting isSetting]
      by_cases isLimit : isMemoryLimit key
      · rw [storeFor_of_limit isLimit, storeFor_of_limit isLimit,
          storeMemoryLimit_parsesCleanly_iff]
        refine ⟨fun handled other otherValue same _ => ?_,
          fun handled => handled key value isSetting isLimit⟩
        cases isSetting.symm.trans same
        exact handled
      · refine ⟨fun _ other otherValue same isLimitToo => ?_, fun _ => ?_⟩
        · cases isSetting.symm.trans same
          exact absurd isLimitToo isLimit
        · refine parsesCleanly_of_cases ((storeFor_cases readable isLimit).imp id ?_)
          exact fun ⟨after, stores, _⟩ => ⟨after, stores⟩

theorem sharesReadable_of_parse (readable : SharesReadable settings) {element : Json}
    (parsed : parseCGroupsGatewayConfiguration element errnoIsRange settings = .ok after) :
    SharesReadable after := by
  cases isSetting : settingOf element with
  | none =>
      obtain ⟨error, _, thrown⟩ := @parse_of_noSetting errnoIsRange element isSetting
      cases (thrown settings).symm.trans parsed
  | some setting =>
      obtain ⟨key, value⟩ := setting
      rw [parse_of_setting isSetting] at parsed
      by_cases isLimit : isMemoryLimit key
      · rw [storeFor_of_limit isLimit] at parsed
        rcases storeMemoryLimit_ok parsed with rfl | ⟨limit, rfl⟩
        · exact readable
        · exact readable.insert (isMemoryLimit_ne_cpuShares isLimit)
      · rcases storeFor_cases readable isLimit with ⟨error, _, thrown⟩ | ⟨other, stores, holds⟩
        · cases (thrown settings).symm.trans parsed
        · cases stores.symm.trans parsed
          exact holds

end

end CGroupsParser

namespace CgroupsGateway

/-- An element that is read in an orderly way: the parser returns or throws one of its own
errors, and does not throw because of what is stored; the gateway answers which of the two it
is, and is left as it was if an error is thrown. -/
structure ReadsCleanly (oracle : Oracle Sys) (world : World Sys (CgroupsGateway × Container))
    (element : Json) : Prop where
  parses : CGroupsParser.ParsesCleanly
    (CGroupsParser.parseCGroupsGatewayConfiguration element (errnoIsRangeAt oracle world)
      world.state.1.settings)
    (CGroupsParser.parseCGroupsGatewayConfiguration element (errnoIsRangeAt oracle world) ∅)
  returns : ∃ accepted, ((readConfigElement element).run oracle world).1 = .ok accepted
  unchanged : ((readConfigElement element).run oracle world).1 = .ok false →
    ((readConfigElement element).run oracle world).2.state = world.state
  accepts : (∃ after, CGroupsParser.parseCGroupsGatewayConfiguration element
      (errnoIsRangeAt oracle world) ∅ = .ok after) →
    ((readConfigElement element).run oracle world).1 = .ok true

theorem readsCleanly_iff_parsesCleanly (oracle : Oracle Sys)
    (world : World Sys (CgroupsGateway × Container)) (element : Json) :
    ReadsCleanly oracle world element ↔
      CGroupsParser.ParsesCleanly
        (CGroupsParser.parseCGroupsGatewayConfiguration element (errnoIsRangeAt oracle world)
          world.state.1.settings)
        (CGroupsParser.parseCGroupsGatewayConfiguration element (errnoIsRangeAt oracle world)
          ∅) := by
  refine ⟨fun cleanly => cleanly.parses, fun cleanly => ?_⟩
  cases parsed : CGroupsParser.parseCGroupsGatewayConfiguration element
      (errnoIsRangeAt oracle world) world.state.1.settings with
  | ok settings =>
      obtain ⟨returned, _⟩ := run_readConfigElement_of_ok parsed
      refine ⟨cleanly, ⟨true, returned⟩, fun refused => ?_, fun _ => returned⟩
      cases returned.symm.trans refused
  | error error =>
      obtain ⟨returned, same⟩ := run_readConfigElement_of_error parsed
      have own : error.isCgroupsGatewayError = true := by
        have parses := cleanly.parses
        rw [parsed] at parses
        exact parses
      rw [if_pos own] at returned
      refine ⟨cleanly, ⟨false, returned⟩, fun _ => same, fun alone => ?_⟩
      obtain ⟨after, impossible⟩ := cleanly.independent alone
      cases parsed.symm.trans impossible

theorem sharesReadable_readConfigElement (oracle : Oracle Sys) (element : Json)
    (world : World Sys (CgroupsGateway × Container))
    (readable : CGroupsParser.SharesReadable world.state.1.settings) :
    CGroupsParser.SharesReadable
      ((readConfigElement element).run oracle world).2.state.1.settings := by
  cases parsed : CGroupsParser.parseCGroupsGatewayConfiguration element
      (errnoIsRangeAt oracle world) world.state.1.settings with
  | ok settings =>
      rw [(run_readConfigElement_of_ok parsed).2]
      exact CGroupsParser.sharesReadable_of_parse readable parsed
  | error error =>
      rw [(run_readConfigElement_of_error parsed).2]
      exact readable

/-- **A configuration fails cleanly** exactly when each of its memory limits is handled, at
what is stored when it comes. -/
theorem reads_cleanly_iff (oracle : Oracle Sys) (elements : List Json) (container : Container)
    (history : History Sys) :
    Throughout readConfigElement oracle (ReadsCleanly oracle) elements
        ⟨(new, container), history⟩ ↔
      Throughout readConfigElement oracle
        (fun world element => CGroupsParser.ElementIsHandled world.state.1.settings
          (errnoIsRangeAt oracle world) element)
        elements ⟨(new, container), history⟩ := by
  refine @throughout_congr _ _ _ _ _
    (fun state : CgroupsGateway × Container => CGroupsParser.SharesReadable state.1.settings)
    _ _ _ _ (sharesReadable_readConfigElement oracle) ?_ elements _
    CGroupsParser.sharesReadable_empty
  intro element world readable
  rw [readsCleanly_iff_parsesCleanly]
  exact CGroupsParser.parsesCleanly_iff readable element

/-- A value that is not a number in 64 bits is stored, and the next one cannot be compared
with it. -/
theorem reads_not_cleanly :
    ¬ ∀ (oracle : Oracle Sys) (elements : List Json) (container : Container)
      (history : History Sys),
      Throughout readConfigElement oracle (ReadsCleanly oracle) elements
        ⟨(new, container), history⟩ := by
  intro cleanly
  have holds := cleanly fortunate
    [.object [("setting", .string "memory.limit_in_bytes"),
      ("value", .string "99999999999999999999")],
    .object [("setting", .string "memory.limit_in_bytes"), ("value", .string "1")]]
    (.new "SC-0" "/etc/sc.conf" "/tmp/container" true 2) []
  obtain ⟨accepted, returned⟩ := holds.2.1.returns
  revert returned
  cases accepted <;> decide +kernel

end CgroupsGateway

end SoftwareContainers
