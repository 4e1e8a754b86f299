import SoftwareContainers.Gateways.CgroupsWhitelist

namespace SoftwareContainers

open Effect Effect.Act Hook

/-! Which values the cgroups parser takes, and what it makes of them. -/

/-- The number of a text of digits that may have a sign before them. -/
def signedDecimal : List Char → Option Int
  | '-' :: digits => (decimal digits).map fun (magnitude : Nat) => -(magnitude : Int)
  | '+' :: digits => (decimal digits).map fun (magnitude : Nat) => (magnitude : Int)
  | digits => (decimal digits).map fun (magnitude : Nat) => (magnitude : Int)

theorem decimalPrefix_of_signedDecimal {text : String} {value : Int}
    (isDecimal : signedDecimal text.toList = some value) : decimalPrefix text = some value := by
  unfold signedDecimal at isDecimal
  split at isDecimal
  · rename_i digits written
    obtain ⟨magnitude, found, rfl⟩ := Option.map_eq_some_iff.mp isDecimal
    obtain ⟨nonempty, all, readBack⟩ := decimal_eq_some.mp found
    obtain ⟨first, rest, rfl⟩ := List.exists_cons_of_ne_nil nonempty
    rw [decimalPrefix, written, List.dropWhile_cons_of_neg (by decide)]
    simp only [takeWhile_isDigit all, readBack]
    rfl
  · rename_i digits written
    obtain ⟨magnitude, found, rfl⟩ := Option.map_eq_some_iff.mp isDecimal
    obtain ⟨nonempty, all, readBack⟩ := decimal_eq_some.mp found
    obtain ⟨first, rest, rfl⟩ := List.exists_cons_of_ne_nil nonempty
    rw [decimalPrefix, written, List.dropWhile_cons_of_neg (by decide)]
    simp only [takeWhile_isDigit all, readBack]
    rfl
  · obtain ⟨magnitude, found, rfl⟩ := Option.map_eq_some_iff.mp isDecimal
    exact decimalPrefix_of_decimal found

def Representable (value : Int) : Prop := LLONG_MIN ≤ value ∧ value ≤ LLONG_MAX

theorem strtoll_of_signedDecimal {text : String} {value : Int}
    (isDecimal : signedDecimal text.toList = some value) (representable : Representable value) :
    strtoll text = (value, false) := by
  rw [strtoll, decimalPrefix_of_signedDecimal isDecimal]
  dsimp only
  rw [if_neg (Int.not_lt.mpr representable.2), if_neg (Int.not_lt.mpr representable.1)]

namespace CGroupsParser

/-- The number read before the unit is at a limit of its type with `errno` set, or the
division says that the product is too large. -/
def Refused (settingValue : String) (factor : Int) (errnoIsRange : Bool) : Prop :=
  (((strtoll settingValue).1 = LLONG_MAX ∨ (strtoll settingValue).1 = LLONG_MIN) ∧
      ((strtoll settingValue).2 || errnoIsRange) = true) ∨
    (strtoll settingValue).1 > LLONG_MAX / factor

/-- Whatever is returned is the product of a decimal number and the factor, and only what
has no such product is refused. -/
def ConvertsExactly (settingValue : List Char) (factor : Int) (result : Except Fault String) :
    Prop :=
  match result with
  | .ok converted => ∃ number, signedDecimal settingValue = some number ∧
      Representable (number * factor) ∧ converted = toString (number * factor)
  | .error error => error.isCgroupsGatewayError = true ∧
      ∀ number, signedDecimal settingValue = some number → ¬ Representable (number * factor)

section

variable {settingValue : String} {factor : Int} {errnoIsRange : Bool}

theorem convertToBytes_of_refused (refused : Refused settingValue factor errnoIsRange) :
    ∃ message, convertToBytes settingValue factor errnoIsRange =
      .error (.limitRangeError message) := by
  rw [convertToBytes]
  dsimp only
  rcases refused with atLimit | tooLarge
  · rw [if_pos atLimit]
    exact ⟨_, rfl⟩
  · rw [if_pos tooLarge]
    split <;> exact ⟨_, rfl⟩

theorem convertToBytes_of_not_refused (accepted : ¬ Refused settingValue factor errnoIsRange) :
    convertToBytes settingValue factor errnoIsRange =
      if (strtoll settingValue).1 * factor < LLONG_MIN then .error .undefined
      else .ok (toString ((strtoll settingValue).1 * factor)) := by
  rw [convertToBytes]
  dsimp only
  rw [if_neg fun atLimit => accepted (.inl atLimit), if_neg fun large => accepted (.inr large)]
  split <;> rfl

theorem representable_of_mul {number : Int} (isUnit : 2 ≤ factor)
    (product : Representable (number * factor)) :
    LLONG_MIN < number ∧ number < LLONG_MAX := by
  obtain ⟨low, high⟩ := product
  constructor
  · by_contra small
    have twice : number * factor ≤ number * 2 :=
      Int.mul_le_mul_of_nonpos_left (by simp only [LLONG_MIN] at small; omega) isUnit
    simp only [LLONG_MIN] at small low
    omega
  · by_contra large
    have twice : number * 2 ≤ number * factor :=
      Int.mul_le_mul_of_nonneg_left isUnit (by simp only [LLONG_MAX] at large; omega)
    simp only [LLONG_MAX] at large high
    omega

theorem not_refused_of_representable {number : Int}
    (isDecimal : signedDecimal settingValue.toList = some number) (isUnit : 2 ≤ factor)
    (product : Representable (number * factor)) : ¬ Refused settingValue factor errnoIsRange := by
  obtain ⟨low, high⟩ := representable_of_mul isUnit product
  rw [Refused, strtoll_of_signedDecimal isDecimal ⟨Int.le_of_lt low, Int.le_of_lt high⟩]
  rintro (⟨atLimit, _⟩ | tooLarge)
  · rcases atLimit with rfl | rfl
    · exact Int.lt_irrefl _ high
    · exact Int.lt_irrefl _ low
  · exact Int.not_lt.mpr (Int.le_ediv_of_mul_le (by omega) product.2) tooLarge

/-- A decimal number whose product does not underflow is read as it is written, or it is
refused. -/
theorem strtoll_of_not_refused {number : Int}
    (isDecimal : signedDecimal settingValue.toList = some number) (isUnit : 2 ≤ factor)
    (noUnderflow : LLONG_MIN ≤ number * factor)
    (accepted : ¬ Refused settingValue factor errnoIsRange) :
    (strtoll settingValue).1 = number := by
  have low : LLONG_MIN ≤ number := by
    by_contra small
    have twice : number * factor ≤ number * 2 :=
      Int.mul_le_mul_of_nonpos_left (by simp only [LLONG_MIN] at small; omega) isUnit
    simp only [LLONG_MIN] at small noUnderflow
    omega
  by_cases high : number ≤ LLONG_MAX
  · rw [strtoll_of_signedDecimal isDecimal ⟨low, high⟩]
  · refine absurd (.inl ?_) accepted
    have clamped : strtoll settingValue = (LLONG_MAX, true) := by
      rw [strtoll, decimalPrefix_of_signedDecimal isDecimal]
      exact if_pos (Int.not_le.mp high)
    rw [clamped]
    exact ⟨.inl rfl, rfl⟩

theorem convertsExactly_iff (isUnit : 2 ≤ factor) :
    ConvertsExactly settingValue.toList factor
        (convertToBytes settingValue factor errnoIsRange) ↔
      (∃ number, signedDecimal settingValue.toList = some number ∧
        LLONG_MIN ≤ number * factor) ∨ Refused settingValue factor errnoIsRange := by
  by_cases refused : Refused settingValue factor errnoIsRange
  · obtain ⟨message, thrown⟩ := convertToBytes_of_refused refused
    rw [thrown]
    refine ⟨fun _ => .inr refused, fun _ => ⟨rfl, fun number isDecimal product => ?_⟩⟩
    exact not_refused_of_representable isDecimal isUnit product refused
  · rw [convertToBytes_of_not_refused refused, or_iff_left refused]
    split
    · rename_i underflow
      constructor
      · exact fun exact' => absurd exact'.1 (by decide)
      · rintro ⟨number, isDecimal, noUnderflow⟩
        rw [strtoll_of_not_refused isDecimal isUnit noUnderflow refused] at underflow
        exact absurd underflow (Int.not_lt.mpr noUnderflow)
    · rename_i noUnderflow
      constructor
      · rintro ⟨number, isDecimal, product, _⟩
        exact ⟨number, isDecimal, product.1⟩
      · rintro ⟨number, isDecimal, low⟩
        have same := strtoll_of_not_refused isDecimal isUnit low refused
        refine ⟨number, isDecimal, ⟨low, ?_⟩, by rw [same]⟩
        refine Int.mul_le_of_le_ediv (by omega) (Int.not_lt.mp fun large => refused (.inr ?_))
        rw [same]
        exact large

end

/-- **Memory suffix conversion is exact** for a number whose product does not underflow, and
where the conversion is refused. -/
theorem suffixCorrection_exact_iff {settingValue : String} {suffix : Char} {factor : Int}
    (last : settingValue.toList.getLast? = some suffix) (unit : unitFactor suffix = some factor)
    (errnoIsRange : Bool) :
    ConvertsExactly settingValue.toList.dropLast factor
        (suffixCorrection settingValue errnoIsRange) ↔
      (∃ number, signedDecimal settingValue.toList.dropLast = some number ∧
        LLONG_MIN ≤ number * factor) ∨
      Refused (String.ofList settingValue.toList.dropLast) factor errnoIsRange := by
  have exact' := @convertsExactly_iff (String.ofList settingValue.toList.dropLast) factor
    errnoIsRange (unitFactor_isDigit unit).2
  rw [String.toList_ofList] at exact'
  rw [suffixCorrection_of_unit last unit]
  exact exact'

theorem suffixCorrection_exact_kilo :
    ConvertsExactly "12k".toList.dropLast 1024 (suffixCorrection "12k" false) ↔
      (∃ number, signedDecimal "12k".toList.dropLast = some number ∧ LLONG_MIN ≤ number * 1024) ∨
      Refused (String.ofList "12k".toList.dropLast) 1024 false :=
  suffixCorrection_exact_iff (show _ = some 'k' by decide) (by decide) false

/-- A value that is no number becomes 0. -/
theorem suffix_without_number :
    ¬ ∀ (settingValue : String) (suffix : Char) (factor : Int) (errnoIsRange : Bool),
      settingValue.toList.getLast? = some suffix → unitFactor suffix = some factor →
      ConvertsExactly settingValue.toList.dropLast factor
        (suffixCorrection settingValue errnoIsRange) := by
  intro exact'
  have holds := exact' "junkk" 'k' 1024 false (by decide) (by decide)
  have returned : suffixCorrection "junkk" false = .ok "0" := by decide +kernel
  rw [returned] at holds
  obtain ⟨number, isDecimal, _⟩ := holds
  have none : signedDecimal "junkk".toList.dropLast = none := by decide +kernel
  rw [none] at isDecimal
  cases isDecimal

theorem parse_classId {element : Json} {value : String}
    (given : settingOf element = some ("net_cls.classid", value)) (errnoIsRange : Bool)
    (settings : CgroupSettings) :
    (∃ digits, IsHandle value digits) ∧
        parseCGroupsGatewayConfiguration element errnoIsRange settings =
          .ok (settings.insert "net_cls.classid" value) ∨
      (¬ ∃ digits, IsHandle value digits) ∧ ∃ error,
        parseCGroupsGatewayConfiguration element errnoIsRange settings = .error error ∧
        error.isCgroupsGatewayError = true := by
  obtain ⟨keyed, valued⟩ := settingOf_eq_some given
  have isParsed : parseCGroupsGatewayConfiguration element errnoIsRange settings =
      storeClassId "net_cls.classid" value settings := by
    rw [parseCGroupsGatewayConfiguration, keyed, valued]
    rfl
  rw [isParsed]
  by_cases isHandle : ∃ digits, IsHandle value digits
  · exact .inl ⟨isHandle, storeClassId_ok_iff.mpr ⟨isHandle, rfl⟩⟩
  · refine .inr ⟨isHandle, ?_⟩
    cases stored : storeClassId "net_cls.classid" value settings with
    | ok after => exact absurd (storeClassId_ok_iff.mp stored).1 isHandle
    | error error =>
        refine ⟨error, rfl, ?_⟩
        rw [storeClassId] at stored
        dsimp only at stored
        split at stored
        · cases stored
          rfl
        · split at stored
          · cases stored
            rfl
          · cases stored

end CGroupsParser

namespace CgroupsGateway

def errnoIsRangeAt (oracle : Oracle Sys) (world : World Sys (CgroupsGateway × Container)) :
    Bool :=
  oracle world.history .errnoIsRange

theorem run_readConfigElement (element : Json) (oracle : Oracle Sys)
    (world : World Sys (CgroupsGateway × Container)) :
    (readConfigElement element).run oracle world =
      let history := world.history ++ [Event.mk (I := Sys) .errnoIsRange
        (errnoIsRangeAt oracle world)]
      match CGroupsParser.parseCGroupsGatewayConfiguration element
          (errnoIsRangeAt oracle world) world.state.1.settings with
      | .ok settings => (.ok true, ⟨({ world.state.1 with settings }, world.state.2), history⟩)
      | .error error =>
          (if error.isCgroupsGatewayError then .ok false else .error error,
            ⟨world.state, history⟩) := by
  rw [readConfigElement, run_ask_bind]
  dsimp only [getGateway]
  rw [run_bind_ok (show (_ >>= _ : Hook CgroupsGateway CgroupsGateway).run _ _ = _ from rfl)]
  dsimp only [errnoIsRangeAt]
  cases CGroupsParser.parseCGroupsGatewayConfiguration element
      (oracle world.history .errnoIsRange) world.state.1.settings with
  | ok settings => rfl
  | error error =>
      dsimp only
      split <;> rfl

section

variable {element : Json} {oracle : Oracle Sys} {world : World Sys (CgroupsGateway × Container)}

theorem run_readConfigElement_of_ok {settings : CgroupSettings}
    (parsed : CGroupsParser.parseCGroupsGatewayConfiguration element
      (errnoIsRangeAt oracle world) world.state.1.settings = .ok settings) :
    ((readConfigElement element).run oracle world).1 = .ok true ∧
      ((readConfigElement element).run oracle world).2.state =
        ({ world.state.1 with settings }, world.state.2) := by
  rw [run_readConfigElement, parsed]
  exact ⟨rfl, rfl⟩

theorem run_readConfigElement_of_error {error : Fault}
    (parsed : CGroupsParser.parseCGroupsGatewayConfiguration element
      (errnoIsRangeAt oracle world) world.state.1.settings = .error error) :
    ((readConfigElement element).run oracle world).1 =
        (if error.isCgroupsGatewayError then .ok false else .error error) ∧
      ((readConfigElement element).run oracle world).2.state = world.state := by
  rw [run_readConfigElement, parsed]
  exact ⟨rfl, rfl⟩

end

/-- **A class id is accepted exactly when it is a handle**: the parser throws one of its own
errors otherwise, and the gateway is left as it was. -/
theorem readConfigElement_classId {element : Json} {value : String}
    (given : CGroupsParser.settingOf element = some ("net_cls.classid", value))
    (oracle : Oracle Sys) (world : World Sys (CgroupsGateway × Container)) :
    let parsed := CGroupsParser.parseCGroupsGatewayConfiguration element
      (errnoIsRangeAt oracle world) world.state.1.settings
    let settings := world.state.1.settings.insert "net_cls.classid" value
    let ended := (readConfigElement element).run oracle world
    (∃ digits, CGroupsParser.IsHandle value digits) ∧ parsed = .ok settings ∧
        ended.1 = .ok true ∧ ended.2.state = ({ world.state.1 with settings }, world.state.2) ∨
      (¬ ∃ digits, CGroupsParser.IsHandle value digits) ∧
        (∃ error, parsed = .error error ∧ error.isCgroupsGatewayError = true) ∧
        ended.1 = .ok false ∧ ended.2.state = world.state := by
  rcases CGroupsParser.parse_classId given (errnoIsRangeAt oracle world)
    world.state.1.settings with ⟨isHandle, parsed⟩ | ⟨noHandle, error, parsed, isError⟩
  · exact .inl ⟨isHandle, parsed, run_readConfigElement_of_ok parsed⟩
  · obtain ⟨returned, same⟩ := run_readConfigElement_of_error parsed
    rw [if_pos isError] at returned
    exact .inr ⟨noHandle, ⟨error, parsed, isError⟩, returned, same⟩

def classIdOfFiveDigits : Json :=
  .object [("setting", .string "net_cls.classid"), ("value", .string "0x10001")]

theorem readConfigElement_classId_of_five_digits :
    let world : World Sys (CgroupsGateway × Container) :=
      ⟨(new, .new "SC-0" "/etc/sc.conf" "/tmp/container" true 2), []⟩
    let parsed := CGroupsParser.parseCGroupsGatewayConfiguration classIdOfFiveDigits
      (errnoIsRangeAt fortunate world) world.state.1.settings
    let settings := world.state.1.settings.insert "net_cls.classid" "0x10001"
    let ended := (readConfigElement classIdOfFiveDigits).run fortunate world
    (∃ digits, CGroupsParser.IsHandle "0x10001" digits) ∧ parsed = .ok settings ∧
        ended.1 = .ok true ∧ ended.2.state = ({ world.state.1 with settings }, world.state.2) ∨
      (¬ ∃ digits, CGroupsParser.IsHandle "0x10001" digits) ∧
        (∃ error, parsed = .error error ∧ error.isCgroupsGatewayError = true) ∧
        ended.1 = .ok false ∧ ended.2.state = world.state :=
  readConfigElement_classId (by decide) fortunate _

end CgroupsGateway

end SoftwareContainers
