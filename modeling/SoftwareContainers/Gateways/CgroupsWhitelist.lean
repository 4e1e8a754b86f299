import Mathlib.Data.List.TakeWhile
import Mathlib.Order.Bounds.Basic
import SoftwareContainers.Gateways.CgroupsContract

namespace SoftwareContainers.CGroupsParser

/-! What is stored of several values for one key: of some keys the largest, of the others
the last. -/

/-- A memory limit in bytes; the units are powers of 1024. -/
def bytes (text : List Char) : Option Nat :=
  match text.getLast? with
  | none => none
  | some suffix =>
      if suffix = 'K' ∨ suffix = 'k' then (decimal text.dropLast).map (· * 1024)
      else if suffix = 'M' ∨ suffix = 'm' then (decimal text.dropLast).map (· * 1024 ^ 2)
      else if suffix = 'G' ∨ suffix = 'g' then (decimal text.dropLast).map (· * 1024 ^ 3)
      else decimal text

example : bytes "12g".toList = some 12884901888 := by decide

def IsWhitelisted (key : String) : Prop := isMemoryLimit key ∨ key = "cpu.shares"

/-- The number that a value for a whitelisted key stands for; none if it is not accepted. -/
def number (key value : String) : Option Nat :=
  if key = "cpu.shares" then
    (decimal value.toList).filter fun shares => 2 ≤ shares && shares ≤ 2 ^ 31 - 1
  else
    (bytes value.toList).filter (· ≤ 2 ^ 63 - 1)

/-- A handle of the form `0xAAAABBBB`, of which leading zeros may be omitted. -/
structure IsHandle (value : String) (digits : List Char) : Prop where
  written : value.toList = '0' :: 'x' :: digits
  length : 5 ≤ digits.length ∧ digits.length ≤ 8
  hex : ∀ digit ∈ digits, (hexValue? digit).isSome = true
  nonzero : digits.foldl (fun value digit => 16 * value + (hexValue? digit).getD 0) 0 ≠ 0

structure WellFormed (key value : String) : Prop where
  whitelisted : IsWhitelisted key → ∃ given, number key value = some given
  classId : key = "net_cls.classid" → ∃ digits, IsHandle value digits

def settingOf (element : Json) : Option (String × String) :=
  match JSONParser.readString element "setting", JSONParser.readString element "value" with
  | some key, some value => some (key, value)
  | _, _ => none

def parseAll : List (Json × Bool) → CgroupSettings → Except Fault CgroupSettings
  | [], settings => .ok settings
  | (element, errnoIsRange) :: rest, settings =>
      match parseCGroupsGatewayConfiguration element errnoIsRange settings with
      | .error fault => .error fault
      | .ok settings => parseAll rest settings

def numbers (given : List (String × String)) (key : String) : Set Nat :=
  { n | ∃ value, (key, value) ∈ given ∧ number key value = some n }

def Stores (settings : CgroupSettings) (key : String) (n : Nat) : Prop :=
  ∃ stored, settings[key]? = some stored ∧ decimal stored.toList = some n

theorem Stores.unique {settings : CgroupSettings} {key : String} {n m : Nat}
    (first : Stores settings key n) (second : Stores settings key m) : n = m := by
  obtain ⟨stored, found, isDecimal⟩ := first
  obtain ⟨storedToo, foundToo, isDecimalToo⟩ := second
  cases found.symm.trans foundToo
  exact Option.some.inj (isDecimal.symm.trans isDecimalToo)

/-- What is stored after the values that were given, from the first to the last. -/
structure Whitelists (given : List (String × String)) (settings : CgroupSettings) : Prop where
  largest : ∀ key, IsWhitelisted key →
    settings[key]? = none ∧ numbers given key = ∅ ∨
      ∃ n, Stores settings key n ∧ IsGreatest (numbers given key) n
  last : ∀ key, ¬ IsWhitelisted key →
    settings[key]? = (given.filter (·.1 = key)).getLast?.map (·.2)

section

variable {given : List (String × String)} {settings : CgroupSettings}
  {key value : String}

theorem numbers_append_self {n : Nat} (isNumber : number key value = some n) :
    numbers (given ++ [(key, value)]) key = insert n (numbers given key) := by
  ext other
  rw [Set.mem_insert_iff]
  constructor
  · rintro ⟨text, member, isOther⟩
    rcases List.mem_append.mp member with before | now
    · exact .inr ⟨text, before, isOther⟩
    · cases List.mem_singleton.mp now
      exact .inl (Option.some.inj (isOther.symm.trans isNumber))
  · rintro (rfl | ⟨text, before, isOther⟩)
    · exact ⟨value, List.mem_append_right _ List.mem_cons_self, isNumber⟩
    · exact ⟨text, List.mem_append_left _ before, isOther⟩

theorem numbers_append_of_ne {other : String} (different : other ≠ key) :
    numbers (given ++ [(key, value)]) other = numbers given other := by
  ext n
  constructor
  · rintro ⟨text, member, isNumber⟩
    rcases List.mem_append.mp member with before | now
    · exact ⟨text, before, isNumber⟩
    · cases List.mem_singleton.mp now
      exact absurd rfl different
  · rintro ⟨text, before, isNumber⟩
    exact ⟨text, List.mem_append_left _ before, isNumber⟩

theorem getElem?_insert_of_ne {other text : String} (different : other ≠ key) :
    (settings.insert key text)[other]? = settings[other]? := by
  rw [Std.ExtTreeMap.getElem?_insert, if_neg]
  rw [Std.compare_eq_iff_eq]
  exact different.symm

theorem Whitelists.largest_of_ne {after : CgroupSettings} {other : String}
    (whitelists : Whitelists given settings) (isWhitelisted : IsWhitelisted other)
    (different : other ≠ key) (same : after[other]? = settings[other]?) :
    after[other]? = none ∧ numbers (given ++ [(key, value)]) other = ∅ ∨
      ∃ n, Stores after other n ∧ IsGreatest (numbers (given ++ [(key, value)]) other) n := by
  unfold Stores
  rw [numbers_append_of_ne different, same]
  exact whitelists.largest other isWhitelisted

theorem Whitelists.last_of_ne {after : CgroupSettings} {other : String}
    (whitelists : Whitelists given settings) (notWhitelisted : ¬ IsWhitelisted other)
    (different : other ≠ key) (same : after[other]? = settings[other]?) :
    after[other]? =
      ((given ++ [(key, value)]).filter (·.1 = other)).getLast?.map (·.2) := by
  have skipped : [(key, value)].filter (·.1 = other) = [] :=
    List.filter_eq_nil_iff.mpr fun pair member => by
      cases List.mem_singleton.mp member
      simpa using different.symm
  rw [same, whitelists.last other notWhitelisted, List.filter_append, skipped, List.append_nil]

theorem Whitelists.overwrite (whitelists : Whitelists given settings)
    (notWhitelisted : ¬ IsWhitelisted key) :
    Whitelists (given ++ [(key, value)]) (settings.insert key value) where
  largest other isWhitelisted := by
    have different : other ≠ key := fun same => notWhitelisted (same ▸ isWhitelisted)
    exact whitelists.largest_of_ne isWhitelisted different (getElem?_insert_of_ne different)
  last other otherNot := by
    by_cases different : other = key
    · subst different
      rw [Std.ExtTreeMap.getElem?_insert_self, List.filter_append]
      simp
    · exact whitelists.last_of_ne otherNot different (getElem?_insert_of_ne different)

theorem Whitelists.keepLarger (whitelists : Whitelists given settings)
    (isWhitelisted : IsWhitelisted key) {n : Nat} (isNumber : number key value = some n)
    {after : CgroupSettings}
    (kept : (∃ m, Stores settings key m ∧ n ≤ m ∧ after = settings) ∨
      ∃ text, decimal text.toList = some n ∧ after = settings.insert key text ∧
        ∀ m, Stores settings key m → m < n) :
    Whitelists (given ++ [(key, value)]) after := by
  have elsewhere {other : String} (different : other ≠ key) :
      after[other]? = settings[other]? := by
    rcases kept with ⟨m, _, _, rfl⟩ | ⟨text, _, rfl, _⟩
    · rfl
    · exact getElem?_insert_of_ne different
  refine ⟨fun other otherWhitelisted => ?_, fun other otherNot => ?_⟩
  · by_cases different : other = key
    · subst different
      rw [numbers_append_self isNumber]
      right
      rcases kept with ⟨m, stores, notLarger, rfl⟩ | ⟨text, isDecimal, rfl, larger⟩
      · rcases whitelists.largest other isWhitelisted with ⟨none, _⟩ | ⟨k, storesToo, greatest⟩
        · obtain ⟨stored, found, _⟩ := stores
          cases none.symm.trans found
        · obtain rfl := stores.unique storesToo
          refine ⟨m, stores, ?_⟩
          have inserted := greatest.insert n
          rwa [max_eq_right notLarger] at inserted
      · refine ⟨n, ⟨text, Std.ExtTreeMap.getElem?_insert_self, isDecimal⟩, ?_⟩
        rcases whitelists.largest other isWhitelisted with ⟨_, none⟩ | ⟨m, stores, greatest⟩
        · rw [none, insert_empty_eq]
          exact isGreatest_singleton
        · have inserted := greatest.insert n
          rwa [max_eq_left (Nat.le_of_lt (larger m stores))] at inserted
    · exact whitelists.largest_of_ne otherWhitelisted different (elsewhere different)
  · have different : other ≠ key := fun same => otherNot (same ▸ isWhitelisted)
    exact whitelists.last_of_ne otherNot different (elsewhere different)

end

/-! The branches of the parser on values that are well-formed. -/

theorem convertToBytes_of_decimal {text : String} {n factor : Nat}
    (isDecimal : decimal text.toList = some n) (isUnit : 2 ≤ factor)
    (small : n * factor ≤ 2 ^ 63 - 1) (errnoIsRange : Bool) :
    convertToBytes text factor errnoIsRange = .ok (toString ((n * factor : Nat) : Int)) := by
  have half : n * 2 ≤ n * factor := Nat.mul_le_mul_left n isUnit
  have notLimit : ¬ ((n : Int) = LLONG_MAX ∨ (n : Int) = LLONG_MIN) := by
    simp only [LLONG_MAX, LLONG_MIN]
    omega
  have inRange : ¬ (n : Int) > LLONG_MAX / (factor : Int) := by
    rw [Int.not_lt]
    refine Int.le_ediv_of_mul_le (by omega) ?_
    rw [← Int.natCast_mul]
    simp only [LLONG_MAX]
    omega
  have noUnderflow : ¬ (n : Int) * (factor : Int) < LLONG_MIN := by
    rw [← Int.natCast_mul]
    simp only [LLONG_MIN]
    omega
  rw [convertToBytes, strtoll_of_decimal isDecimal (by simp only [LLONG_MAX]; omega)]
  dsimp only
  rw [if_neg fun holds => notLimit holds.1, if_neg inRange, if_neg noUnderflow,
    Int.natCast_mul]
  rfl

theorem bytes_eq {text : List Char} {suffix : Char} (last : text.getLast? = some suffix) :
    bytes text =
      match unitFactor suffix with
      | some factor => (decimal text.dropLast).map (· * factor.toNat)
      | none => decimal text := by
  unfold bytes unitFactor
  rw [last]
  dsimp only
  by_cases kilo : suffix = 'K' ∨ suffix = 'k'
  · rw [if_pos kilo, if_pos kilo]
    rfl
  · rw [if_neg kilo, if_neg kilo]
    by_cases mega : suffix = 'M' ∨ suffix = 'm'
    · rw [if_pos mega, if_pos mega]
      rfl
    · rw [if_neg mega, if_neg mega]
      by_cases giga : suffix = 'G' ∨ suffix = 'g'
      · rw [if_pos giga, if_pos giga]
        rfl
      · rw [if_neg giga, if_neg giga]

theorem suffixCorrection_of_bytes {value : String} {n : Nat}
    (isBytes : bytes value.toList = some n) (small : n ≤ 2 ^ 63 - 1) (errnoIsRange : Bool) :
    ∃ text, suffixCorrection value errnoIsRange = .ok text ∧
      decimal text.toList = some n := by
  cases last : value.toList.getLast? with
  | none =>
      rw [bytes, last] at isBytes
      cases isBytes
  | some suffix =>
      rw [bytes_eq last] at isBytes
      cases isUnit : unitFactor suffix with
      | some factor =>
          rw [isUnit] at isBytes
          dsimp only at isBytes
          obtain ⟨digits, isDecimal, rfl⟩ := Option.map_eq_some_iff.mp isBytes
          have atLeast := (unitFactor_isDigit isUnit).2
          have written : ((factor.toNat : Nat) : Int) = factor := Int.toNat_of_nonneg (by omega)
          have isDecimal : decimal (withoutUnit value).toList = some digits := by
            rwa [withoutUnit, String.toList_ofList]
          have converted := convertToBytes_of_decimal isDecimal
            (show 2 ≤ factor.toNat by omega) small errnoIsRange
          rw [written] at converted
          rw [suffixCorrection_of_unit last isUnit, converted]
          exact ⟨_, rfl, decimal_toString _⟩
      | none =>
          rw [isUnit] at isBytes
          dsimp only at isBytes
          obtain ⟨_, all, _⟩ := decimal_eq_some.mp isBytes
          rw [suffixCorrection_of_digit last (all suffix (List.mem_of_getLast? last))]
          exact ⟨value, rfl, isBytes⟩

section

variable {given : List (String × String)} {settings : CgroupSettings}
  {key value : String}

theorem Whitelists.number_of_stores (whitelists : Whitelists given settings)
    (isWhitelisted : IsWhitelisted key) {stored : String}
    (found : settings[key]? = some stored) :
    ∃ n text, decimal stored.toList = some n ∧ number key text = some n := by
  rcases whitelists.largest key isWhitelisted with ⟨none, _⟩ | ⟨n, stores, greatest⟩
  · cases none.symm.trans found
  · obtain ⟨other, otherFound, isDecimal⟩ := stores
    cases otherFound.symm.trans found
    obtain ⟨text, _, isNumber⟩ := greatest.1
    exact ⟨n, text, isDecimal, isNumber⟩

theorem storeMemoryLimit_whitelists (whitelists : Whitelists given settings)
    (isLimit : isMemoryLimit key) {n : Nat} (isNumber : number key value = some n)
    (errnoIsRange : Bool) :
    ∃ after, storeMemoryLimit key value errnoIsRange settings = .ok after ∧
      Whitelists (given ++ [(key, value)]) after := by
  have limits {text : String} {limit : Nat} (isLimitText : number key text = some limit) :
      bytes text.toList = some limit ∧ limit ≤ 2 ^ 63 - 1 := by
    rw [number, if_neg (isMemoryLimit_ne_cpuShares isLimit)] at isLimitText
    simpa using Option.filter_eq_some_iff.mp isLimitText
  have converts {text : String} {limit : Nat} (isDecimal : decimal text.toList = some limit)
      (small : limit ≤ 2 ^ 63 - 1) : stoll text = .ok (limit : Int) :=
    stoInteger_of_decimal isDecimal (by simp only [LLONG_MIN, LLONG_MAX]; omega)
  obtain ⟨isBytes, small⟩ := limits isNumber
  obtain ⟨text, corrected, isDecimal⟩ := suffixCorrection_of_bytes isBytes small errnoIsRange
  rw [storeMemoryLimit, corrected]
  simp only [bind, Except.bind]
  cases found : settings[key]? with
  | none =>
      refine ⟨_, rfl, whitelists.keepLarger (.inl isLimit) isNumber
        (.inr ⟨text, isDecimal, rfl, ?_⟩)⟩
      rintro m ⟨stored, isStored, _⟩
      cases found.symm.trans isStored
  | some stored =>
      obtain ⟨m, earlier, isStored, wasGiven⟩ :=
        whitelists.number_of_stores (.inl isLimit) found
      dsimp only
      rw [converts isStored (limits wasGiven).2, converts isDecimal small]
      dsimp only
      split
      · rename_i notLarger
        exact ⟨_, rfl, whitelists.keepLarger (.inl isLimit) isNumber
          (.inl ⟨m, ⟨stored, found, isStored⟩, by omega, rfl⟩)⟩
      · rename_i larger
        refine ⟨_, rfl, whitelists.keepLarger (.inl isLimit) isNumber
          (.inr ⟨text, isDecimal, rfl, fun k stores => ?_⟩)⟩
        obtain rfl := stores.unique ⟨stored, found, isStored⟩
        omega

theorem storeCpuShares_whitelists (whitelists : Whitelists given settings) {n : Nat}
    (isNumber : number "cpu.shares" value = some n) :
    ∃ after, storeCpuShares "cpu.shares" value settings = .ok after ∧
      Whitelists (given ++ [("cpu.shares", value)]) after := by
  have shares {text : String} {count : Nat} (isShares : number "cpu.shares" text = some count) :
      decimal text.toList = some count ∧ 2 ≤ count ∧ count ≤ 2 ^ 31 - 1 := by
    rw [number, if_pos rfl] at isShares
    simpa using Option.filter_eq_some_iff.mp isShares
  have converts {text : String} {count : Nat} (isDecimal : decimal text.toList = some count)
      (small : count ≤ 2 ^ 31 - 1) : stoi text = .ok (count : Int) :=
    stoInteger_of_decimal isDecimal (by omega)
  obtain ⟨isDecimal, atLeast, small⟩ := shares isNumber
  rw [storeCpuShares, converts isDecimal small]
  dsimp only
  rw [if_neg (by omega)]
  cases found : settings["cpu.shares"]? with
  | none =>
      refine ⟨_, rfl, whitelists.keepLarger (.inr rfl) isNumber
        (.inr ⟨_, decimal_toString n, rfl, ?_⟩)⟩
      rintro m ⟨stored, isStored, _⟩
      cases found.symm.trans isStored
  | some stored =>
      obtain ⟨m, earlier, isStored, wasGiven⟩ := whitelists.number_of_stores (.inr rfl) found
      dsimp only
      rw [converts isStored (shares wasGiven).2.2]
      simp only [bind, Except.bind]
      split
      · rename_i notLarger
        exact ⟨_, rfl, whitelists.keepLarger (.inr rfl) isNumber
          (.inl ⟨m, ⟨stored, found, isStored⟩, by omega, rfl⟩)⟩
      · rename_i larger
        refine ⟨_, rfl, whitelists.keepLarger (.inr rfl) isNumber
          (.inr ⟨_, decimal_toString n, rfl, fun k stores => ?_⟩)⟩
        obtain rfl := stores.unique ⟨stored, found, isStored⟩
        omega

end

/-! Handles. -/

theorem hexValue?_lt {digit : Char} {value : Nat} (isHex : hexValue? digit = some value) :
    value < 16 := by
  unfold hexValue? at isHex
  split at isHex
  · rename_i isDigit
    obtain ⟨_, atMost⟩ := Char.isDigit_iff_toNat.mp isDigit
    have nine : '9'.toNat = '0'.toNat + 9 := rfl
    cases isHex
    omega
  · split at isHex
    · rename_i lower
      have atMost : digit.toNat ≤ 'f'.toNat := lower.2
      have six : 'f'.toNat = 'a'.toNat + 5 := rfl
      cases isHex
      omega
    · split at isHex
      · rename_i upper
        have atMost : digit.toNat ≤ 'F'.toNat := upper.2
        have six : 'F'.toNat = 'A'.toNat + 5 := rfl
        cases isHex
        omega
      · cases isHex

theorem foldl_hex_lt (digits : List Char) (start : Nat) :
    digits.foldl (fun value digit => 16 * value + (hexValue? digit).getD 0) start <
      (start + 1) * 16 ^ digits.length := by
  induction digits generalizing start with
  | nil => simp
  | cons digit rest ih =>
      have small : (hexValue? digit).getD 0 < 16 := by
        cases isHex : hexValue? digit with
        | none => decide
        | some value => exact hexValue?_lt isHex
      have later := ih (16 * start + (hexValue? digit).getD 0)
      rw [List.foldl_cons, List.length_cons, Nat.pow_succ']
      refine Nat.lt_of_lt_of_le later ?_
      rw [← Nat.mul_assoc]
      exact Nat.mul_le_mul_right _ (by omega)

theorem toNat_lt_of_hex {digit : Char} (isHex : (hexValue? digit).isSome = true) :
    digit.toNat < 128 := by
  unfold hexValue? at isHex
  split at isHex
  · rename_i isDigit
    obtain ⟨_, atMost⟩ := Char.isDigit_iff_toNat.mp isDigit
    have nine : '9'.toNat = 57 := rfl
    omega
  · split at isHex
    · rename_i lower
      have atMost : digit.toNat ≤ 'f'.toNat := lower.2
      have last : 'f'.toNat = 102 := rfl
      omega
    · split at isHex
      · rename_i upper
        have atMost : digit.toNat ≤ 'F'.toNat := upper.2
        have last : 'F'.toNat = 70 := rfl
        omega
      · cases isHex

theorem utf8ByteSize_of_handle {value : String} {digits : List Char}
    (written : value.toList = '0' :: 'x' :: digits)
    (hex : ∀ digit ∈ digits, (hexValue? digit).isSome = true) :
    value.utf8ByteSize = digits.length + 2 := by
  have ascii : ∀ character ∈ '0' :: 'x' :: digits, character.toNat < 128 := by
    intro character member
    rcases List.mem_cons.mp member with rfl | member
    · decide
    · rcases List.mem_cons.mp member with rfl | member
      · decide
      · exact toNat_lt_of_hex (hex character member)
  rw [← String.ofList_toList (s := value), written, utf8ByteSize_of_ascii ascii]
  rfl

theorem storeClassId_ok_iff {key value : String} {settings after : CgroupSettings} :
    storeClassId key value settings = .ok after ↔
      (∃ digits, IsHandle value digits) ∧ after = settings.insert key value := by
  unfold storeClassId
  constructor
  · intro stored
    split at stored
    · cases stored
    · rename_i form
      simp only [Bool.or_eq_true, Bool.not_eq_true', decide_eq_true_eq, not_or, Bool.not_eq_false,
        String.startsWith_string_iff] at form
      obtain ⟨⟨⟨digits, written⟩, short⟩, long⟩ := form
      have written : value.toList = '0' :: 'x' :: digits := written.symm
      dsimp only at stored
      split at stored
      · cases stored
      · rename_i number
        cases stored
        rw [strtoulHex, written] at number
        simp only [List.drop_succ_cons, List.drop_zero, not_or] at number
        obtain ⟨nonzero, _, whole⟩ := number
        simp only [Bool.not_eq_false, Bool.and_eq_true, beq_iff_eq] at whole
        have taken := (List.takeWhile_prefix fun digit => (hexValue? digit).isSome).eq_of_length
          whole.2
        rw [taken] at nonzero
        have hex := List.takeWhile_eq_self_iff.mp taken
        have length := utf8ByteSize_of_handle written hex
        exact ⟨⟨digits, written, by omega, hex, nonzero⟩, rfl⟩
  · rintro ⟨⟨digits, written, bounds, hex, nonzero⟩, rfl⟩
    have length := utf8ByteSize_of_handle written hex
    have begins : value.startsWith "0x" = true := by
      rw [String.startsWith_string_iff, written]
      exact ⟨digits, rfl⟩
    have taken := List.takeWhile_eq_self_iff.mpr hex
    have some : digits ≠ [] := by
      rintro rfl
      simp at bounds
    have small : 16 ^ digits.length ≤ 16 ^ 8 := Nat.pow_le_pow_right (by decide) bounds.2
    have bound := foldl_hex_lt digits 0
    have form : (!value.startsWith "0x" || value.utf8ByteSize > 10 || value.utf8ByteSize < 7) =
        false := by
      rw [begins]
      simp only [Bool.not_true, Bool.false_or, Bool.or_eq_false_iff, decide_eq_false_iff_not]
      omega
    rw [form, if_neg (by decide), strtoulHex, written]
    simp only [List.drop_succ_cons, List.drop_zero]
    rw [taken, if_neg]
    · rfl
    · rintro (zero | large | partly)
      · exact nonzero zero
      · omega
      · simp [some] at partly

/-! A whole configuration. -/

def IsWellFormed (element : Json) : Prop :=
  ∃ key value, settingOf element = some (key, value) ∧ WellFormed key value

theorem settingOf_eq_some {element : Json} {key value : String}
    (isSetting : settingOf element = some (key, value)) :
    JSONParser.readString element "setting" = some key ∧
      JSONParser.readString element "value" = some value := by
  unfold settingOf at isSetting
  split at isSetting
  · rename_i keyed valued
    cases isSetting
    exact ⟨keyed, valued⟩
  · cases isSetting

theorem parse_whitelists {given : List (String × String)} {settings : CgroupSettings}
    (whitelists : Whitelists given settings) {element : Json} {key value : String}
    (isSetting : settingOf element = some (key, value)) (wellFormed : WellFormed key value)
    (errnoIsRange : Bool) :
    ∃ after, parseCGroupsGatewayConfiguration element errnoIsRange settings = .ok after ∧
      Whitelists (given ++ [(key, value)]) after := by
  obtain ⟨keyed, valued⟩ := settingOf_eq_some isSetting
  rw [parseCGroupsGatewayConfiguration, keyed, valued]
  dsimp only
  split
  · rename_i isLimit
    obtain ⟨n, isNumber⟩ := wellFormed.whitelisted (.inl isLimit)
    exact storeMemoryLimit_whitelists whitelists isLimit isNumber errnoIsRange
  · rename_i notLimit
    split
    · rename_i isShares
      subst isShares
      obtain ⟨n, isNumber⟩ := wellFormed.whitelisted (.inr rfl)
      exact storeCpuShares_whitelists whitelists isNumber
    · rename_i notShares
      have notWhitelisted : ¬ IsWhitelisted key := fun holds => holds.elim notLimit notShares
      split
      · rename_i isClassId
        exact ⟨_, storeClassId_ok_iff.mpr ⟨wellFormed.classId isClassId, rfl⟩,
          whitelists.overwrite notWhitelisted⟩
      · exact ⟨_, rfl, whitelists.overwrite notWhitelisted⟩

theorem parseAll_whitelists {elements : List (Json × Bool)}
    (wellFormed : ∀ element ∈ elements, IsWellFormed element.1)
    {given : List (String × String)} {settings : CgroupSettings}
    (whitelists : Whitelists given settings) :
    ∃ after, parseAll elements settings = .ok after ∧
      Whitelists (given ++ elements.filterMap (settingOf ·.1)) after := by
  induction elements generalizing given settings with
  | nil => exact ⟨settings, rfl, by rwa [List.filterMap_nil, List.append_nil]⟩
  | cons element rest ih =>
      obtain ⟨⟨key, value, isSetting, accepted⟩, restWellFormed⟩ :=
        List.forall_mem_cons.mp wellFormed
      obtain ⟨between, parsed, betweenWhitelists⟩ :=
        parse_whitelists whitelists isSetting accepted element.2
      obtain ⟨after, restParsed, afterWhitelists⟩ := ih restWellFormed betweenWhitelists
      refine ⟨after, ?_, ?_⟩
      · rw [parseAll, parsed]
        exact restParsed
      · rw [List.filterMap_cons, isSetting]
        rwa [List.append_assoc] at afterWhitelists

theorem whitelists_empty : Whitelists [] ∅ where
  largest key _ := by
    refine .inl ⟨Std.ExtTreeMap.getElem?_empty, Set.eq_empty_iff_forall_notMem.mpr ?_⟩
    rintro n ⟨value, member, _⟩
    cases member
  last key _ := Std.ExtTreeMap.getElem?_empty

theorem numbers_perm {given reordered : List (String × String)} (perm : given.Perm reordered)
    (key : String) : numbers given key = numbers reordered key := by
  ext n
  exact exists_congr fun value => and_congr_left fun _ => perm.mem_iff

theorem Whitelists.stores_iff {given reordered : List (String × String)}
    {settings other : CgroupSettings} (whitelists : Whitelists given settings)
    (otherWhitelists : Whitelists reordered other) (perm : given.Perm reordered) {key : String}
    (isWhitelisted : IsWhitelisted key) (n : Nat) :
    Stores settings key n ↔ Stores other key n := by
  have of {first second : List (String × String)} {left right : CgroupSettings}
      (one : Whitelists first left) (two : Whitelists second right)
      (same : numbers first key = numbers second key) (stores : Stores left key n) :
      Stores right key n := by
    have greatest : IsGreatest (numbers first key) n := by
      rcases one.largest key isWhitelisted with ⟨none, _⟩ | ⟨m, storesToo, greatest⟩
      · obtain ⟨stored, found, _⟩ := stores
        cases none.symm.trans found
      · rwa [stores.unique storesToo]
    rcases two.largest key isWhitelisted with ⟨_, none⟩ | ⟨m, storesToo, greatestToo⟩
    · rw [same, none] at greatest
      exact absurd greatest.1 (Set.notMem_empty n)
    · rw [same] at greatest
      rwa [greatest.unique greatestToo]
  exact ⟨of whitelists otherWhitelists (numbers_perm perm key),
    of otherWhitelists whitelists (numbers_perm perm.symm key)⟩

/-- Nothing is refused, of the whitelisted keys the largest number is stored, in whichever
order the elements come, and of the others the last value. -/
theorem parseAll_whitelisted {elements : List (Json × Bool)}
    (wellFormed : ∀ element ∈ elements, IsWellFormed element.1) :
    ∃ settings, parseAll elements ∅ = .ok settings ∧
      Whitelists (elements.filterMap (settingOf ·.1)) settings ∧
      ∀ reordered, elements.Perm reordered →
        ∃ other, parseAll reordered ∅ = .ok other ∧
          ∀ key, IsWhitelisted key → ∀ n, Stores settings key n ↔ Stores other key n := by
  obtain ⟨settings, parsed, whitelists⟩ := parseAll_whitelists wellFormed whitelists_empty
  rw [List.nil_append] at whitelists
  refine ⟨settings, parsed, whitelists, fun reordered perm => ?_⟩
  obtain ⟨other, otherParsed, otherWhitelists⟩ :=
    parseAll_whitelists (fun element member => wellFormed element (perm.mem_iff.mpr member))
      whitelists_empty
  exact ⟨other, otherParsed, fun key isWhitelisted n =>
    whitelists.stores_iff otherWhitelists (perm.filterMap _) isWhitelisted n⟩

def kiloThenBytes : List (Json × Bool) :=
  [(.object [("setting", .string "memory.limit_in_bytes"), ("value", .string "20K")], false),
    (.object [("setting", .string "memory.limit_in_bytes"), ("value", .string "500")], true)]

theorem parseAll_whitelisted_kilo :
    ∃ settings, parseAll kiloThenBytes ∅ = .ok settings ∧
      Whitelists (kiloThenBytes.filterMap (settingOf ·.1)) settings ∧
      ∀ reordered, kiloThenBytes.Perm reordered →
        ∃ other, parseAll reordered ∅ = .ok other ∧
          ∀ key, IsWhitelisted key → ∀ n, Stores settings key n ↔ Stores other key n := by
  refine parseAll_whitelisted fun element member => ?_
  rw [kiloThenBytes, List.mem_cons, List.mem_singleton] at member
  rcases member with rfl | rfl
  · exact ⟨_, _, rfl, fun _ => ⟨20480, by decide⟩, fun same => absurd same (by decide)⟩
  · exact ⟨_, _, rfl, fun _ => ⟨500, by decide⟩, fun same => absurd same (by decide)⟩

end SoftwareContainers.CGroupsParser
