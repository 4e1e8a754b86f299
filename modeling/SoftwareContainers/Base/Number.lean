import Mathlib.Algebra.Group.Int.Defs
import Mathlib.Algebra.Group.Nat.Defs
import Mathlib.Data.List.Basic
import SoftwareContainers.Base.Fault

namespace SoftwareContainers

/-! The number conversions of the C and C++ libraries. -/

def isSpace (character : Char) : Bool :=
  character ∈ [' ', '\t', '\n', '\x0b', '\x0c', '\r']

/-- The number that `strtol` finds in base 10; none without a digit. -/
def decimalPrefix (text : String) : Option Int :=
  let (negative, rest) :=
    match text.toList.dropWhile isSpace with
    | '-' :: rest => (true, rest)
    | '+' :: rest => (false, rest)
    | rest => (false, rest)
  match rest.takeWhile Char.isDigit with
  | [] => none
  | digits =>
      let magnitude : Int := Nat.ofDigitChars 10 digits 0
      some (if negative then -magnitude else magnitude)

abbrev LLONG_MAX : Int := 2 ^ 63 - 1
abbrev LLONG_MIN : Int := -2 ^ 63

/-- `strtoll`: the value, and whether it sets `errno` to `ERANGE`. -/
def strtoll (text : String) : Int × Bool :=
  match decimalPrefix text with
  | none => (0, false)
  | some value =>
      if value > LLONG_MAX then (LLONG_MAX, true)
      else if value < LLONG_MIN then (LLONG_MIN, true)
      else (value, false)

/-- A conversion of `<string>` to a type with the given bounds. -/
def stoInteger (lower upper : Int) (text : String) : Except Fault Int :=
  match decimalPrefix text with
  | none => .error .invalidArgument
  | some value =>
      if lower ≤ value ∧ value ≤ upper then .ok value else .error .outOfRange

def stoll : String → Except Fault Int := stoInteger LLONG_MIN LLONG_MAX

def stoi : String → Except Fault Int := stoInteger (-2 ^ 31) (2 ^ 31 - 1)

def hexValue? (character : Char) : Option Nat :=
  if character.isDigit then some (character.toNat - '0'.toNat)
  else if 'a' ≤ character ∧ character ≤ 'f' then
    some (character.toNat - 'a'.toNat + 10)
  else if 'A' ≤ character ∧ character ≤ 'F' then
    some (character.toNat - 'A'.toNat + 10)
  else none

/-- `strtoul` in base 16 on a text that begins with `0x`: the value, and whether all
of the text is converted. -/
def strtoulHex (text : String) : Nat × Bool :=
  let digits := (text.toList.drop 2).takeWhile fun character =>
    (hexValue? character).isSome
  (digits.foldl (fun value digit => 16 * value + (hexValue? digit).getD 0) 0,
    digits ≠ [] && digits.length == (text.toList.drop 2).length)

theorem isSpace_of_isDigit {character : Char} (digit : character.isDigit = true) :
    isSpace character = false := by
  by_contra space
  simp only [isSpace, decide_eq_false_iff_not, not_not, List.mem_cons,
    List.not_mem_nil, or_false] at space
  rcases space with rfl | rfl | rfl | rfl | rfl | rfl <;> cases digit

def decimal (text : List Char) : Option Nat :=
  if text ≠ [] ∧ text.all Char.isDigit then some (Nat.ofDigitChars 10 text 0) else none

theorem decimal_eq_some {text : List Char} {value : Nat} :
    decimal text = some value ↔
      text ≠ [] ∧ (∀ digit ∈ text, digit.isDigit = true) ∧ Nat.ofDigitChars 10 text 0 = value := by
  simp only [decimal, List.all_eq_true]
  split
  · rename_i digits
    rw [Option.some.injEq]
    exact ⟨fun same => ⟨digits.1, digits.2, same⟩, fun holds => holds.2.2⟩
  · rename_i noDigits
    exact ⟨nofun, fun holds => absurd ⟨holds.1, holds.2.1⟩ noDigits⟩

theorem decimal_toString (value : Nat) : decimal (toString value).toList = some value := by
  rw [decimal_eq_some, Nat.toString_eq_repr, Nat.toList_repr]
  exact ⟨Nat.toDigits_ne_nil,
    fun digit member => Nat.isDigit_of_mem_toDigits (by decide) (by decide) member,
    Nat.ofDigitChars_ten_toDigits⟩

theorem takeWhile_isDigit {digits : List Char} (all : ∀ digit ∈ digits, digit.isDigit = true) :
    digits.takeWhile Char.isDigit = digits := by
  rw [← List.append_nil digits, List.takeWhile_append_of_pos all, List.takeWhile_nil]

theorem decimalPrefix_of_decimal {text : String} {value : Nat}
    (isDecimal : decimal text.toList = some value) :
    decimalPrefix text = some (value : Int) := by
  obtain ⟨nonempty, all, readBack⟩ := decimal_eq_some.mp isDecimal
  obtain ⟨first, rest, written⟩ := List.exists_cons_of_ne_nil nonempty
  have firstDigit : first.isDigit = true := all first (written ▸ List.mem_cons_self)
  rw [written] at all readBack
  rw [decimalPrefix, written,
    List.dropWhile_cons_of_neg (by simp [isSpace_of_isDigit firstDigit])]
  split
  rename_i negative afterSign signed
  split at signed
  · rename_i same
    cases same
    cases firstDigit
  · rename_i same
    cases same
    cases firstDigit
  · cases signed
    rw [takeWhile_isDigit all]
    simp [readBack]

theorem decimalPrefix_toString (value : Nat) :
    decimalPrefix (toString value) = some (value : Int) :=
  decimalPrefix_of_decimal (decimal_toString value)

theorem decimalPrefix_toString_int (value : Int) :
    decimalPrefix (toString value) = some value := by
  cases value with
  | ofNat value => exact decimalPrefix_toString value
  | negSucc value =>
      obtain ⟨nonempty, all, readBack⟩ := decimal_eq_some.mp (decimal_toString (value + 1))
      have signed : (toString (Int.negSucc value)).toList =
          '-' :: (toString (value + 1)).toList := by
        change ("-" ++ Nat.repr (value + 1)).toList = _
        rw [String.toList_append, Nat.toString_eq_repr]
        rfl
      obtain ⟨first, rest, written⟩ := List.exists_cons_of_ne_nil nonempty
      rw [written] at all readBack
      rw [decimalPrefix, signed, List.dropWhile_cons_of_neg (by decide)]
      split
      rename_i negative afterSign sign
      cases sign
      rw [written, takeWhile_isDigit all]
      simp [readBack, Int.negSucc_eq]

theorem stoInteger_toString {lower upper value : Int} (inBounds : lower ≤ value ∧ value ≤ upper) :
    stoInteger lower upper (toString value) = .ok value := by
  rw [stoInteger, decimalPrefix_toString_int]
  exact if_pos inBounds

theorem stoInteger_of_decimal {lower upper : Int} {text : String} {value : Nat}
    (isDecimal : decimal text.toList = some value)
    (inBounds : lower ≤ (value : Int) ∧ (value : Int) ≤ upper) :
    stoInteger lower upper text = .ok (value : Int) := by
  rw [stoInteger, decimalPrefix_of_decimal isDecimal]
  exact if_pos inBounds

theorem strtoll_of_decimal {text : String} {value : Nat}
    (isDecimal : decimal text.toList = some value) (small : (value : Int) ≤ LLONG_MAX) :
    strtoll text = ((value : Int), false) := by
  have low : ¬ (value : Int) < LLONG_MIN :=
    Int.not_lt.mpr (Int.le_trans (by decide) (Int.natCast_nonneg value))
  rw [strtoll, decimalPrefix_of_decimal isDecimal]
  dsimp only
  rw [if_neg (Int.not_lt.mpr small), if_neg low]

theorem stoInteger_bounds {lower upper value : Int} {text : String}
    (converted : stoInteger lower upper text = .ok value) : lower ≤ value ∧ value ≤ upper := by
  rw [stoInteger] at converted
  split at converted
  · cases converted
  · split at converted
    · rename_i inBounds
      cases converted
      exact inBounds
    · cases converted

theorem toString_int_injective {first second : Int}
    (same : toString first = toString second) : first = second := by
  have read := congrArg decimalPrefix same
  rw [decimalPrefix_toString_int, decimalPrefix_toString_int] at read
  exact Option.some.inj read

end SoftwareContainers
