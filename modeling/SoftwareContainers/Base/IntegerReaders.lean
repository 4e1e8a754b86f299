import Mathlib.Data.List.TakeWhile
import SoftwareContainers.Base.Json
import SoftwareContainers.Base.Number

namespace SoftwareContainers

/-! The functions that store an integer they read into an `int`: `parseInt`, and `read` of
`JSONParser`. -/

abbrev ERANGE : Nat := 34

/-- The bounds of a 64-bit `long`. -/
abbrev LONG_MAX : Int := 2 ^ 63 - 1
abbrev LONG_MIN : Int := -2 ^ 63

def takeSign : List Char → Bool × List Char
  | '-' :: rest => (true, rest)
  | '+' :: rest => (false, rest)
  | rest => (false, rest)

def scanDecimal (arg : List Char) : Bool × List Char × List Char :=
  let (negative, rest) := takeSign (arg.dropWhile isSpace)
  (negative, rest.takeWhile Char.isDigit, rest.dropWhile Char.isDigit)

def signedValue (negative : Bool) (digits : List Char) : Int :=
  let magnitude : Int := Nat.ofDigitChars 10 digits 0
  if negative then -magnitude else magnitude

/-- `strtol` in base 10 on the characters before the NUL: the value, what `end` points to,
and `errno`. -/
def strtol (arg : List Char) (errno : Nat) : Int × List Char × Nat :=
  match scanDecimal arg with
  | (_, [], _) => (0, arg, errno)
  | (negative, digits, rest) =>
      let value := signedValue negative digits
      if value > LONG_MAX then (LONG_MAX, rest, ERANGE)
      else if value < LONG_MIN then (LONG_MIN, rest, ERANGE)
      else (value, rest, errno)

/-- The stored value, or none when it returns false, and `errno` as it is left. -/
def parseInt (arg : List Char) (errno : Nat) : Option Int × Nat :=
  let (value, rest, errno) := strtol arg errno
  if rest = arg ∨ rest ≠ [] ∨ errno = ERANGE then (none, errno)
  else (some (toInt value), errno)

/-- All of the text is a decimal integer: blanks, perhaps a sign, and digits. -/
def IsDecimal (arg : List Char) (value : Int) : Prop :=
  ∃ blanks sign digits, arg = blanks ++ sign ++ digits ∧
    (∀ character ∈ blanks, isSpace character = true) ∧
    (sign = [] ∨ sign = ['+'] ∨ sign = ['-']) ∧
    digits ≠ [] ∧ (∀ digit ∈ digits, digit.isDigit = true) ∧
    value = signedValue (sign = ['-']) digits

theorem takeSign_of_isDigit {first : Char} {rest : List Char} (digit : first.isDigit = true) :
    takeSign (first :: rest) = (false, first :: rest) := by
  unfold takeSign
  split
  · rename_i same
    cases same
    cases digit
  · rename_i same
    cases same
    cases digit
  · rfl

theorem takeSign_eq {text rest : List Char} {negative : Bool}
    (taken : takeSign text = (negative, rest)) :
    ∃ sign, text = sign ++ rest ∧ (sign = [] ∨ sign = ['+'] ∨ sign = ['-']) ∧
      negative = decide (sign = ['-']) := by
  unfold takeSign at taken
  split at taken
  · cases taken
    exact ⟨['-'], rfl, .inr (.inr rfl), rfl⟩
  · cases taken
    exact ⟨['+'], rfl, .inr (.inl rfl), rfl⟩
  · cases taken
    exact ⟨[], rfl, .inl rfl, rfl⟩

theorem dropWhile_blanks {blanks rest : List Char} {first : Char}
    (areBlank : ∀ character ∈ blanks, isSpace character = true)
    (notBlank : isSpace first = false) :
    (blanks ++ first :: rest).dropWhile isSpace = first :: rest := by
  rw [List.dropWhile_append_of_pos areBlank, List.dropWhile_cons_of_neg (by simp [notBlank])]

theorem takeSign_behind_blanks {blanks sign digits : List Char}
    (areBlank : ∀ character ∈ blanks, isSpace character = true)
    (isSign : sign = [] ∨ sign = ['+'] ∨ sign = ['-']) (some : digits ≠ [])
    (areDigits : ∀ digit ∈ digits, digit.isDigit = true) :
    takeSign ((blanks ++ sign ++ digits).dropWhile isSpace) =
      (decide (sign = ['-']), digits) := by
  rw [List.append_assoc]
  rcases isSign with rfl | rfl | rfl
  · obtain ⟨first, others, rfl⟩ := List.exists_cons_of_ne_nil some
    have firstDigit := areDigits first List.mem_cons_self
    rw [List.nil_append, dropWhile_blanks areBlank (isSpace_of_isDigit firstDigit),
      takeSign_of_isDigit firstDigit]
    rfl
  · rw [List.singleton_append, dropWhile_blanks areBlank (by decide)]
    rfl
  · rw [List.singleton_append, dropWhile_blanks areBlank (by decide)]
    rfl

theorem isDecimal_iff {arg : List Char} {value : Int} :
    IsDecimal arg value ↔
      ∃ negative digits, scanDecimal arg = (negative, digits, []) ∧ digits ≠ [] ∧
        value = signedValue negative digits := by
  constructor
  · rintro ⟨blanks, sign, digits, rfl, areBlank, isSign, some, areDigits, rfl⟩
    refine ⟨_, digits, ?_, some, rfl⟩
    rw [scanDecimal, takeSign_behind_blanks areBlank isSign some areDigits]
    dsimp only
    rw [takeWhile_isDigit areDigits, List.dropWhile_eq_nil_iff.mpr areDigits]
  · rintro ⟨negative, digits, scanned, some, rfl⟩
    cases taken : takeSign (arg.dropWhile isSpace) with
    | mk isNegative rest =>
        obtain ⟨sign, isText, isSign, rfl⟩ := takeSign_eq taken
        rw [scanDecimal, taken] at scanned
        dsimp only at scanned
        simp only [Prod.mk.injEq, List.dropWhile_eq_nil_iff] at scanned
        obtain ⟨rfl, isDigits, areDigits⟩ := scanned
        obtain rfl : rest = digits := by rw [← isDigits, takeWhile_isDigit areDigits]
        refine ⟨arg.takeWhile isSpace, sign, rest, ?_, ?_, isSign, some, areDigits, rfl⟩
        · rw [List.append_assoc, ← isText, List.takeWhile_append_dropWhile]
        · exact fun _ member => List.mem_takeWhile_imp member

theorem IsDecimal.unique {arg : List Char} {first second : Int} (isFirst : IsDecimal arg first)
    (isSecond : IsDecimal arg second) : first = second := by
  obtain ⟨negative, digits, scanned, _, rfl⟩ := isDecimal_iff.mp isFirst
  obtain ⟨_, _, scanned', _, rfl⟩ := isDecimal_iff.mp isSecond
  cases scanned.symm.trans scanned'
  rfl

def FitsLong (value : Int) : Prop := LONG_MIN ≤ value ∧ value ≤ LONG_MAX

theorem FitsInt.fitsLong {value : Int} (fits : FitsInt value) : FitsLong value := by
  obtain ⟨lower, upper⟩ := fits
  unfold FitsLong LONG_MIN LONG_MAX
  omega

instance (value : Int) : Decidable (FitsLong value) := inferInstanceAs (Decidable (_ ∧ _))

theorem strtol_of_scanDecimal {arg digits rest : List Char} {negative : Bool} (errno : Nat)
    (scanned : scanDecimal arg = (negative, digits, rest)) (some : digits ≠ []) :
    strtol arg errno =
      if signedValue negative digits > LONG_MAX then (LONG_MAX, rest, ERANGE)
      else if signedValue negative digits < LONG_MIN then (LONG_MIN, rest, ERANGE)
      else (signedValue negative digits, rest, errno) := by
  obtain ⟨first, others, rfl⟩ := List.exists_cons_of_ne_nil some
  rw [strtol, scanned]

/-- What `strtol` says of a decimal integer, all of which it reads. -/
theorem strtol_of_isDecimal {arg : List Char} {value : Int} (errno : Nat)
    (decimal : IsDecimal arg value) :
    (FitsLong value → strtol arg errno = (value, [], errno)) ∧
      (¬ FitsLong value → ∃ bound, strtol arg errno = (bound, [], ERANGE)) := by
  obtain ⟨negative, digits, scanned, some, rfl⟩ := isDecimal_iff.mp decimal
  rw [strtol_of_scanDecimal errno scanned some]
  constructor
  · rintro ⟨lower, upper⟩
    rw [if_neg (Int.not_lt.mpr upper), if_neg (Int.not_lt.mpr lower)]
  · intro tooLarge
    by_cases upper : signedValue negative digits > LONG_MAX
    · exact ⟨_, if_pos upper⟩
    · rw [if_neg upper]
      have lower : signedValue negative digits < LONG_MIN := by
        by_contra notLower
        exact tooLarge ⟨Int.not_lt.mp notLower, Int.not_lt.mp upper⟩
      exact ⟨_, if_pos lower⟩

theorem IsDecimal.ne_nil {arg : List Char} {value : Int} (decimal : IsDecimal arg value) :
    arg ≠ [] := by
  obtain ⟨blanks, sign, digits, rfl, _, _, some, _, _⟩ := decimal
  intro empty
  exact some (List.append_eq_nil_iff.mp empty).2

theorem parseInt_of_fitsLong {arg : List Char} {value : Int} (errno : Nat)
    (decimal : IsDecimal arg value) (fits : FitsLong value) :
    parseInt arg errno = (if errno = ERANGE then none else some (toInt value), errno) := by
  rw [parseInt, (strtol_of_isDecimal errno decimal).1 fits]
  dsimp only
  by_cases stale : errno = ERANGE
  · rw [if_pos (.inr (.inr stale)), if_pos stale]
  · rw [if_neg, if_neg stale]
    rintro (isEmpty | left | isStale)
    · exact decimal.ne_nil isEmpty.symm
    · exact left rfl
    · exact stale isStale

theorem parseInt_of_not_fitsLong {arg : List Char} {value : Int} (errno : Nat)
    (decimal : IsDecimal arg value) (tooLarge : ¬ FitsLong value) :
    parseInt arg errno = (none, ERANGE) := by
  obtain ⟨bound, read⟩ := (strtol_of_isDecimal errno decimal).2 tooLarge
  rw [parseInt, read]
  exact if_pos (.inr (.inr rfl))

theorem isDecimal_of_parseInt {arg : List Char} {errno : Nat} {stored : Int}
    (parsed : (parseInt arg errno).1 = some stored) : ∃ value, IsDecimal arg value := by
  cases scanned : scanDecimal arg with
  | mk negative scannedRest =>
      obtain ⟨digits, rest⟩ := scannedRest
      cases digits with
      | nil =>
          rw [parseInt, strtol, scanned] at parsed
          dsimp only at parsed
          rw [if_pos (.inl rfl)] at parsed
          cases parsed
      | cons first others =>
          have nonempty : first :: others ≠ [] := List.cons_ne_nil _ _
          have ended : (strtol arg errno).2.1 = rest := by
            rw [strtol_of_scanDecimal errno scanned nonempty]
            split
            · rfl
            · split <;> rfl
          cases rest with
          | nil => exact ⟨_, isDecimal_iff.mpr ⟨_, _, scanned, nonempty, rfl⟩⟩
          | cons next left =>
              rw [parseInt] at parsed
              dsimp only at parsed
              rw [ended, if_pos (.inr (.inl (List.cons_ne_nil _ _)))] at parsed
              cases parsed

/-- `read` into an `int` succeeds for an integer that fits one, and then stores it. -/
def ReadsWritten (value : Int) : Prop :=
  ∀ element key, element.objectGet key = some (.integer value) →
    ∀ stored, JSONParser.readInt element key = some stored ↔ FitsInt value ∧ stored = value

/-- `parseInt` succeeds for a decimal integer that fits an `int`, and then stores it. -/
def ParsesWritten (arg : List Char) (errno : Nat) : Prop :=
  ∀ stored, (parseInt arg errno).1 = some stored ↔ IsDecimal arg stored ∧ FitsInt stored

theorem readsWritten_iff_fitsInt {value : Int} : ReadsWritten value ↔ FitsInt value := by
  constructor
  · intro reads
    have found : (Json.object [("key", .integer value)]).objectGet "key" =
        some (.integer value) := rfl
    exact ((reads _ "key" found (toInt value)).mp rfl).1
  · intro fits element key found stored
    rw [JSONParser.readInt, found]
    dsimp only
    rw [toInt_of_fitsInt fits, Option.some_inj]
    exact ⟨fun same => ⟨fits, same.symm⟩, fun same => same.2.symm⟩

theorem parsesWritten_of_isDecimal {arg : List Char} {value : Int} {errno : Nat}
    (decimal : IsDecimal arg value) :
    ParsesWritten arg errno ↔
      (FitsInt value → errno ≠ ERANGE) ∧
        (¬ FitsInt value → FitsLong value → errno = ERANGE) := by
  constructor
  · intro parses
    constructor
    · rintro fits rfl
      have parsed := (parses value).mpr ⟨decimal, fits⟩
      rw [parseInt_of_fitsLong _ decimal fits.fitsLong] at parsed
      cases parsed
    · intro narrow fits
      by_contra fresh
      have parsed : (parseInt arg errno).1 = some (toInt value) := by
        rw [parseInt_of_fitsLong _ decimal fits, if_neg fresh]
      obtain ⟨written, _⟩ := (parses _).mp parsed
      exact narrow (toInt_eq_iff_fitsInt.mp (written.unique decimal))
  · rintro ⟨fresh, stale⟩ stored
    have written : IsDecimal arg stored ∧ FitsInt stored ↔ stored = value ∧ FitsInt value := by
      constructor
      · rintro ⟨isStored, fits⟩
        obtain rfl := isStored.unique decimal
        exact ⟨rfl, fits⟩
      · rintro ⟨rfl, fits⟩
        exact ⟨decimal, fits⟩
    rw [written]
    by_cases fits : FitsInt value
    · rw [parseInt_of_fitsLong _ decimal fits.fitsLong, if_neg (fresh fits),
        toInt_of_fitsInt fits, Option.some_inj]
      exact ⟨fun same => ⟨same.symm, fits⟩, fun same => same.1.symm⟩
    · have refused : (parseInt arg errno).1 = none := by
        by_cases long : FitsLong value
        · rw [parseInt_of_fitsLong _ decimal long, if_pos (stale fits long)]
        · rw [parseInt_of_not_fitsLong _ decimal long]
      rw [refused]
      constructor
      · intro parsed
        cases parsed
      · rintro ⟨_, isInt⟩
        exact absurd isInt fits

theorem parsesWritten_of_not_isDecimal {arg : List Char} (errno : Nat)
    (notDecimal : ∀ value, ¬ IsDecimal arg value) : ParsesWritten arg errno := by
  intro stored
  constructor
  · intro parsed
    obtain ⟨value, decimal⟩ := isDecimal_of_parseInt parsed
    exact absurd decimal (notDecimal value)
  · rintro ⟨decimal, _⟩
    exact absurd decimal (notDecimal stored)

/-- A JSON integer is read as written exactly when it fits an `int`.  A decimal text that fits
is read unless `ERANGE` was left behind; one that only fits a `long` is refused only then. -/
theorem integers_not_narrowed_iff (value : Int) (arg : List Char) (errno : Nat) :
    (ReadsWritten value ↔ FitsInt value) ∧
      (ParsesWritten arg errno ↔
        ∀ written, IsDecimal arg written →
          (FitsInt written → errno ≠ ERANGE) ∧
            (¬ FitsInt written → FitsLong written → errno = ERANGE)) := by
  refine ⟨readsWritten_iff_fitsInt, ?_⟩
  by_cases decimal : ∃ written, IsDecimal arg written
  · obtain ⟨written, isWritten⟩ := decimal
    rw [parsesWritten_of_isDecimal isWritten]
    constructor
    · intro right other isOther
      obtain rfl := isOther.unique isWritten
      exact right
    · intro right
      exact right written isWritten
  · have notDecimal : ∀ written, ¬ IsDecimal arg written := by
      intro written isWritten
      exact decimal ⟨written, isWritten⟩
    constructor
    · intro _ written isWritten
      exact absurd isWritten (notDecimal written)
    · intro _
      exact parsesWritten_of_not_isDecimal errno notDecimal

/-- The text "4294967296" is stored as 0. -/
theorem narrowed_to_zero :
    ¬ (∀ value, ReadsWritten value) ∧ ¬ (∀ arg errno, ParsesWritten arg errno) := by
  constructor
  · intro reads
    have large := readsWritten_iff_fitsInt.mp (reads 4294967296)
    revert large
    decide
  · intro parses
    have stored := (parses "4294967296".toList 0 0).mp (by decide +kernel)
    obtain ⟨negative, digits, scanned, _, isZero⟩ := isDecimal_iff.mp stored.1
    have isScanned : scanDecimal "4294967296".toList =
        (false, "4294967296".toList, []) := by decide +kernel
    cases isScanned.symm.trans scanned
    revert isZero
    decide +kernel

end SoftwareContainers
