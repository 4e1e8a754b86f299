import Mathlib.Algebra.Group.Int.Defs
import Mathlib.Algebra.Group.Nat.Defs
import Mathlib.Data.List.Basic

namespace SoftwareContainers

/-- A value as jansson builds it.  Only the kind of a real number is ever
looked at. -/
inductive Json where
  | null
  | boolean (value : Bool)
  | integer (value : Int)
  | real (text : String)
  | string (value : String)
  | array (elements : List Json)
  | object (members : List (String × Json))
  deriving Inhabited

namespace Json

def isObject : Json → Bool
  | .object _ => true
  | _ => false

/-- `json_object_get`: null for a missing key and for anything but an object. -/
def objectGet (key : String) : Json → Option Json
  | .object members => members.lookup key
  | _ => none

/-- `json_array_foreach` visits nothing unless the value is an array. -/
def elements : Json → List Json
  | .array elements => elements
  | _ => []

@[simp] theorem objectGet_object (key : String) (members : List (String × Json)) :
    (object members).objectGet key = members.lookup key := rfl

end Json

def toInt (value : Int) : Int := value.bmod (2 ^ 32)

def FitsInt (value : Int) : Prop := -2 ^ 31 ≤ value ∧ value < 2 ^ 31

instance (value : Int) : Decidable (FitsInt value) :=
  inferInstanceAs (Decidable (_ ∧ _))

theorem toInt_of_fitsInt {value : Int} (fits : FitsInt value) :
    toInt value = value := by
  obtain ⟨lower, upper⟩ := fits
  rw [toInt, Int.bmod_def]
  split <;> omega

theorem fitsInt_toInt (value : Int) : FitsInt (toInt value) := by
  rw [toInt, Int.bmod_def, FitsInt]
  split <;> omega

theorem toInt_eq_iff_fitsInt {value : Int} : toInt value = value ↔ FitsInt value := by
  constructor
  · intro same
    rw [← same]
    exact fitsInt_toInt value
  · exact toInt_of_fitsInt

/-! `JSONParser`: the overloads of `read`; `none` is a return value of false,
which leaves the result reference as it was. -/

namespace JSONParser

def readString (element : Json) (key : String) : Option String :=
  match element.objectGet key with
  | some (.string value) => some value
  | _ => none

def readBool (element : Json) (key : String) : Option Bool :=
  match element.objectGet key with
  | some (.boolean value) => some value
  | _ => none

def readInt (element : Json) (key : String) : Option Int :=
  match element.objectGet key with
  | some (.integer value) => some (toInt value)
  | _ => none

def hasKey (element : Json) (key : String) : Bool :=
  (element.objectGet key).isSome

def readOptionalString (element : Json) (key previous : String) : Option String :=
  if hasKey element key then readString element key else some previous

def readOptionalBool (element : Json) (key : String) (previous : Bool) :
    Option Bool :=
  if hasKey element key then readBool element key else some previous

end JSONParser

end SoftwareContainers
