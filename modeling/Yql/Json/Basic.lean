import Yql.Binary.Reading
import Yql.KeyMap

/-!
# JSON values

Values of the exchange format. A number without fraction and exponent is kept
as a whole number while a 64-bit word can hold it, and is a floating number
otherwise. The members of an object stand in ascending order of their names.
-/

namespace Yql

/-- A number: whole, in the range of 64-bit words, or floating and finite. -/
inductive JsonNumber where
  | whole (n : Int)
  | floating (x : Double)

namespace JsonNumber

/-- Equality of numbers; a whole number never equals a floating one. -/
def equal : JsonNumber → JsonNumber → Bool
  | whole a, whole b => a = b
  | floating a, floating b => Binary.equal a b
  | _, _ => false

instance : BEq JsonNumber := ⟨equal⟩

end JsonNumber

inductive Json where
  | null
  | bool (b : Bool)
  | number (n : JsonNumber)
  | string (text : String)
  | array (items : List Json)
  | object (members : List (String × Json))
  deriving Inhabited

namespace Json

mutual

/-- Equality of values, numbers compared as numbers. -/
def equal : Json → Json → Bool
  | null, null => true
  | bool a, bool b => a = b
  | number a, number b => JsonNumber.equal a b
  | string a, string b => a = b
  | array a, array b => equalItems a b
  | object a, object b => equalMembers a b
  | _, _ => false

def equalItems : List Json → List Json → Bool
  | [], [] => true
  | a :: as, b :: bs => equal a b && equalItems as bs
  | _, _ => false

def equalMembers : List (String × Json) → List (String × Json) → Bool
  | [], [] => true
  | (name, a) :: as, (name', b) :: bs => name = name' && equal a b && equalMembers as bs
  | _, _ => false

end

instance : BEq Json := ⟨equal⟩

/-- The object of members in the order they were met; of members with the same
name the last counts. -/
def ofMembers (members : List (String × Json)) : Json :=
  object (KeyMap.ofList members).entries

end Json

end Yql
