import Yql.Binary.Reading

/-!
# Values

The operands of query predicates: scalars and lists of values, nested to any
depth. Values compare as data, except that numbers of the floating kind
compare as numbers; a whole number and a floating one are never equal.
-/

namespace Yql

inductive Value where
  | null
  | bool (b : Bool)
  | int (n : Int64)
  | float (x : Double)
  | string (text : String)
  | list (items : List Value)
  deriving Inhabited

namespace Value

mutual

def equal : Value → Value → Bool
  | null, null => true
  | bool a, bool b => a = b
  | int a, int b => a = b
  | float a, float b => Binary.equal a b
  | string a, string b => a = b
  | list a, list b => equalAll a b
  | _, _ => false

def equalAll : List Value → List Value → Bool
  | [], [] => true
  | a :: as, b :: bs => equal a b && equalAll as bs
  | _, _ => false

end

instance : BEq Value := ⟨equal⟩

/-- The value of a whole number; one that a 64-bit word cannot hold becomes
the text of its digits. -/
def ofInt (n : Int) : Value :=
  if Int64.minValue.toInt ≤ n ∧ n ≤ Int64.maxValue.toInt then int (Int64.ofInt n)
  else string (toString n)

/-- The value of a single-precision number keeps the few digits that it is
written with. -/
def ofSingle (x : Single) : Value :=
  float (Binary.widen x)

def ofOption : Option Value → Value
  | some value => value
  | none => null

def isText : Value → Bool
  | string _ => true
  | _ => false

def text? : Value → Option String
  | string text => some text
  | _ => none

def texts? : Value → Option (List String)
  | list items => items.mapM text?
  | _ => none

end Value

end Yql
