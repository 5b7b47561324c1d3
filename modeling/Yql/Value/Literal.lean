import Yql.Text.Quoted
import Yql.Value.Basic

/-!
# Literals

How a value is written in the query language. Texts are quoted, lists stand in
round brackets with commas between the items, and a floating number is written
with the fewest digits and without an exponent. What is not finite has no
literal of its own and is written as the text of its name.
-/

namespace Yql.Value

mutual

def literal : Value → String
  | null => "null"
  | bool b => if b then "true" else "false"
  | int n => toString n.toInt
  | float x => if x.isFinite then x.plainText else Text.quoted x.plainText
  | string text => Text.quoted text
  | list items => "(" ++ Text.joined ", " (literals items) ++ ")"

def literals : List Value → List String
  | [] => []
  | item :: rest => literal item :: literals rest

end

/-- The operand of a membership test: a list as it is, anything else as the
only item of one. -/
def membership : Value → String
  | list items => literal (list items)
  | other => "(" ++ literal other ++ ")"

/-- The text value that holds the literal of a value. -/
def spelled (value : Value) : Value :=
  string (literal value)

instance : ToString Value := ⟨literal⟩

theorem literals_eq_map (items : List Value) : literals items = items.map literal := by
  induction items with
  | nil => rfl
  | cons item rest ih => simp [literals, ih]

end Yql.Value
