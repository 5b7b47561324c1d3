/-!
# Reading from the front of a text

A reader takes something from the front of a text and gives the rest, or gives
nothing when the text does not begin with what it reads. The readers here are
the ones that several formats share.
-/

namespace Yql

/-- Reads something at the front of a text and gives the rest. -/
abbrev Reader (α : Type) := List Char → Option (α × List Char)

namespace Reader

def afterWord : (word : List Char) → List Char → Option (List Char)
  | [], input => some input
  | _ :: _, [] => none
  | c :: word, d :: input => if c = d then afterWord word input else none

/-- Characters of a class at the front of a text, at least one. -/
def readSome (isMember : Char → Bool) : Reader (List Char) := fun input =>
  let members := input.takeWhile isMember
  if members = [] then none else some (members, input.dropWhile isMember)

def readDigits : Reader (List Char) := readSome Char.isDigit

def hexValue? (c : Char) : Option Nat :=
  if '0' ≤ c ∧ c ≤ '9' then some (c.toNat - '0'.toNat)
  else if 'a' ≤ c ∧ c ≤ 'f' then some (c.toNat - 'a'.toNat + 10)
  else if 'A' ≤ c ∧ c ≤ 'F' then some (c.toNat - 'A'.toNat + 10)
  else none

/-- The number of that many hexadecimal digits, added to the digits read
before. -/
def readHex : (count : Nat) → (before : Nat) → Reader Nat
  | 0, before, input => some (before, input)
  | _ + 1, _, [] => none
  | count + 1, before, c :: rest =>
      match hexValue? c with
      | some digit => readHex count (before * 16 + digit) rest
      | none => none

/-- A sign, if the text begins with one: whether it is the minus sign, and the
rest. -/
def afterSign : List Char → Bool × List Char
  | '-' :: rest => (true, rest)
  | '+' :: rest => (false, rest)
  | rest => (false, rest)

end Reader

end Yql
