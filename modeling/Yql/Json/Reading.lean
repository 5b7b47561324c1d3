import Yql.Json.Lexeme

/-!
# Reading JSON

A value is read from the front of a text, brackets inside brackets to a
limited depth. The limit is what the reader recurses on: a value inside a
bracket is read with one level less. `room` bounds the number of items and of
characters in any one bracket or string; the length of the text is always
enough.

A value can also be skipped. Skipping only looks at the form: it knows no
depth, it accepts numbers of any size, and it does not ask that escapes by
number make up characters.
-/

namespace Yql.Json

open Reader

variable {α : Type}

/-- Items up to the closing bracket, at least one, with commas between
them. -/
def readItems (item : Reader α) (closing : Char) : (room : Nat) → Reader (List α)
  | 0, _ => none
  | room + 1, input => do
      let (value, rest) ← item input
      match skipBlanks rest with
      | [] => none
      | c :: rest =>
          if c = ',' then do
            let (others, rest) ← readItems item closing room rest
            some (value :: others, rest)
          else if c = closing then some ([value], rest)
          else none

/-- What stands between two brackets, the text standing after the opening
one. -/
def readBracket (item : Reader α) (closing : Char) (room : Nat) : Reader (List α) :=
  fun input =>
    match skipBlanks input with
    | [] => none
    | c :: rest =>
        if c = closing then some ([], rest) else readItems item closing room (c :: rest)

def readMember {ν : Type} (name : Reader ν) (value : Reader α) : Reader (ν × α) :=
  fun input =>
    match skipBlanks input with
    | '"' :: rest => do
        let (name, rest) ← name rest
        match skipBlanks rest with
        | ':' :: rest => do
            let (value, rest) ← value rest
            some ((name, value), rest)
        | _ => none
    | _ => none

/-! ## Values -/

/-- A value without brackets, no blanks standing before it. -/
def readScalar (room : Nat) : Reader Json
  | '"' :: rest => (readString room rest).map fun (text, rest) => (.string text, rest)
  | 'n' :: rest => (afterWord ['u', 'l', 'l'] rest).map (Json.null, ·)
  | 't' :: rest => (afterWord ['r', 'u', 'e'] rest).map (Json.bool true, ·)
  | 'f' :: rest => (afterWord ['a', 'l', 's', 'e'] rest).map (Json.bool false, ·)
  | input => (readNumber input).map fun (n, rest) => (.number n, rest)

/-- A value with at most that many levels of brackets. -/
def readValue (room : Nat) : (levels : Nat) → Reader Json
  | 0 => fun input => readScalar room (skipBlanks input)
  | levels + 1 => fun input =>
      match skipBlanks input with
      | '[' :: rest =>
          (readBracket (readValue room levels) ']' room rest).map fun (items, rest) =>
            (.array items, rest)
      | '\x7b' :: rest =>
          (readBracket (readMember (readString room) (readValue room levels)) '\x7d' room rest).map
            fun (members, rest) => (.ofMembers members, rest)
      | input => readScalar room input

/-- How many levels of brackets a text may have. -/
def levelLimit : Nat := 127

/-- The value that a text holds, with nothing but blanks around it. -/
def read? (text : String) : Option Json :=
  let input := text.toList
  match readValue (input.length + 1) levelLimit input with
  | some (value, rest) => if skipBlanks rest = [] then some value else none
  | none => none

/-! ## Skipping -/

def skipChar : Reader Unit
  | [] => none
  | '\\' :: 'u' :: rest => (readHex 4 0 rest).map fun (_, rest) => ((), rest)
  | '\\' :: c :: rest => (escapeOf? c).map fun _ => ((), rest)
  | c :: rest => if c = '\\' ∨ c.toNat < 0x20 then none else some ((), rest)

/-- Skips a string, the text standing after its opening quote. -/
def skipString : (room : Nat) → Reader Unit
  | _, '"' :: rest => some ((), rest)
  | 0, _ => none
  | room + 1, input => do
      let (_, rest) ← skipChar input
      skipString room rest

def skipScalar (room : Nat) : Reader Unit
  | '"' :: rest => skipString room rest
  | 'n' :: rest => (afterWord ['u', 'l', 'l'] rest).map ((), ·)
  | 't' :: rest => (afterWord ['r', 'u', 'e'] rest).map ((), ·)
  | 'f' :: rest => (afterWord ['a', 'l', 's', 'e'] rest).map ((), ·)
  | input => (readNumberText input).map fun (_, rest) => ((), rest)

/-- Skips a value with at most that many levels of brackets; the length of the
text is always enough. -/
def skipValue (room : Nat) : (levels : Nat) → Reader Unit
  | 0 => fun input => skipScalar room (skipBlanks input)
  | levels + 1 => fun input =>
      match skipBlanks input with
      | '[' :: rest =>
          (readBracket (skipValue room levels) ']' room rest).map fun (_, rest) => ((), rest)
      | '\x7b' :: rest =>
          (readBracket (readMember (skipString room) (skipValue room levels)) '\x7d' room rest).map
            fun (_, rest) => ((), rest)
      | input => skipScalar room input

end Yql.Json
