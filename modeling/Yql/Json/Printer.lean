import Yql.Json.Basic
import Yql.Text.Joined

/-!
# Writing JSON

The compact layout has no blanks; the wide layout gives every item and member
a line of its own, indented by two more blanks than the brackets around it,
and writes empty brackets on one line. In a string the quote, the backslash
and the control characters are escaped, and nothing else.
-/

namespace Yql.Json

def hexDigit (n : Nat) : Char :=
  Nat.digitChar n

def escapedChar (c : Char) : List Char :=
  if c = '"' then ['\\', '"']
  else if c = '\\' then ['\\', '\\']
  else if c = '\x08' then ['\\', 'b']
  else if c = '\t' then ['\\', 't']
  else if c = '\n' then ['\\', 'n']
  else if c = '\x0c' then ['\\', 'f']
  else if c = '\r' then ['\\', 'r']
  else if c.toNat < 0x20 then
    ['\\', 'u', '0', '0', hexDigit (c.toNat / 16), hexDigit (c.toNat % 16)]
  else [c]

def stringText (text : String) : String :=
  "\"" ++ String.ofList (text.toList.flatMap escapedChar) ++ "\""

def numberText : JsonNumber → String
  | .whole n => toString n
  | .floating x => x.wireText

mutual

def compact : Json → String
  | null => "null"
  | bool b => if b then "true" else "false"
  | number n => numberText n
  | string text => stringText text
  | array items => "[" ++ Text.joined "," (compactItems items) ++ "]"
  | object members => "\x7b" ++ Text.joined "," (compactMembers members) ++ "\x7d"

def compactItems : List Json → List String
  | [] => []
  | item :: rest => compact item :: compactItems rest

def compactMembers : List (String × Json) → List String
  | [] => []
  | (name, value) :: rest =>
      (stringText name ++ ":" ++ compact value) :: compactMembers rest

end

/-- The lines between two brackets, or nothing when there are none. -/
def bracketed (opening closing : String) (depth : Nat) : List String → String
  | [] => opening ++ closing
  | lines =>
      opening ++ "\n" ++ Text.joined ",\n" lines ++ "\n" ++ Text.repeated "  " depth ++ closing

mutual

/-- The wide text of a value inside that many brackets. -/
def wide (depth : Nat) : Json → String
  | null => "null"
  | bool b => if b then "true" else "false"
  | number n => numberText n
  | string text => stringText text
  | array items => bracketed "[" "]" depth (wideItems (depth + 1) items)
  | object members => bracketed "\x7b" "\x7d" depth (wideMembers (depth + 1) members)

def wideItems (depth : Nat) : List Json → List String
  | [] => []
  | item :: rest =>
      (Text.repeated "  " depth ++ wide depth item) :: wideItems depth rest

def wideMembers (depth : Nat) : List (String × Json) → List String
  | [] => []
  | (name, value) :: rest =>
      (Text.repeated "  " depth ++ stringText name ++ ": " ++ wide depth value)
        :: wideMembers depth rest

end

def pretty (value : Json) : String :=
  wide 0 value

end Yql.Json
