import Yql.Text.Printable

/-!
# Texts shown in messages

A text is shown between double quotes so that its extent and its odd
characters can be seen: quotes, backslashes and the common control characters
are written with a backslash and a letter, and other characters that would not
be visible with their number.
-/

namespace Yql.Text

def hexText (n : Nat) : String :=
  String.ofList (Nat.toDigits 16 n)

def shownChar (c : Char) : String :=
  if c = '"' then "\\\""
  else if c = '\\' then "\\\\"
  else if c = '\n' then "\\n"
  else if c = '\t' then "\\t"
  else if c = '\r' then "\\r"
  else if c.toNat = 0 then "\\0"
  else if isVisible c then String.singleton c
  else "\\u\x7b" ++ hexText c.toNat ++ "\x7d"

def shownChars : List Char → String
  | [] => ""
  | c :: rest => shownChar c ++ shownChars rest

def shown (text : String) : String :=
  "\"" ++ shownChars text.toList ++ "\""

end Yql.Text
