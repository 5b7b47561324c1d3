import Yql.Text.Reader
import Yql.Toml.Basic

/-!
# The lexemes of TOML

Blanks, comments, keys and the values without brackets: strings of four kinds,
whole numbers to four bases, floating numbers, truth values, and dates and
times. Each reader gives what it read and the rest of the text.
-/

namespace Yql.Toml

open Reader

/-! ## Blanks and lines -/

def isBlank (c : Char) : Bool :=
  c = ' ' || c = '\t'

def skipBlanks (input : List Char) : List Char :=
  input.dropWhile isBlank

/-- The text after the line end it begins with. -/
def afterNewline? : List Char → Option (List Char)
  | '\n' :: rest => some rest
  | '\r' :: '\n' :: rest => some rest
  | _ => none

/-- Whether a character may stand in a comment: all but the control characters
other than the tabulator. -/
def isCommentChar (c : Char) : Bool :=
  c = '\t' || (0x20 ≤ c.toNat && c.toNat ≠ 0x7F)

def skipComment : List Char → List Char
  | '#' :: rest => rest.dropWhile isCommentChar
  | rest => rest

/-- The text after blanks, comments and line ends; `room` bounds the number of
lines. -/
def skipLines : (room : Nat) → List Char → List Char
  | 0, input => input
  | room + 1, input =>
      let rest := skipComment (skipBlanks input)
      match afterNewline? rest with
      | some rest => skipLines room rest
      | none => rest

/-! ## Strings -/

/-- Whether a character may stand in a string of one line as it is, the quotes
and the backslash apart. -/
def isStringChar (c : Char) : Bool :=
  isCommentChar c

def escapeOf? (c : Char) : Option Char :=
  if c = '"' ∨ c = '\\' then some c
  else if c = 'b' then some '\x08'
  else if c = 't' then some '\t'
  else if c = 'n' then some '\n'
  else if c = 'f' then some '\x0c'
  else if c = 'r' then some '\r'
  else none

def charOf? (n : Nat) : Option Char :=
  if n < 0xD800 ∨ (0xE000 ≤ n ∧ n ≤ 0x10FFFF) then some (Char.ofNat n) else none

def readEscape : Reader Char
  | [] => none
  | 'u' :: rest => do
      let (n, rest) ← readHex 4 0 rest
      (charOf? n).map (·, rest)
  | 'U' :: rest => do
      let (n, rest) ← readHex 8 0 rest
      (charOf? n).map (·, rest)
  | c :: rest => (escapeOf? c).map (·, rest)

def readBasic : (room : Nat) → Reader (List Char)
  | 0, _ => none
  | _ + 1, [] => none
  | room + 1, c :: rest =>
      if c = '"' then some ([], rest)
      else if c = '\\' then do
        let (c, rest) ← readEscape rest
        let (others, rest) ← readBasic room rest
        some (c :: others, rest)
      else if isStringChar c then do
        let (others, rest) ← readBasic room rest
        some (c :: others, rest)
      else none

def readLiteral : Reader (List Char)
  | [] => none
  | c :: rest =>
      if c = '\'' then some ([], rest)
      else if isStringChar c then do
        let (others, rest) ← readLiteral rest
        some (c :: others, rest)
      else none

/-- The text after blanks and line ends; `room` bounds their number. -/
def skipSpace : (room : Nat) → List Char → List Char
  | 0, input => input
  | room + 1, input =>
      match afterNewline? input with
      | some rest => skipSpace room rest
      | none =>
          match input with
          | c :: rest => if isBlank c then skipSpace room rest else input
          | [] => []

/-- The quotes that a run of them at the end of a string of several lines
adds to it: three close the string, and up to two before them belong to it. -/
def closingQuotes (run : Nat) : Option Nat :=
  if 3 ≤ run ∧ run ≤ 5 then some (run - 3) else none

/-- The characters of a string of several lines, between the given quotes. In
a basic string a backslash begins an escape, and one at the end of a line
joins the text that follows after blanks and line ends. -/
def readMultiline (quote : Char) (basic : Bool) : (room : Nat) → Reader (List Char)
  | 0, _ => none
  | _ + 1, [] => none
  | room + 1, c :: rest =>
      if c = quote then
        let run := ((c :: rest).takeWhile (· = quote)).length
        let after := (c :: rest).dropWhile (· = quote)
        if 3 ≤ run then
          (closingQuotes run).map fun kept => (List.replicate kept quote, after)
        else do
          let (others, rest) ← readMultiline quote basic room after
          some (List.replicate run quote ++ others, rest)
      else if basic ∧ c = '\\' then
        match afterNewline? (skipBlanks rest) with
        | some more => readMultiline quote basic room (skipSpace more.length more)
        | none => do
            let (c, rest) ← readEscape rest
            let (others, rest) ← readMultiline quote basic room rest
            some (c :: others, rest)
      else
        match afterNewline? (c :: rest) with
        | some rest => do
            let (others, rest) ← readMultiline quote basic room rest
            some ('\n' :: others, rest)
        | none =>
            if isStringChar c then do
              let (others, rest) ← readMultiline quote basic room rest
              some (c :: others, rest)
            else none

/-- A line end right after the opening quotes does not belong to the
string. -/
def afterFirstNewline (input : List Char) : List Char :=
  (afterNewline? input).getD input

def readLineString (room : Nat) : Reader String
  | '"' :: rest => (readBasic room rest).map fun (chars, rest) => (String.ofList chars, rest)
  | '\'' :: rest => (readLiteral rest).map fun (chars, rest) => (String.ofList chars, rest)
  | _ => none

def readString (room : Nat) : Reader String
  | '"' :: '"' :: '"' :: rest =>
      (readMultiline '"' true room (afterFirstNewline rest)).map fun (chars, rest) =>
        (String.ofList chars, rest)
  | '\'' :: '\'' :: '\'' :: rest =>
      (readMultiline '\'' false room (afterFirstNewline rest)).map fun (chars, rest) =>
        (String.ofList chars, rest)
  | input => readLineString room input

/-! ## Keys -/

def isKeyChar (c : Char) : Bool :=
  c.isAlphanum || c = '-' || c = '_'

def readSimpleKey (room : Nat) : Reader String := fun input =>
  match readSome isKeyChar input with
  | some (chars, rest) => some (String.ofList chars, rest)
  | none => readLineString room input

/-- Keys with points between them, blanks allowed around each. -/
def readKey : (room : Nat) → Reader (List String)
  | 0, _ => none
  | room + 1, input => do
      let (key, rest) ← readSimpleKey (room + 1) (skipBlanks input)
      match skipBlanks rest with
      | '.' :: rest => do
          let (others, rest) ← readKey room rest
          some (key :: others, rest)
      | rest => some ([key], rest)

/-! ## Numbers -/

/-- Digits of a class, a single underscore allowed between two of them; the
underscores are dropped. -/
def readGrouped (isMember : Char → Bool) : (room : Nat) → Reader (List Char)
  | 0, _ => none
  | room + 1, input => do
      let (digits, rest) ← readSome isMember input
      match rest with
      | '_' :: rest => do
          let (others, rest) ← readGrouped isMember room rest
          some (digits ++ others, rest)
      | rest => some (digits, rest)

def ofDigits (base : Nat) (digits : List Char) : Nat :=
  digits.foldl (fun n c => n * base + (hexValue? c).getD 0) 0

def wordOf? (n : Int) : Option Toml :=
  if Int64.minValue.toInt ≤ n ∧ n ≤ Int64.maxValue.toInt then some (.integer n) else none

/-- The base that a letter after a leading zero stands for, and its digits. -/
def baseOf? (c : Char) : Option (Nat × (Char → Bool)) :=
  if c = 'x' then some (16, fun d => (hexValue? d).isSome)
  else if c = 'o' then some (8, fun d => '0' ≤ d && d ≤ '7')
  else if c = 'b' then some (2, fun d => d = '0' || d = '1')
  else none

def readBased (room : Nat) : Reader Toml
  | [] => none
  | c :: rest => do
      let (base, isMember) ← baseOf? c
      let (digits, rest) ← readGrouped isMember room rest
      (wordOf? (ofDigits base digits)).map (·, rest)

def readFraction (room : Nat) : Reader (Option (List Char))
  | '.' :: rest =>
      (readGrouped Char.isDigit room rest).map fun (digits, rest) => (some digits, rest)
  | rest => some (none, rest)

def readPower (room : Nat) : Reader (Option Int)
  | [] => some (none, [])
  | mark :: rest =>
      if mark = 'e' ∨ mark = 'E' then
        let (negative, digits) := afterSign rest
        (readGrouped Char.isDigit room digits).map fun (digits, rest) =>
          let size : Int := Nat.ofDigitChars 10 digits 0
          (some (if negative then -size else size), rest)
      else some (none, mark :: rest)

/-- A decimal number, whole or floating, the text standing after the sign. No
zero stands before another digit, and a positive number is not too big to be
held. -/
def readDecimal (room : Nat) (negative : Bool) : Reader Toml := fun input => do
  let (whole, rest) ← readGrouped Char.isDigit room input
  if whole.head? = some '0' ∧ whole.length ≠ 1 then none
  else
    let (fraction, rest) ← readFraction room rest
    let (power, rest) ← readPower room rest
    match fraction, power with
    | none, none =>
        let n : Int := Nat.ofDigitChars 10 whole 0
        (wordOf? (if negative then -n else n)).map (·, rest)
    | fraction, power =>
        let places := fraction.getD []
        let x : Double := Binary.ofDecimal negative
          ⟨Nat.ofDigitChars 10 (whole ++ places) 0, power.getD 0 - places.length⟩
        if x.isInfinite && !negative then none else some (.float x, rest)

def readNumber (room : Nat) (input : List Char) : Option (Toml × List Char) :=
  let (negative, unsigned) := afterSign input
  match input with
  | '0' :: c :: rest =>
      if (baseOf? c).isSome then readBased room (c :: rest) else readDecimal room negative unsigned
  | _ =>
      match unsigned with
      | 'i' :: rest =>
          (afterWord ['n', 'f'] rest).map fun rest => (.float (Binary.infinite negative), rest)
      | 'n' :: rest => (afterWord ['a', 'n'] rest).map fun rest => (.float Binary.missing, rest)
      | unsigned => readDecimal room negative unsigned

/-! ## Dates and times -/

def readPlaces (count : Nat) : Reader Nat := fun input =>
  let digits := input.take count
  if digits.length = count ∧ digits.all Char.isDigit then
    some (Nat.ofDigitChars 10 digits 0, input.drop count)
  else none

/-- A number of two digits in a range, after the separator. -/
def readPart (separator : Char) (low high : Nat) : Reader Nat
  | c :: rest =>
      if c = separator then
        match readPlaces 2 rest with
        | some (n, rest) => if low ≤ n ∧ n ≤ high then some (n, rest) else none
        | none => none
      else none
  | [] => none

def daysIn (year month : Nat) : Nat :=
  if month = 2 then
    if year % 4 = 0 ∧ (year % 100 ≠ 0 ∨ year % 400 = 0) then 29 else 28
  else if month = 4 ∨ month = 6 ∨ month = 9 ∨ month = 11 then 30
  else 31

def readDate : Reader Unit := fun input => do
  let (year, rest) ← readPlaces 4 input
  let (month, rest) ← readPart '-' 1 12 rest
  let (_, rest) ← readPart '-' 1 (daysIn year month) rest
  some ((), rest)

def readTime : Reader Unit := fun input => do
  let (hour, rest) ← readPlaces 2 input
  if hour ≤ 23 then
    let (_, rest) ← readPart ':' 0 59 rest
    let (_, rest) ← readPart ':' 0 60 rest
    match rest with
    | '.' :: more => (readDigits more).map fun (_, rest) => ((), rest)
    | rest => some ((), rest)
  else none

/-- The text after an offset from universal time, if it begins with one. -/
def afterOffset? : List Char → Option (List Char)
  | [] => some []
  | c :: rest =>
      if c = 'Z' ∨ c = 'z' then some rest
      else if c = '+' ∨ c = '-' then do
        let (hours, rest) ← readPlaces 2 rest
        if hours ≤ 23 then
          let (_, rest) ← readPart ':' 0 59 rest
          some rest
        else none
      else some (c :: rest)

def afterMoment? (input : List Char) : Option (List Char) :=
  match readDate input with
  | some ((), rest) =>
      match rest with
      | c :: more =>
          if c = 'T' ∨ c = 't' ∨ c = ' ' then
            match readTime more with
            | some ((), rest) => afterOffset? rest
            | none => some (c :: more)
          else some (c :: more)
      | [] => some []
  | none => (readTime input).map (·.2)

def readMoment : Reader Toml := fun input =>
  (afterMoment? input).map fun rest =>
    (.moment (String.ofList (input.take (input.length - rest.length))), rest)

/-! ## Values without brackets -/

def readScalar (room : Nat) (input : List Char) : Option (Toml × List Char) :=
  match input with
  | '"' :: _ => (readString room input).map fun (text, rest) => (.string text, rest)
  | '\'' :: _ => (readString room input).map fun (text, rest) => (.string text, rest)
  | 't' :: rest => (afterWord ['r', 'u', 'e'] rest).map (Toml.boolean true, ·)
  | 'f' :: rest => (afterWord ['a', 'l', 's', 'e'] rest).map (Toml.boolean false, ·)
  | _ =>
      match readMoment input with
      | some result => some result
      | none => readNumber room input

end Yql.Toml
