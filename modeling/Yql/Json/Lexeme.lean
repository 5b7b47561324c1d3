import Yql.Json.Basic
import Yql.Text.Reader

/-!
# The lexemes of JSON

Blanks, words, strings and numbers at the front of a text. Each reader gives
what it read and the rest of the text, or nothing when the text does not begin
with what it reads.

A number is taken in two steps. Its digits fill a 64-bit word, and those that
no longer fit count only as places; then the word, as a floating number, is
multiplied or divided by the power of ten. Both steps round, so that the
result can be off the nearest number in its last digit.
-/

namespace Yql.Json

open Reader

/-- The blanks that may stand between lexemes. -/
def isBlank (c : Char) : Bool :=
  c = ' ' || c = '\t' || c = '\n' || c = '\r'

def skipBlanks (input : List Char) : List Char :=
  input.dropWhile isBlank

/-! ## Strings -/

/-- The character of an escape by number. Numbers of the first surrogate range
need one of the second after them, and the two stand for one character. -/
def readNumbered : Reader Char := fun input => do
  let (first, rest) ← readHex 4 0 input
  if 0xDC00 ≤ first ∧ first ≤ 0xDFFF then none
  else if 0xD800 ≤ first ∧ first ≤ 0xDBFF then
    match rest with
    | '\\' :: 'u' :: more => do
        let (second, rest) ← readHex 4 0 more
        if 0xDC00 ≤ second ∧ second ≤ 0xDFFF then
          some (Char.ofNat (0x10000 + (first - 0xD800) * 0x400 + (second - 0xDC00)), rest)
        else none
    | _ => none
  else some (Char.ofNat first, rest)

def escapeOf? (c : Char) : Option Char :=
  if c = '"' ∨ c = '\\' ∨ c = '/' then some c
  else if c = 'b' then some '\x08'
  else if c = 't' then some '\t'
  else if c = 'n' then some '\n'
  else if c = 'f' then some '\x0c'
  else if c = 'r' then some '\r'
  else none

/-- One character inside a string, written as it is or escaped. -/
def readChar : Reader Char
  | [] => none
  | '\\' :: 'u' :: rest => readNumbered rest
  | '\\' :: c :: rest => (escapeOf? c).map (·, rest)
  | c :: rest => if c = '\\' ∨ c.toNat < 0x20 then none else some (c, rest)

/-- The characters of a string up to its closing quote; `room` is at least
their number. -/
def readChars : (room : Nat) → Reader (List Char)
  | _, '"' :: rest => some ([], rest)
  | 0, _ => none
  | room + 1, input => do
      let (c, rest) ← readChar input
      let (others, rest) ← readChars room rest
      some (c :: others, rest)

/-- A string, the text standing after its opening quote. -/
def readString (room : Nat) : Reader String := fun input =>
  (readChars room input).map fun (chars, rest) => (String.ofList chars, rest)

/-! ## Numbers -/

structure NumberText where
  negative : Bool
  whole : List Char
  fraction : Option (List Char)
  exponent : Option Int

def readFraction : Reader (Option (List Char))
  | '.' :: rest => (readDigits rest).map fun (digits, rest) => (some digits, rest)
  | rest => some (none, rest)

def readExponent : Reader (Option Int)
  | [] => some (none, [])
  | mark :: rest =>
      if mark = 'e' ∨ mark = 'E' then
        let (negative, digits) := afterSign rest
        (readDigits digits).map fun (digits, rest) =>
          let size : Int := Nat.ofDigitChars 10 digits 0
          (some (if negative then -size else size), rest)
      else some (none, mark :: rest)

/-- A number as it is written: no zero stands before another digit, and a
point has a digit on either side. -/
def readNumberText : Reader NumberText := fun input => do
  let (negative, input) :=
    match input with
    | '-' :: rest => (true, rest)
    | rest => (false, rest)
  let (whole, rest) ← readDigits input
  if whole.head? = some '0' ∧ whole.length ≠ 1 then none
  else
    let (fraction, rest) ← readFraction rest
    let (exponent, rest) ← readExponent rest
    some (⟨negative, whole, fraction, exponent⟩, rest)

/-- Appends digits to a number while a 64-bit word holds it; the digits that
no longer fit are left over. -/
def absorb (n : Nat) : List Char → Nat × List Char
  | [] => (n, [])
  | c :: rest =>
      let next := 10 * n + (c.toNat - '0'.toNat)
      if next < UInt64.size then absorb next rest else (n, c :: rest)

/-- The largest power of ten that a floating number holds. -/
def topPower : Nat := 308

def powerOfTen (exponent : Nat) : Double :=
  Binary.ofNat (Nat.pow 10 exponent)

/-- A word times a power of ten. What is too big is no number; a power too
small to be divided by at once is divided by in two steps, and any smaller one
gives zero. -/
def scaled (n : Nat) (exponent : Int) : Option Double :=
  let x : Double := Binary.ofNat n
  if (topPower : Int) < exponent then if x.isZero then some x else none
  else if 0 ≤ exponent then
    let product := x.mul (powerOfTen exponent.toNat)
    if product.isInfinite then none else some product
  else if -(topPower : Int) ≤ exponent then
    some (x.div (powerOfTen (-exponent).toNat))
  else if -(2 * topPower : Int) ≤ exponent then
    some ((x.div (powerOfTen topPower)).div (powerOfTen (-exponent - topPower).toNat))
  else some (Binary.ofNat 0)

/-- The number that a written number stands for. A whole number that a 64-bit
word cannot hold is floating, and so is a negative zero. -/
def NumberText.value? (text : NumberText) : Option JsonNumber :=
  let (n, excess) := absorb 0 text.whole
  let signed (x : Double) : JsonNumber := .floating (if text.negative then x.negate else x)
  match text.fraction, text.exponent with
  | none, none =>
      if excess ≠ [] then (scaled n excess.length).map signed
      else if !text.negative then some (.whole n)
      else if n = 0 ∨ Nat.pow 2 63 < n then some (signed (Binary.ofNat n))
      else some (.whole (-n))
  | fraction, exponent =>
      let places := fraction.getD []
      let (n, dropped) := absorb n places
      let shift : Int := excess.length - (places.length - dropped.length : Nat)
      (scaled n (shift + exponent.getD 0)).map signed

def readNumber : Reader JsonNumber := fun input => do
  let (text, rest) ← readNumberText input
  let n ← text.value?
  some (n, rest)

end Yql.Json
