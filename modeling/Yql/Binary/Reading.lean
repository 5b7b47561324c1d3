import Yql.Binary.Text
import Yql.Text.Reader

/-!
# Reading binary numbers

A decimal text is read as the nearest number of the format, however many
digits it has: what is too big is infinite, what is too small is zero. The
texts `nan`, `inf` and `infinity` are read in any case, and every text may
begin with a sign.
-/

namespace Yql.Binary

variable {format : BinaryFormat}

/-- The number nearest to a decimal. Powers of ten far outside the format are
recognised by their size and not computed. -/
def ofDecimal (negative : Bool) (d : Decimal) : Binary format :=
  if d.coefficient = 0 then ofRatio negative 0 1
  else if Nat.pow 2 (format.exponentBits - 1) < 3 * d.magnitude then infinite negative
  else if 3 * (d.magnitude + 1) < format.leastExponent - 2 then ofRatio negative 0 1
  else
    let ratio := Rounding.timesPower 10 d.coefficient 1 d.exponent
    ofRatio negative ratio.1 ratio.2

/-- The power of ten after an `e`, or none at the end of the text. -/
def readExponent? : List Char → Option Int
  | [] => some 0
  | mark :: rest =>
      if mark = 'e' ∨ mark = 'E' then
        let (negative, digits) := Reader.afterSign rest
        if digits ≠ [] ∧ digits.all Char.isDigit then
          let size : Int := Nat.ofDigitChars 10 digits 0
          some (if negative then -size else size)
        else none
      else none

/-- A decimal text: digits with a point before, after or between them, and a
power of ten. -/
def readDecimal? (chars : List Char) : Option Decimal :=
  let whole := chars.takeWhile Char.isDigit
  let afterWhole := chars.dropWhile Char.isDigit
  let (places, rest) :=
    match afterWhole with
    | '.' :: more => (more.takeWhile Char.isDigit, more.dropWhile Char.isDigit)
    | more => ([], more)
  if whole = [] ∧ places = [] then none
  else
    (readExponent? rest).map fun exponent =>
      ⟨Nat.ofDigitChars 10 (whole ++ places) 0, exponent - places.length⟩

def read? (text : String) : Option (Binary format) :=
  let (negative, chars) := Reader.afterSign text.toList
  let name := chars.map Char.toLower
  if name = "nan".toList then some missing
  else if name = "inf".toList ∨ name = "infinity".toList then some (infinite negative)
  else (readDecimal? chars).map (ofDecimal negative)

/-- The double-precision number whose plain text is that of the
single-precision number, rather than the number itself: a value that was
written with few digits keeps them. -/
def widen (x : Single) : Double :=
  (read? x.plainText).getD missing

end Yql.Binary
