import Yql.Binary.Shortest

/-!
# Texts of binary numbers

Three ways to write a number. The plain text has the fewest digits and never
an exponent, and names what is not finite. The wire text is the one of JSON:
it always shows that the number is no integer, and takes an exponent when the
number is very big or very small. The fixed text has a given count of places.
-/

namespace Yql.Binary

variable {format : BinaryFormat}

def signText (x : Binary format) : String :=
  if x.negative then "-" else ""

/-- The fewest digits, all places written out; of two equally near decimals
the upper. -/
def plainText (x : Binary format) : String :=
  if x.isNaN then "NaN"
  else if x.isInfinite then x.signText ++ "inf"
  else x.signText ++ (x.shortest .up).positional

/-- The fewest digits, of two equally near decimals the even one; positional
for powers of ten from the minus fifth to the fifteenth, and then with a point
also after a whole number. -/
def wireText (x : Binary format) : String :=
  let d := x.shortest .even
  let size := if d.coefficient = 0 then 0 else d.magnitude
  x.signText ++
    (if -5 ≤ size ∧ size < 16 then
      if 0 ≤ d.exponent then d.positional ++ ".0" else d.positional
    else d.scientific)

/-- The finite number rounded to that many places after the point, a half to
the even neighbour. -/
def fixedText (x : Binary format) (places : Nat) : String :=
  let ratio := x.ratio
  let unit := Nat.pow 10 places
  let scaled := Rounding.nearest (ratio.1 * unit) ratio.2
  let fraction := Nat.toDigits 10 (scaled % unit)
  x.signText ++ toString (scaled / unit) ++ "." ++
    String.ofList (List.replicate (places - fraction.length) '0' ++ fraction)

end Yql.Binary
