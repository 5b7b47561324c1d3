import Yql.Binary.Basic
import Yql.Decimal

/-!
# The shortest decimal of a binary number

A finite number is written with as few digits as tell it apart from its
neighbours: any decimal closer to it than to both neighbours reads back as the
number, and so does one halfway to a neighbour when the number's count of
units is even. Of the decimals with that few digits the nearest is taken.
-/

namespace Yql

/-- Which of two equally near decimals is taken. -/
inductive Tie
  | up
  | even
  deriving DecidableEq

namespace Binary

variable {format : BinaryFormat}

/-- The decimals that read back as a number, in quarters of its unit: the
number itself, the two ends, and whether the ends belong to it. Below a power
of two the neighbour is half as far away as above. -/
structure Interval where
  value : Nat
  low : Nat
  high : Nat
  closed : Bool

def interval (x : Binary format) : Interval :=
  let count := format.units x.pattern
  let narrow : Bool :=
    count = Nat.pow 2 format.fractionBits ∧ 1 < x.pattern / Nat.pow 2 format.fractionBits
  { value := 4 * count
    low := if narrow then 4 * count - 1 else 4 * count - 2
    high := 4 * count + 2
    closed := count % 2 = 0 }

/-- Whether the ratio lies in the interval, `scale` being a quarter of the
unit. -/
def Interval.holds (i : Interval) (scale candidate : Nat × Nat) : Bool :=
  let middle := candidate.1 * scale.2
  let low := i.low * scale.1 * candidate.2
  let high := i.high * scale.1 * candidate.2
  if i.closed then low ≤ middle ∧ middle ≤ high else low < middle ∧ middle < high

/-- Of the two neighbours of the number on the grid of that power of ten, the
one that reads back as the number; of two, the nearer. -/
def onGrid (x : Binary format) (tie : Tie) (exponent : Int) : Option Decimal :=
  let i := x.interval
  let scale := Rounding.timesPower 2 1 1 (format.unitExponent x.pattern - 2)
  let scaled := Rounding.timesPower 10 (i.value * scale.1) scale.2 (-exponent)
  let below := scaled.1 / scaled.2
  let rest := scaled.1 % scaled.2
  let reads (n : Nat) : Bool := i.holds scale (Rounding.timesPower 10 n 1 exponent)
  let upper : Bool :=
    if 2 * rest = scaled.2 then
      match tie with
      | .up => true
      | .even => below % 2 = 1
    else scaled.2 < 2 * rest
  match reads below, reads (below + 1) with
  | true, true => some ⟨if upper then below + 1 else below, exponent⟩
  | true, false => some ⟨below, exponent⟩
  | false, true => some ⟨below + 1, exponent⟩
  | false, false => none

/-- The power of ten at or below the number. -/
def tenExponent (x : Binary format) : Int :=
  let ratio := x.ratio
  let guess : Int := (Decimal.length ratio.1 : Int) - Decimal.length ratio.2
  let scaled := Rounding.timesPower 10 ratio.1 ratio.2 (-guess)
  if scaled.1 < scaled.2 then guess - 1 else guess

/-- The finest of the grids that have to be looked at: seventeen digits tell
any two numbers of double precision apart. -/
def finest : Nat := 17

/-- The first of the grids, from coarse to fine, that holds a decimal reading
back as the number. -/
def firstGrid (x : Binary format) (tie : Tie) (top : Int) : (grids : Nat) → Decimal
  | 0 => ⟨0, 0⟩
  | grids + 1 =>
      match x.onGrid tie (top - (finest - (grids + 1) : Nat)) with
      | some d => d
      | none => firstGrid x tie top grids

/-- The decimal with the fewest digits that reads back as the finite number,
without zeros at its end. -/
def shortest (x : Binary format) (tie : Tie) : Decimal :=
  if x.isZero then ⟨0, 0⟩
  else (x.firstGrid tie x.tenExponent finest).trim finest

end Binary

end Yql
