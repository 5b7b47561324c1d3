import Yql.Binary.Rounding

/-!
# Binary floating-point numbers

A number of a binary floating-point format is a sign and a pattern. Patterns
count up with the size of the number: first the numbers of the smallest unit,
then each power of two with its fractions, then infinity, then the patterns
that stand for no number. Two numbers compare as numbers, so that the two
zeros are equal and a non-number equals nothing.
-/

namespace Yql

/-- A binary floating-point format: how many bits hold the fraction and how
many the exponent. -/
structure BinaryFormat where
  fractionBits : Nat
  exponentBits : Nat
  deriving DecidableEq

namespace BinaryFormat

def double : BinaryFormat := ⟨52, 11⟩

def single : BinaryFormat := ⟨23, 8⟩

/-- How many patterns there are, the sign apart. -/
def patterns (format : BinaryFormat) : Nat :=
  Nat.pow 2 (format.exponentBits + format.fractionBits)

def infinity (format : BinaryFormat) : Nat :=
  (Nat.pow 2 format.exponentBits - 1) * Nat.pow 2 format.fractionBits

/-- The exponent of the smallest unit, in which the smallest numbers count. -/
def leastExponent (format : BinaryFormat) : Int :=
  2 - Nat.pow 2 (format.exponentBits - 1) - format.fractionBits

theorem patterns_pos (format : BinaryFormat) : 0 < format.patterns :=
  Nat.pow_pos (by decide)

theorem infinity_lt_patterns (format : BinaryFormat) :
    format.infinity < format.patterns := by
  unfold infinity patterns
  simp only [Nat.pow_eq, Nat.pow_add]
  exact Nat.mul_lt_mul_of_pos_right
    (Nat.sub_lt (Nat.pow_pos (by decide)) (by decide)) (Nat.pow_pos (by decide))

/-- The exponent of the unit in which a number of that pattern counts. -/
def unitExponent (format : BinaryFormat) (pattern : Nat) : Int :=
  format.leastExponent + ((pattern / Nat.pow 2 format.fractionBits - 1 : Nat) : Int)

/-- How many of its units a number of that pattern holds. -/
def units (format : BinaryFormat) (pattern : Nat) : Nat :=
  if pattern / Nat.pow 2 format.fractionBits = 0 then pattern
  else Nat.pow 2 format.fractionBits + pattern % Nat.pow 2 format.fractionBits

/-- The pattern nearest to a positive ratio. The unit is the one that leaves
the format's count of binary digits, and never smaller than the smallest unit;
a number that rounds up to the next power of two moves into the next unit by
itself, because patterns count up. What is too big is infinity. -/
def nearestPattern (format : BinaryFormat) (numerator denominator : Nat) : Nat :=
  if numerator = 0 then 0
  else
    let guess : Int := (Nat.log2 numerator : Int) - Nat.log2 denominator
    let ratio := Rounding.timesPower 2 numerator denominator (-guess)
    let top := if ratio.1 < ratio.2 then guess - 1 else guess
    let unit := max format.leastExponent (top - format.fractionBits)
    let scaled := Rounding.timesPower 2 numerator denominator (-unit)
    let steps := (unit - format.leastExponent).toNat
    min format.infinity
      (steps * Nat.pow 2 format.fractionBits + Rounding.nearest scaled.1 scaled.2)

theorem nearestPattern_lt (format : BinaryFormat) (numerator denominator : Nat) :
    format.nearestPattern numerator denominator < format.patterns := by
  unfold nearestPattern
  split
  · exact format.patterns_pos
  · exact Nat.lt_of_le_of_lt (Nat.min_le_left _ _) format.infinity_lt_patterns

end BinaryFormat

/-- A number of a binary floating-point format, or a pattern that stands for
none. -/
structure Binary (format : BinaryFormat) where
  negative : Bool
  pattern : Nat
  pattern_lt : pattern < format.patterns
  deriving DecidableEq

abbrev Double := Binary .double

abbrev Single := Binary .single

namespace Binary

variable {format : BinaryFormat}

def isNaN (x : Binary format) : Bool :=
  format.infinity < x.pattern

def isInfinite (x : Binary format) : Bool :=
  x.pattern = format.infinity

def isFinite (x : Binary format) : Bool :=
  x.pattern < format.infinity

def isZero (x : Binary format) : Bool :=
  x.pattern = 0

/-- Equality of numbers: the two zeros are equal, and what is no number is not
even equal to itself. -/
def equal (x y : Binary format) : Bool :=
  !x.isNaN && !y.isNaN && (decide (x = y) || (x.isZero && y.isZero))

instance : BEq (Binary format) := ⟨equal⟩

def negate (x : Binary format) : Binary format :=
  { x with negative := !x.negative }

def infinite (negative : Bool) : Binary format :=
  ⟨negative, format.infinity, format.infinity_lt_patterns⟩

/-- The pattern that stands for no number when none is wanted. -/
def missing : Binary format :=
  ⟨false, format.patterns - 1, Nat.sub_lt format.patterns_pos (by decide)⟩

/-- The number of that sign nearest to a ratio. -/
def ofRatio (negative : Bool) (numerator denominator : Nat) : Binary format :=
  ⟨negative, format.nearestPattern numerator denominator,
    format.nearestPattern_lt numerator denominator⟩

def ofNat (n : Nat) : Binary format :=
  ofRatio false n 1

/-- The size of a finite number, as a ratio. -/
def ratio (x : Binary format) : Nat × Nat :=
  Rounding.timesPower 2 (format.units x.pattern) 1 (format.unitExponent x.pattern)

/-- The number nearest to the product; for finite numbers. -/
def mul (x y : Binary format) : Binary format :=
  ofRatio (x.negative != y.negative) (x.ratio.1 * y.ratio.1) (x.ratio.2 * y.ratio.2)

/-- The number nearest to the quotient; for finite numbers and a divisor that
is not zero. -/
def div (x y : Binary format) : Binary format :=
  ofRatio (x.negative != y.negative) (x.ratio.1 * y.ratio.2) (x.ratio.2 * y.ratio.1)

end Binary

end Yql
