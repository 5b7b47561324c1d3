/-!
# Rounding a ratio

Every number of the library that has to be cut to finitely many digits is cut
here: a ratio of natural numbers goes to the nearest natural number, and one
that lies halfway between two goes to the even one.
-/

namespace Yql.Rounding

/-- The natural number nearest to the ratio; a half goes to the even
neighbour. -/
def nearest (numerator denominator : Nat) : Nat :=
  let whole := numerator / denominator
  let rest := numerator % denominator
  if 2 * rest < denominator then whole
  else if denominator < 2 * rest then whole + 1
  else if whole % 2 = 0 then whole else whole + 1

/-- The ratio `numerator / denominator` times a power of the base, whose
exponent has either sign. -/
def timesPower (base : Nat) (numerator denominator : Nat) (exponent : Int) : Nat × Nat :=
  (numerator * Nat.pow base exponent.toNat, denominator * Nat.pow base (-exponent).toNat)

end Yql.Rounding
