import Yql.Text.Joined

/-!
# Decimal numbers and their texts

A decimal is a coefficient and a power of ten. It is written in one of two
ways: positionally, with every place that the power of ten asks for, or with
an exponent, one digit before the point. What a format does with a whole
number, with the sign of the exponent and with sizes at which it changes from
one way to the other is said where the format is used.
-/

namespace Yql

/-- The number `coefficient · 10 ^ exponent`. -/
structure Decimal where
  coefficient : Nat
  exponent : Int
  deriving DecidableEq

namespace Decimal

/-- How many decimal digits a natural number has. -/
def length (n : Nat) : Nat :=
  (Nat.toDigits 10 n).length

/-- The exponent of the first digit: the number lies between that power of ten
and the next. -/
def magnitude (d : Decimal) : Int :=
  length d.coefficient - 1 + d.exponent

/-- Zeros at the end of the coefficient are moved into the exponent; `bound`
is the number of zeros looked for. -/
def trim (d : Decimal) : (bound : Nat) → Decimal
  | 0 => d
  | bound + 1 =>
      if d.coefficient ≠ 0 ∧ d.coefficient % 10 = 0 then
        trim ⟨d.coefficient / 10, d.exponent + 1⟩ bound
      else d

/-- The digits with a point after the first `whole` of them; places that have
no digit hold a zero, and no point stands at the end. -/
def pointed (digits : List Char) (whole : Int) : List Char :=
  if whole ≤ 0 then '0' :: '.' :: List.replicate (-whole).toNat '0' ++ digits
  else if digits.length ≤ whole.toNat then
    digits ++ List.replicate (whole.toNat - digits.length) '0'
  else digits.take whole.toNat ++ '.' :: digits.drop whole.toNat

/-- All places written out, and no point after a whole number. -/
def positional (d : Decimal) : String :=
  if d.coefficient = 0 then "0"
  else String.ofList (pointed (Nat.toDigits 10 d.coefficient) (d.magnitude + 1))

/-- One digit, the others after a point if there are others, and the power of
ten with its sign. -/
def scientific (d : Decimal) : String :=
  String.ofList (pointed (Nat.toDigits 10 d.coefficient) 1) ++ "e"
    ++ (if d.magnitude < 0 then "-" else "+") ++ toString d.magnitude.natAbs

end Decimal

end Yql
