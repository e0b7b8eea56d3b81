/-!
# Decimal numbers

A `Decimal` is a nonnegative decimal fraction with its power of ten kept apart: `314 · 10⁻²` is
`⟨314, -2⟩`.  Reading a literal and choosing the digits of a binary number both end in one.
-/

namespace Scenery

/-- The number `coefficient · 10 ^ exponent`. -/
structure Decimal where
  coefficient : Nat
  exponent : Int
  deriving DecidableEq, Repr

namespace Decimal

/-- Numerator of the fraction `numerator / denominator` that equals the number. -/
def numerator (d : Decimal) : Nat :=
  d.coefficient * Nat.pow 10 d.exponent.toNat

/-- Denominator of the fraction `numerator / denominator` that equals the number. -/
def denominator (d : Decimal) : Nat :=
  Nat.pow 10 (-d.exponent).toNat

/-- The digits of the coefficient, without leading zeros. -/
def digits (d : Decimal) : List Char :=
  Nat.toDigits 10 d.coefficient

/-- The power of ten just above the number: a nonzero number lies in
`[10 ^ (d.reach - 1), 10 ^ d.reach)`. -/
def reach (d : Decimal) : Int :=
  d.digits.length + d.exponent

theorem denominator_pos (d : Decimal) : 0 < d.denominator :=
  Nat.pow_pos (by decide)

end Decimal

end Scenery
