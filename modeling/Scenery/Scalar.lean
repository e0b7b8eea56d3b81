/-!
# Scalars

What geometry needs of its numbers.  The operations carry no laws: single-precision numbers have
hardly any, and the real numbers bring their own.  Everything geometric in this library is written
over a `Scalar`, so that one definition both runs on machine numbers and can be read in exact
arithmetic.
-/

namespace Scenery

/-- Numbers that geometry can be computed in. -/
class Scalar (α : Type) extends Zero α, One α, Add α, Sub α, Mul α, Div α, Neg α where
  /-- The number nearest to `n / 10 ^ k`. -/
  ofDecimal : Nat → Nat → α
  pi : α
  abs : α → α
  sqrt : α → α
  sin : α → α
  cos : α → α
  asin : α → α
  /-- The angle of the vector whose sine part comes first and cosine part second. -/
  atan2 : α → α → α
  /-- The gap between one and the next larger number. -/
  epsilon : α
  isFinite : α → Bool
  /-- Equality of values, which need not be equality of representations. -/
  eq : α → α → Bool
  lt : α → α → Bool
  le : α → α → Bool

namespace Scalar

variable {α : Type} [Scalar α]

/-- The number nearest to a natural number. -/
def ofNat (n : Nat) : α := ofDecimal n 0

/-- One half. -/
def half : α := ofDecimal 5 1

end Scalar

end Scenery
