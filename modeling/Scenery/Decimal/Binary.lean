import Scenery.Decimal.Basic

/-!
# Binary floating-point formats

A format has `fractionBits` stored bits of significand and `exponentBits` bits of exponent.  Its
nonnegative numbers are counted from zero upwards, and the number of place `n` is written `n` as a
bit pattern: the place of a number grows with the number.  Place `n` stands for
`significand n · 2 ^ unit n`, and the place `infinity` lies above all numbers.

`nearest` goes the other way, from a fraction to the place of the closest number, and is the only
rounding in this library: reading literals, choosing digits and changing the format all use it.
-/

namespace Scenery

/-- The quotient `a / b` rounded to the nearest integer, a half going to the even neighbour. -/
def divRoundEven (a b : Nat) : Nat :=
  let q := a / b
  let r := a % b
  if 2 * r < b then q
  else if b < 2 * r then q + 1
  else q + q % 2

/-- The exponent `k` with `2 ^ k ≤ a / b < 2 ^ (k + 1)`, for positive `a` and `b`. -/
def floorLog2 (a b : Nat) : Int :=
  let k : Int := (a.log2 : Int) - b.log2
  if b * Nat.pow 2 k.toNat ≤ a * Nat.pow 2 (-k).toNat then k else k - 1

/-- A binary floating-point format, by the widths of its two fields. -/
structure BinaryFormat where
  fractionBits : Nat
  exponentBits : Nat
  deriving DecidableEq, Repr

namespace BinaryFormat

/-- The format of 32 bits. -/
def single : BinaryFormat := ⟨23, 8⟩

/-- The format of 64 bits. -/
def double : BinaryFormat := ⟨52, 11⟩

/-- The place above all numbers. -/
def infinity (f : BinaryFormat) : Nat :=
  (Nat.pow 2 f.exponentBits - 1) * Nat.pow 2 f.fractionBits

/-- The exponent of the smallest positive number, `2 ^ leastUnit`. -/
def leastUnit (f : BinaryFormat) : Int :=
  2 - (Nat.pow 2 (f.exponentBits - 1) : Int) - f.fractionBits

/-- The exponent field of a place. -/
def exponentField (f : BinaryFormat) (n : Nat) : Nat :=
  n / Nat.pow 2 f.fractionBits

/-- The integer significand of a place; the leading bit of a normal number is not stored. -/
def significand (f : BinaryFormat) (n : Nat) : Nat :=
  let fraction := n % Nat.pow 2 f.fractionBits
  if f.exponentField n = 0 then fraction else Nat.pow 2 f.fractionBits + fraction

/-- The exponent of the last bit of a place's significand. -/
def unit (f : BinaryFormat) (n : Nat) : Int :=
  f.leastUnit + (f.exponentField n - 1 : Nat)

/-- Numerator of the fraction that a place stands for. -/
def numerator (f : BinaryFormat) (n : Nat) : Nat :=
  f.significand n * Nat.pow 2 (f.unit n).toNat

/-- Denominator of the fraction that a place stands for. -/
def denominator (f : BinaryFormat) (n : Nat) : Nat :=
  Nat.pow 2 (-f.unit n).toNat

/-- The exponent of the last bit that is kept of `a / b`. -/
def keptUnit (f : BinaryFormat) (a b : Nat) : Int :=
  max f.leastUnit (floorLog2 a b - f.fractionBits)

/-- The fraction `a / b` in units of `2 ^ unit`, rounded to an integer. -/
def inUnits (unit : Int) (a b : Nat) : Nat :=
  divRoundEven (a * Nat.pow 2 (-unit).toNat) (b * Nat.pow 2 unit.toNat)

/-- The place of the number nearest to `a / b`, a tie going to the even significand and a fraction
beyond the largest number to `infinity`. -/
def nearest (f : BinaryFormat) (a b : Nat) : Nat :=
  if a = 0 then 0
  else
    let unit := f.keptUnit a b
    -- a significand rounded up to a power of two carries into the exponent, up to infinity
    min f.infinity ((unit - f.leastUnit).toNat * Nat.pow 2 f.fractionBits + inUnits unit a b)

/-- A power of ten beyond the largest number, whose inverse lies below half the smallest one. -/
def decimalReach (f : BinaryFormat) : Nat :=
  Nat.pow 2 (f.exponentBits - 1) + f.fractionBits

/-- The place of the number nearest to a decimal.  Decimals out of the format's reach are settled by
their size alone, so that no huge power is formed. -/
def nearestDecimal (f : BinaryFormat) (d : Decimal) : Nat :=
  if d.coefficient = 0 ∨ d.reach < -f.decimalReach then 0
  else if f.decimalReach < d.reach then f.infinity
  else f.nearest d.numerator d.denominator

/-- The place in `f` of the number nearest to a place of `g`. -/
def ofPlace (f g : BinaryFormat) (n : Nat) : Nat :=
  if g.infinity ≤ n then f.infinity else f.nearest (g.numerator n) (g.denominator n)

end BinaryFormat

end Scenery
