import Scenery.Decimal.Binary

/-!
# Shortest digits

The fewest decimal digits that read back as a given binary number, and of those the nearest to it.
On each decimal grid only the two neighbours of the number are tried: if any point of the grid reads
back, one of them does.
-/

namespace Scenery.BinaryFormat

/-- The exponent `k` with `10 ^ k ≤ a / b < 10 ^ (k + 1)`, for positive `a` and `b`. -/
def floorLog10 (a b : Nat) : Int :=
  let k : Int := ((Nat.toDigits 10 a).length : Int) - (Nat.toDigits 10 b).length
  if b * Nat.pow 10 k.toNat ≤ a * Nat.pow 10 (-k).toNat then k else k - 1

/-- The point of the grid of multiples of `10 ^ k` that reads back as place `n` and is nearest to
it, the upper one of two equally near, if one of its two neighbours reads back. -/
def onGrid? (f : BinaryFormat) (n : Nat) (k : Int) : Option Decimal :=
  let a := f.numerator n * Nat.pow 10 (-k).toNat
  let b := f.denominator n * Nat.pow 10 k.toNat
  let below : Decimal := ⟨a / b, k⟩
  let above : Decimal := ⟨a / b + 1, k⟩
  match f.nearestDecimal below == n, f.nearestDecimal above == n with
  -- the remainder tells which one is nearer
  | true, true => some (if 2 * (a % b) < b then below else above)
  | true, false => some below
  | false, true => some above
  | false, false => none

/-- All digits of place `n`: every binary fraction is a decimal fraction. -/
def exact (f : BinaryFormat) (n : Nat) : Decimal :=
  let unit := f.unit n
  ⟨f.significand n * Nat.pow 2 unit.toNat * Nat.pow 5 (-unit).toNat, min unit 0⟩

/-- The decimal with the fewest digits that reads back as place `n`, nearest to it among those; zero
has the digit zero.  The grids are tried from the coarsest on, which is the power of ten above the
number, and as many as the format has significant digits. -/
def shortest (f : BinaryFormat) (n : Nat) : Decimal :=
  if n = 0 then ⟨0, 0⟩
  else
    let top := floorLog10 (f.numerator n) (f.denominator n) + 1
    let grids := (List.range (f.fractionBits / 3 + 3)).map fun (places : Nat) => top - places
    (grids.findSome? (f.onGrid? n)).getD (f.exact n)

/-- The digits of a place below `infinity` read back as that place, on every grid. -/
theorem nearestDecimal_of_onGrid? {f : BinaryFormat} {n : Nat} {k : Int} {d : Decimal}
    (h : f.onGrid? n k = some d) : f.nearestDecimal d = n := by
  unfold onGrid? at h
  grind

end Scenery.BinaryFormat
