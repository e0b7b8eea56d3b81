import Scenery.Decimal.Basic

/-!
# Laying out digits

A decimal is written with its digits around a point, or with one digit before the point and the
power of ten behind an `e`.  What an output chooses between is collected in a `Layout`.
-/

namespace Scenery

/-- The choices of one output of numbers. -/
structure Layout where
  /-- An integral number keeps a `.0`. -/
  pointZero : Bool
  /-- The powers of ten `lo ≤ p < hi` whose numbers are written around a point; no bounds means that
  all are. -/
  around : Option (Int × Int)
  /-- What stands for no number. -/
  nan : String

namespace Layout

/-- Digits around a point. -/
def positional (pointZero : Bool) (d : Decimal) : List Char :=
  let ds := d.digits
  let places := (-d.exponent).toNat
  if places = 0 then
    ds ++ List.replicate d.exponent.toNat '0' ++ (if pointZero then ['.', '0'] else [])
  else if places < ds.length then
    ds.take (ds.length - places) ++ '.' :: ds.drop (ds.length - places)
  else
    '0' :: '.' :: (List.replicate (places - ds.length) '0' ++ ds)

/-- One digit before the point and the power of ten behind an `e`. -/
def scientific (d : Decimal) : List Char :=
  let fraction := match d.digits with
    | [] => []
    | [c] => [c]
    | c :: ds => c :: '.' :: ds
  fraction ++ 'e' :: (toString (d.reach - 1)).toList

/-- The text of a nonnegative decimal. -/
def digits (l : Layout) (d : Decimal) : List Char :=
  match l.around with
  | none => positional l.pointZero d
  | some (lo, hi) =>
    if lo ≤ d.reach - 1 ∧ d.reach - 1 < hi then positional l.pointZero d else scientific d

end Layout

end Scenery
