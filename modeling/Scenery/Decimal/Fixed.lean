import Scenery.Single

/-!
# Fixed places

Numbers with a given number of decimal places, rounded from the exact value.
-/

namespace Scenery

/-- The fraction `a / b` rounded to the nearest number with some decimal places. -/
def fixedPlaces (places a b : Nat) : Decimal :=
  ⟨divRoundEven (a * Nat.pow 10 places) b, -(places : Int)⟩

namespace Single

open BinaryFormat (single)

/-- The number with some decimal places; a result that is zero has no sign. -/
def fixed (places : Nat) (x : Single) : String :=
  if x.isNaN then "NaN"
  else
    let magnitude := fixedPlaces places (single.numerator x.place) (single.denominator x.place)
    let sign := if x.isNegative && !(x.isFinite && magnitude.coefficient == 0) then "-" else ""
    sign ++ if x.isFinite then String.ofList (Layout.positional false magnitude) else "inf"

end Single

end Scenery
