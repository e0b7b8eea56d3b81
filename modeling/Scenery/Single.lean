import Scenery.Decimal.Shortest
import Scenery.Decimal.Literal
import Scenery.Decimal.Layout
import Scenery.Scalar

/-!
# Single-precision numbers

A `Single` is a binary floating-point number of 32 bits, held as its bit pattern: a sign bit above
the place of its magnitude in `BinaryFormat.single`.  Reading, writing, comparing and changing the
format are integer computations on the pattern, and so are sums, products and quotients, which are
the exact results rounded once.  Square roots and the functions of angles are the machine's.

* `ofPlace_magnitude`   a number is its sign and its place
-/

namespace Scenery

/-- A single-precision number, by its bit pattern. -/
structure Single where
  bits : UInt32
  deriving DecidableEq, Inhabited

namespace Single

open BinaryFormat (single double)

/-- The bit of the sign, as a number. -/
def signBit : Nat := 0x80000000

/-- The number with a sign (true is minus) and the place of its magnitude. -/
def ofPlace (negative : Bool) (place : Nat) : Single :=
  ⟨UInt32.ofNat (if negative then signBit + place else place)⟩

/-- The sign bit is set. -/
def isNegative (x : Single) : Bool :=
  signBit ≤ x.bits.toNat

/-- The place of the magnitude. -/
def place (x : Single) : Nat :=
  x.bits.toNat % signBit

/-- The positive infinity. -/
def infinity : Single := ofPlace false single.infinity

/-- What results from a computation without a value. -/
def nan : Single := ⟨0x7FC00000⟩

/-- The place is beyond that of infinity. -/
def isNaN (x : Single) : Bool :=
  single.infinity < x.place

/-- The place is before that of infinity. -/
def isFinite (x : Single) : Bool :=
  x.place < single.infinity

/-- A number is its sign with its place. -/
theorem ofPlace_magnitude (x : Single) : ofPlace x.isNegative x.place = x := by
  obtain ⟨b⟩ := x
  have hb := b.toNat_lt
  simp only [ofPlace, isNegative, place, signBit]
  congr 1
  apply UInt32.toNat.inj
  by_cases h : 0x80000000 ≤ b.toNat <;> simp only [h, decide_true, decide_false, if_true,
    Bool.false_eq_true, if_false, UInt32.toNat_ofNat'] <;> omega

/-! ### Comparison -/

/-- Equality of values: the two zeros are equal, and what is no number equals nothing. -/
def eq (x y : Single) : Bool :=
  !x.isNaN && !y.isNaN && (x == y || (x.place == 0 && y.place == 0))

/-- The value's rank among all values, negative numbers first. -/
def rank (x : Single) : Int :=
  if x.isNegative then -(x.place : Int) else x.place

/-- Less in value; what is no number is not less than anything. -/
def lt (x y : Single) : Bool :=
  !x.isNaN && !y.isNaN && decide (x.rank < y.rank)

/-- Less or equal in value. -/
def le (x y : Single) : Bool :=
  !x.isNaN && !y.isNaN && decide (x.rank ≤ y.rank)

/-! ### Arithmetic -/

/-- Numerator of the fraction that a finite number's magnitude is. -/
def numerator (x : Single) : Nat := single.numerator x.place

/-- Denominator of the fraction that a finite number's magnitude is. -/
def denominator (x : Single) : Nat := single.denominator x.place

/-- The number with a sign that is nearest to the magnitude `a / b`. -/
def round (negative : Bool) (a b : Nat) : Single :=
  ofPlace negative (single.nearest a b)

/-- The number with the other sign. -/
def neg (x : Single) : Single := ofPlace (!x.isNegative) x.place

/-- The magnitude. -/
def abs (x : Single) : Single := ofPlace false x.place

/-- The numerator with the number's sign. -/
def signedNumerator (x : Single) : Int :=
  if x.isNegative then -(x.numerator : Int) else x.numerator

/-- The sum of two finite numbers; a zero is negative only if both of them are. -/
def addFinite (x y : Single) : Single :=
  let n := x.signedNumerator * y.denominator + y.signedNumerator * x.denominator
  let negative := if n = 0 then x.isNegative && y.isNegative else n < 0
  round negative n.natAbs (x.denominator * y.denominator)

/-- The sum; infinities of different signs have none. -/
def add (x y : Single) : Single :=
  if x.isNaN || y.isNaN then nan
  else if x.isFinite then if y.isFinite then addFinite x y else y
  else if y.isFinite || x.isNegative == y.isNegative then x
  else nan

/-- The product; that of zero and infinity is none. -/
def mul (x y : Single) : Single :=
  let negative := x.isNegative != y.isNegative
  if x.isNaN || y.isNaN then nan
  else if x.isFinite && y.isFinite then
    round negative (x.numerator * y.numerator) (x.denominator * y.denominator)
  else if x.place == 0 || y.place == 0 then nan
  else ofPlace negative single.infinity

/-- The quotient; two zeros and two infinities have none. -/
def div (x y : Single) : Single :=
  let negative := x.isNegative != y.isNegative
  if x.isNaN || y.isNaN then nan
  else if !y.isFinite then if x.isFinite then ofPlace negative 0 else nan
  else if !x.isFinite then ofPlace negative single.infinity
  else if y.place == 0 then if x.place == 0 then nan else ofPlace negative single.infinity
  else round negative (x.numerator * y.denominator) (x.denominator * y.numerator)

/-- The machine number of the same bit pattern. -/
def toFloat (x : Single) : Float32 := Float32.ofBits x.bits

/-- The number of a machine number's bit pattern. -/
def ofFloat (x : Float32) : Single := ⟨x.toBits⟩

/-- The number nearest to a natural number. -/
def ofNat (n : Nat) : Single := ofPlace false (single.nearest n 1)

/-- The number nearest to an integer. -/
def ofInt (n : Int) : Single := ofPlace (n < 0) (single.nearest n.natAbs 1)

/-- The number nearest to `n / 10 ^ k`. -/
def ofDecimal (n k : Nat) : Single := ofPlace false (single.nearest n (Nat.pow 10 k))

instance : Scalar Single where
  zero := ofPlace false 0
  one := ofNat 1
  add := add
  sub x y := add x y.neg
  mul := mul
  div := div
  neg := neg
  ofDecimal := ofDecimal
  pi := ofDecimal 314159265358979323846 20
  abs := abs
  sqrt x := ofFloat x.toFloat.sqrt
  sin x := ofFloat x.toFloat.sin
  cos x := ofFloat x.toFloat.cos
  asin x := ofFloat x.toFloat.asin
  atan2 x y := ofFloat (Float32.atan2 x.toFloat y.toFloat)
  epsilon := ofPlace false (single.nearest 1 (Nat.pow 2 23))
  isFinite := isFinite
  eq := eq
  lt := lt
  le := le

/-! ### Text -/

/-- The number nearest to a literal's magnitude. -/
def ofMagnitude (negative : Bool) : Magnitude → Single
  | .number d => ofPlace negative (single.nearestDecimal d)
  | .infinity => ofPlace negative single.infinity
  | .nan => nan

/-- The number that a literal denotes. -/
def ofText? (s : List Char) : Option Single :=
  let (negative, rest) := Magnitude.spanSign s
  (Magnitude.ofText? rest).map (ofMagnitude negative)

/-- The number in a layout, with the fewest digits that read back in `format`.  The digits are those
of single precision, or of double precision for a reader that takes all numbers as such. -/
def textIn (l : Layout) (format : BinaryFormat) (x : Single) : List Char :=
  if x.isNaN then l.nan.toList
  else
    let magnitude :=
      if x.isFinite then l.digits (format.shortest (format.ofPlace single x.place))
      else ['i', 'n', 'f']
    if x.isNegative then '-' :: magnitude else magnitude

/-- The number in a layout, with the fewest digits that read back. -/
def text (l : Layout) (x : Single) : List Char :=
  textIn l single x

/-- The number nearest to the double-precision number nearest to a literal's magnitude. -/
def ofMagnitudeByDouble (negative : Bool) : Magnitude → Single
  | .number d => ofPlace negative (single.ofPlace double (double.nearestDecimal d))
  | .infinity => ofPlace negative single.infinity
  | .nan => nan

end Single

end Scenery
