import Scenery.Geometry.Matrix
import Scenery.Proofs.Single.Text

/-!
# Arithmetic that rounds nothing away

Sums, products and quotients are rounded once, so those whose exact value is a number give that number:
a factor one and a summand zero change nothing but the sign of a zero.  So the identity matrix keeps
every finite point in value.

* `one_mul_of_isFinite`    one is neutral
* `isFinite_mul_half`      half of a finite number is finite
* `Mat4.applyPoint_one`    the identity keeps points
-/

namespace Scenery

namespace Single

open BinaryFormat (single)

variable {x y z : Single}

/-! ### Places -/

/-- The place behind the sign is the one that it was made of. -/
theorem place_ofPlace {negative : Bool} {n : Nat} (h : n < signBit) :
    (ofPlace negative n).place = n := by
  unfold signBit at h
  cases negative with
  | true =>
    simp only [place, ofPlace, signBit, ↓reduceIte, UInt32.toNat_ofNat']
    omega
  | false =>
    simp only [place, ofPlace, signBit, Bool.false_eq_true, ↓reduceIte, UInt32.toNat_ofNat']
    omega

/-- The nearest place leaves the sign alone. -/
private theorem nearest_lt_signBit (a b : Nat) : single.nearest a b < signBit := by
  have hinfinity : single.infinity < signBit := by decide
  refine Nat.lt_of_le_of_lt ?_ hinfinity
  unfold BinaryFormat.nearest
  split
  · exact Nat.zero_le _
  · exact Nat.min_le_left _ _

/-- Rounding gives the nearest place. -/
theorem place_round (negative : Bool) (a b : Nat) :
    (round negative a b).place = single.nearest a b :=
  place_ofPlace (nearest_lt_signBit a b)

/-- A zero of either sign. -/
def IsZero (x : Single) : Prop := x.place = 0

theorem isFinite_of_isZero (h : x.IsZero) : x.isFinite = true := by
  have hplace : x.place = 0 := h
  rw [isFinite, hplace]
  decide

/-- Equal finite numbers are the same number, or zeros of any signs. -/
theorem eq_iff_of_isFinite (hx : x.isFinite = true) (hy : y.isFinite = true) :
    x.eq y = true ↔ x = y ∨ x.IsZero ∧ y.IsZero := by
  simp [eq, IsZero, not_isNaN_of_isFinite hx, not_isNaN_of_isFinite hy]

/-! ### Exact results -/

private theorem numerator_of_isZero (h : x.IsZero) : x.numerator = 0 := by
  have hplace : x.place = 0 := h
  rw [numerator, hplace]
  decide

private theorem denominator_pos (x : Single) : 0 < x.denominator :=
  single.denominator_pos x.place

/-- A fraction that is the magnitude of a number is rounded to it. -/
private theorem round_eq_self (h : x.isFinite = true) {a b : Nat} (hb : 0 < b)
    (hab : (a : ℚ) / b = (x.numerator : ℚ) / x.denominator) : round x.isNegative a b = x := by
  have hplace : x.place < single.infinity := of_decide_eq_true h
  rw [round, single.nearest_congr hb (denominator_pos x) hab]
  unfold numerator denominator
  rw [single.nearest_place hplace, ofPlace_magnitude]

private theorem numerator_one : numerator 1 = denominator 1 := by
  decide

private theorem isNegative_one : isNegative 1 = false := by
  decide

private theorem isFinite_one : isFinite 1 = true := by
  decide

/-- One is neutral. -/
theorem one_mul_of_isFinite (h : x.isFinite = true) : 1 * x = x := by
  have hone : (denominator 1 : ℚ) ≠ 0 := Nat.cast_ne_zero.2 (denominator_pos 1).ne'
  have hmul : 1 * x = round x.isNegative (numerator 1 * x.numerator) (denominator 1 * x.denominator) := by
    show mul 1 x = _
    simp [mul, not_isNaN_of_isFinite h, not_isNaN_of_isFinite isFinite_one, isNegative_one,
      isFinite_one, h]
  rw [hmul]
  apply round_eq_self h (Nat.mul_pos (denominator_pos 1) (denominator_pos x))
  rw [numerator_one]
  push_cast
  rw [mul_div_mul_left _ _ hone]

/-- A finite number divided by one is itself: the quotient is exact, so rounding keeps it. -/
theorem div_one_of_isFinite (h : x.isFinite = true) : x / 1 = x := by
  have hone : (denominator 1 : ℚ) ≠ 0 := Nat.cast_ne_zero.2 (denominator_pos 1).ne'
  have hplace : ((1 : Single).place == 0) = false := by decide
  have hdiv : x / 1 = round x.isNegative (x.numerator * denominator 1) (x.denominator * numerator 1) := by
    show div x 1 = _
    simp [div, not_isNaN_of_isFinite h, not_isNaN_of_isFinite isFinite_one, isNegative_one,
      isFinite_one, h, hplace]
  rw [hdiv]
  rw [numerator_one]
  apply round_eq_self h (Nat.mul_pos (denominator_pos x) (denominator_pos 1))
  push_cast
  rw [mul_div_mul_right _ _ hone]

/-- Zero times a number is a zero. -/
theorem isZero_zero_mul (hz : z.IsZero) (h : x.isFinite = true) : (z * x).IsZero := by
  have hfinite := isFinite_of_isZero hz
  show (mul z x).place = 0
  simp only [mul, not_isNaN_of_isFinite h, not_isNaN_of_isFinite hfinite, hfinite, h, Bool.or_self,
    Bool.and_self, Bool.false_eq_true, ↓reduceIte, place_round, numerator_of_isZero hz, zero_mul]
  rfl

/-- Finite numbers are added as fractions. -/
private theorem add_eq_addFinite (hx : x.isFinite = true) (hy : y.isFinite = true) :
    x + y = addFinite x y := by
  show add x y = _
  simp [add, not_isNaN_of_isFinite hx, not_isNaN_of_isFinite hy, hx, hy]

/-- The sum of fractions does not depend on the order. -/
private theorem addFinite_comm (x y : Single) : addFinite x y = addFinite y x := by
  simp only [addFinite, Int.add_comm (x.signedNumerator * _), Bool.and_comm x.isNegative,
    Nat.mul_comm x.denominator]

/-- A zero of either sign has the signed numerator zero. -/
private theorem signedNumerator_of_isZero (hz : z.IsZero) : z.signedNumerator = 0 := by
  simp [signedNumerator, numerator_of_isZero hz]

/-- The sum of zeros is a zero. -/
theorem isZero_add (hx : x.IsZero) (hy : y.IsZero) : (x + y).IsZero := by
  rw [add_eq_addFinite (isFinite_of_isZero hx) (isFinite_of_isZero hy)]
  show (addFinite x y).place = 0
  simp only [addFinite, place_round, signedNumerator_of_isZero hx, signedNumerator_of_isZero hy]
  simp [BinaryFormat.nearest]

/-- The numerator of a number that is no zero is positive. -/
private theorem numerator_pos (hx : ¬x.IsZero) : 0 < x.numerator :=
  Nat.mul_pos (single.significand_pos (Nat.pos_of_ne_zero hx)) (Nat.pow_pos two_pos)

/-- Adding a zero changes no other number. -/
theorem add_zero_of_not_isZero (h : x.isFinite = true) (hx : ¬x.IsZero) (hz : z.IsZero) :
    x + z = x := by
  have hnum := numerator_pos hx
  have hden := denominator_pos z
  have hsigned : x.signedNumerator = if x.isNegative then -(x.numerator : ℤ) else x.numerator := rfl
  rw [add_eq_addFinite h (isFinite_of_isZero hz)]
  unfold addFinite
  rw [signedNumerator_of_isZero hz, zero_mul, add_zero]
  -- the sum is the other number's fraction with another denominator, sign included
  have hne : x.signedNumerator * (z.denominator : ℤ) ≠ 0 := by
    apply mul_ne_zero
    · rw [hsigned]
      split <;> omega
    · omega
  have hneg : decide (x.signedNumerator * (z.denominator : ℤ) < 0) = x.isNegative := by
    rw [hsigned]
    cases x.isNegative with
    | true =>
      simp only [↓reduceIte, neg_mul, Left.neg_neg_iff, decide_eq_true_eq]
      positivity
    | false =>
      simp only [Bool.false_eq_true, ↓reduceIte, decide_eq_false_iff_not, not_lt]
      positivity
  have habs : (x.signedNumerator * (z.denominator : ℤ)).natAbs = x.numerator * z.denominator := by
    rw [Int.natAbs_mul, Int.natAbs_natCast, hsigned]
    split <;> simp
  simp only [if_neg hne, hneg, habs]
  -- the fraction has a place already, so rounding keeps it
  apply round_eq_self h (Nat.mul_pos (denominator_pos x) hden)
  have hz' : (z.denominator : ℚ) ≠ 0 := Nat.cast_ne_zero.2 hden.ne'
  push_cast
  rw [mul_div_mul_right _ _ hz']

/-- Half of a finite number is finite: it is no larger. -/
theorem isFinite_mul_half (h : x.isFinite = true) : (x * Scalar.half).isFinite = true := by
  have hhalf : (Scalar.half : Single).isFinite = true := by decide
  -- the fraction that stands for one half
  have hnum : ((Scalar.half : Single).numerator : ℚ) = 2 ^ 23 := by
    have hnat : (Scalar.half : Single).numerator = 2 ^ 23 := by decide
    rw [hnat]
    norm_num
  have hden : ((Scalar.half : Single).denominator : ℚ) = 2 ^ 24 := by
    have hnat : (Scalar.half : Single).denominator = 2 ^ 24 := by decide
    rw [hnat]
    norm_num
  have hmul : (x * Scalar.half).place =
      single.nearest (x.numerator * (Scalar.half : Single).numerator)
        (x.denominator * (Scalar.half : Single).denominator) := by
    show (mul x Scalar.half).place = _
    simp [mul, not_isNaN_of_isFinite h, not_isNaN_of_isFinite hhalf, h, hhalf, place_round]
  have hplace : x.place < single.infinity := of_decide_eq_true h
  -- rounding is monotone, so the rounded half is at most the number itself
  have hle : single.nearest (x.numerator * (Scalar.half : Single).numerator)
      (x.denominator * (Scalar.half : Single).denominator) ≤
        single.nearest x.numerator x.denominator := by
    apply single.nearest_le_nearest (Nat.mul_pos (denominator_pos x) (denominator_pos _))
      (denominator_pos x)
    push_cast
    rw [hnum, hden, mul_div_mul_comm]
    have hvalue : (0 : ℚ) ≤ (x.numerator : ℚ) / x.denominator := by positivity
    linarith
  have hself : single.nearest x.numerator x.denominator = x.place := single.nearest_place hplace
  rw [isFinite, decide_eq_true_eq, hmul]
  omega

/-! ### Numbers up to the sign of zero -/

/-- The same number, or zeros of any signs. -/
private def Near (x y : Single) : Prop := x = y ∨ x.IsZero ∧ y.IsZero

/-- A number near a finite one is finite. -/
private theorem Near.isFinite (h : Near x y) (hy : y.isFinite = true) : x.isFinite = true := by
  rcases h with h | h
  · rw [h]
    exact hy
  · exact isFinite_of_isZero h.1

/-- Adding a zero stays near. -/
private theorem Near.add_zero (h : Near x y) (hy : y.isFinite = true) (hz : z.IsZero) :
    Near (x + z) y := by
  -- only a zero can change its sign here
  by_cases hx : x.IsZero
  · right
    refine ⟨isZero_add hx hz, ?_⟩
    rcases h with h | h
    · rw [← h]
      exact hx
    · exact h.2
  · left
    rw [add_zero_of_not_isZero (h.isFinite hy) hx hz]
    rcases h with h | h
    · exact h
    · exact absurd h.1 hx

/-- Adding to a zero stays near. -/
private theorem near_zero_add (hx : x.isFinite = true) (hz : z.IsZero) : Near (z + x) x := by
  have hcomm : z + x = x + z := by
    rw [add_eq_addFinite (isFinite_of_isZero hz) hx, addFinite_comm,
      ← add_eq_addFinite hx (isFinite_of_isZero hz)]
  rw [hcomm]
  exact Near.add_zero (.inl rfl) hx hz

private theorem isZero_zero : IsZero 0 := by
  show (0 : Single).place = 0
  decide

/-- Numbers near each other compare as equal. -/
private theorem Near.eq (h : Near x y) (hy : y.isFinite = true) : Scalar.eq x y = true :=
  (eq_iff_of_isFinite (h.isFinite hy) hy).2 h

end Single

namespace Mat4

open Single

/-- The identity is its own inverse. -/
theorem inverse?_one : (1 : Mat4 Single).inverse? = some 1 := by
  decide +kernel

/-- The identity keeps every finite point in value. -/
theorem applyPoint_one {p : Vec3 Single} (hp : ∀ x ∈ p.toList, x.isFinite = true) :
    ((1 : Mat4 Single).applyPoint p).eq p = true := by
  obtain ⟨x, y, z⟩ := p
  simp only [Vec3.toList, List.forall_mem_cons, List.not_mem_nil, false_implies, implies_true,
    and_true] at hp
  obtain ⟨hx, hy, hz⟩ := hp
  have hzx := isZero_zero_mul isZero_zero hx
  have hzy := isZero_zero_mul isZero_zero hy
  have hzz := isZero_zero_mul isZero_zero hz
  -- the last row gives one, by which nothing is changed
  have hscale : (1 : Mat4 Single).m41 * x + (1 : Mat4 Single).m42 * y + (1 : Mat4 Single).m43 * z +
      (1 : Mat4 Single).m44 = 1 := by
    rcases near_zero_add isFinite_one (isZero_add (isZero_add hzx hzy) hzz) with h | h
    · exact h
    · exact absurd h.2 (by unfold IsZero; decide)
  have himage : (1 : Mat4 Single).applyPoint ⟨x, y, z⟩ =
      ⟨(1 * x + 0 * y + 0 * z + 0) / 1, (0 * x + 1 * y + 0 * z + 0) / 1,
        (0 * x + 0 * y + 1 * z + 0) / 1⟩ := by
    have hone : Scalar.eq (1 : Single) 0 = false := by decide
    unfold applyPoint
    simp only [hscale, hone]
    rfl
  -- each component is a sum of the component itself and zeros
  have hnearx : Near (1 * x + 0 * y + 0 * z + 0) x := by
    rw [one_mul_of_isFinite hx]
    exact (((Near.add_zero (.inl rfl) hx hzy).add_zero hx hzz).add_zero hx isZero_zero)
  have hneary : Near (0 * x + 1 * y + 0 * z + 0) y := by
    rw [one_mul_of_isFinite hy]
    exact ((near_zero_add hy hzx).add_zero hy hzz).add_zero hy isZero_zero
  have hnearz : Near (0 * x + 0 * y + 1 * z + 0) z := by
    rw [one_mul_of_isFinite hz]
    exact (near_zero_add hz (isZero_add hzx hzy)).add_zero hz isZero_zero
  rw [himage, div_one_of_isFinite (hnearx.isFinite hx), div_one_of_isFinite (hneary.isFinite hy),
    div_one_of_isFinite (hnearz.isFinite hz)]
  simp only [Vec3.eq, hnearx.eq hx, hneary.eq hy, hnearz.eq hz, Bool.and_self]

end Mat4

end Scenery
