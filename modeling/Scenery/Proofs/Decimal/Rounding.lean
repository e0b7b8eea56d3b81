import Mathlib.Data.Int.Log
import Mathlib.Tactic
import Scenery.Decimal.Binary

/-!
# Rounding to a binary format

`BinaryFormat.nearest` works on a numerator and a denominator.  Here it is read as a function of the
rational number they stand for, and shown to be monotone and to leave the numbers of the format as
they are.

* `nearest_le_nearest`  a larger fraction has no smaller nearest place
* `nearest_congr`       equal fractions have the same nearest place
* `nearest_place`       each place below infinity is the nearest place to its own fraction
-/

namespace Scenery

/-- An integral power as a quotient of two natural powers, one of which is one. -/
private theorem zpow_eq_pow_div_pow {x : ℚ} (hx : x ≠ 0) (k : ℤ) :
    x ^ k = x ^ k.toNat / x ^ (-k).toNat := by
  rw [← zpow_natCast, ← zpow_natCast, ← zpow_sub₀ hx]
  congr 1
  omega

/-- Two natural numbers with the two parts of a power of `x` on their sides compare as their
quotient and the power do. -/
private theorem mul_pow_le_mul_pow_iff {a b x : Nat} (hb : 0 < b) (hx : 0 < x) (k : ℤ) :
    b * Nat.pow x k.toNat ≤ a * Nat.pow x (-k).toNat ↔ (x : ℚ) ^ k ≤ (a : ℚ) / b := by
  have hbq : (0 : ℚ) < b := by exact_mod_cast hb
  have hxq : (0 : ℚ) < x := by exact_mod_cast hx
  rw [zpow_eq_pow_div_pow hxq.ne' k, div_le_div_iff₀ (by positivity) hbq]
  simp only [Nat.pow_eq]
  rw [mul_comm b]
  exact_mod_cast Iff.rfl

/-! ### Logarithms -/

/-- A logarithm is the exponent of the power at or below a number. -/
private theorem log_eq_of_le_of_lt {b : Nat} (hb : 1 < b) {x : ℚ} {k : ℤ} (hx : 0 < x)
    (hle : (b : ℚ) ^ k ≤ x) (hlt : x < (b : ℚ) ^ (k + 1)) : Int.log b x = k := by
  refine le_antisymm ?_ ((Int.zpow_le_iff_le_log hb hx).1 hle)
  have hlog := (Int.lt_zpow_iff_log_lt hb hx).1 hlt
  omega

/-- The powers of two around a quotient, by the logarithms of its parts. -/
private theorem quotient_between {a b : Nat} (ha : 0 < a) (hb : 0 < b) :
    (2 : ℚ) ^ ((a.log2 : ℤ) - b.log2 - 1) ≤ (a : ℚ) / b ∧
      (a : ℚ) / b < (2 : ℚ) ^ ((a.log2 : ℤ) - b.log2 + 1) := by
  have hbq : (0 : ℚ) < b := by exact_mod_cast hb
  have ha1 : (2 : ℚ) ^ a.log2 ≤ a := by exact_mod_cast Nat.log2_self_le ha.ne'
  have ha2 : (a : ℚ) < 2 ^ (a.log2 + 1) := by exact_mod_cast Nat.lt_log2_self
  have hb1 : (2 : ℚ) ^ b.log2 ≤ b := by exact_mod_cast Nat.log2_self_le hb.ne'
  have hb2 : (b : ℚ) < 2 ^ (b.log2 + 1) := by exact_mod_cast Nat.lt_log2_self
  constructor
  · rw [sub_sub, zpow_sub₀ two_ne_zero, div_le_div_iff₀ (by positivity) hbq]
    calc (2 : ℚ) ^ (a.log2 : ℤ) * b ≤ a * b := by rw [zpow_natCast]; gcongr
      _ ≤ a * 2 ^ ((b.log2 : ℤ) + 1) := by
        gcongr
        exact_mod_cast hb2.le
  · rw [sub_add_eq_add_sub, zpow_sub₀ two_ne_zero, div_lt_div_iff₀ hbq (by positivity)]
    calc (a : ℚ) * 2 ^ (b.log2 : ℤ) ≤ a * b := by rw [zpow_natCast]; gcongr
      _ < 2 ^ ((a.log2 : ℤ) + 1) * b := by
        gcongr
        exact_mod_cast ha2

/-- `floorLog2` is the logarithm of the quotient. -/
theorem floorLog2_eq_log {a b : Nat} (ha : 0 < a) (hb : 0 < b) :
    floorLog2 a b = Int.log 2 ((a : ℚ) / b) := by
  obtain ⟨hlo, hhi⟩ := quotient_between ha hb
  have hx : (0 : ℚ) < (a : ℚ) / b := by positivity
  unfold floorLog2
  simp only [mul_pow_le_mul_pow_iff hb two_pos, Nat.cast_ofNat]
  -- the powers around the quotient leave two candidates, and the test tells which one it is
  split
  · rename_i hle
    exact (log_eq_of_le_of_lt one_lt_two hx (by exact_mod_cast hle) (by exact_mod_cast hhi)).symm
  · rename_i hlt
    refine (log_eq_of_le_of_lt one_lt_two hx (by exact_mod_cast hlo) ?_).symm
    rw [sub_add_cancel]
    exact_mod_cast not_le.1 hlt

/-! ### Rounding to an integer -/

/-- A common factor does not change the rounded quotient. -/
private theorem divRoundEven_mul_right {a b m : Nat} (hm : 0 < m) :
    divRoundEven (a * m) (b * m) = divRoundEven a b := by
  unfold divRoundEven
  rw [Nat.mul_div_mul_right _ _ hm, Nat.mul_mod_mul_right]
  simp only [← mul_assoc, Nat.mul_lt_mul_right hm]

/-- Rounding the quotient of a larger number over the same denominator. -/
private theorem divRoundEven_mono_left {a c : Nat} (b : Nat) (h : a ≤ c) :
    divRoundEven a b ≤ divRoundEven c b := by
  have hq : a / b ≤ c / b := Nat.div_le_div_right h
  unfold divRoundEven
  rcases hq.lt_or_eq with hlt | heq
  · -- the upper neighbour of the smaller quotient is at most the larger quotient
    grind
  · -- over the same integer the remainders decide
    have hr : a % b ≤ c % b := by
      have ha := Nat.div_add_mod a b
      have hc := Nat.div_add_mod c b
      rw [heq] at ha
      omega
    grind

/-- A larger fraction has no smaller rounded value. -/
theorem divRoundEven_le_divRoundEven {a b c d : Nat} (hb : 0 < b) (hd : 0 < d)
    (h : (a : ℚ) / b ≤ (c : ℚ) / d) : divRoundEven a b ≤ divRoundEven c d := by
  rw [div_le_div_iff₀ (by exact_mod_cast hb) (by exact_mod_cast hd)] at h
  -- over a common denominator only the numerators differ
  rw [← divRoundEven_mul_right hd, ← divRoundEven_mul_right hb (a := c), mul_comm d b]
  exact divRoundEven_mono_left _ (by exact_mod_cast h)

/-- An integer is its own rounded value. -/
theorem divRoundEven_self_mul (n : Nat) {b : Nat} (hb : 0 < b) : divRoundEven (n * b) b = n := by
  unfold divRoundEven
  simp [Nat.mul_div_cancel _ hb, hb]

/-- A fraction of at most an integer rounds to at most that integer. -/
private theorem divRoundEven_le {a b n : Nat} (hb : 0 < b) (h : (a : ℚ) / b ≤ n) :
    divRoundEven a b ≤ n := by
  rw [← divRoundEven_self_mul n one_pos]
  exact divRoundEven_le_divRoundEven hb one_pos (by simpa using h)

/-- A fraction of at least an integer rounds to at least that integer. -/
private theorem le_divRoundEven {a b n : Nat} (hb : 0 < b) (h : (n : ℚ) ≤ (a : ℚ) / b) :
    n ≤ divRoundEven a b := by
  rw [← divRoundEven_self_mul n one_pos]
  exact divRoundEven_le_divRoundEven one_pos hb (by simpa using h)

/-! ### Rounding to a format -/

namespace BinaryFormat

variable (f : BinaryFormat)

/-- The number that a place stands for. -/
def value (n : Nat) : ℚ := f.significand n * (2 : ℚ) ^ f.unit n

theorem denominator_pos (n : Nat) : 0 < f.denominator n := Nat.pow_pos two_pos

/-- A place stands for the quotient of its numerator and its denominator. -/
theorem value_eq_div (n : Nat) : f.value n = (f.numerator n : ℚ) / f.denominator n := by
  simp only [value, numerator, denominator, Nat.pow_eq]
  rw [zpow_eq_pow_div_pow two_ne_zero]
  push_cast
  ring

/-- The fraction that `inUnits` rounds. -/
private theorem scaled_eq {a b : Nat} (hb : 0 < b) (unit : ℤ) :
    ((a * Nat.pow 2 (-unit).toNat : Nat) : ℚ) / (b * Nat.pow 2 unit.toNat : Nat) =
      (a : ℚ) / b / 2 ^ unit := by
  have hbq : (b : ℚ) ≠ 0 := by exact_mod_cast hb.ne'
  rw [zpow_eq_pow_div_pow two_ne_zero]
  simp only [Nat.pow_eq]
  push_cast
  field_simp

/-- A denominator in units stays positive. -/
private theorem scale_pos {b : Nat} (hb : 0 < b) (unit : ℤ) : 0 < b * Nat.pow 2 unit.toNat :=
  Nat.mul_pos hb (Nat.pow_pos two_pos)

/-- Rounding to a multiple of a unit keeps the order. -/
theorem inUnits_le_inUnits {a b c d : Nat} (hb : 0 < b) (hd : 0 < d) (unit : ℤ)
    (h : (a : ℚ) / b ≤ (c : ℚ) / d) : inUnits unit a b ≤ inUnits unit c d := by
  apply divRoundEven_le_divRoundEven (scale_pos hb unit) (scale_pos hd unit)
  rw [scaled_eq hb, scaled_eq hd]
  gcongr

/-- The kept unit grows with the fraction. -/
private theorem keptUnit_le_keptUnit {a b c d : Nat} (ha : 0 < a) (hb : 0 < b) (hc : 0 < c)
    (hd : 0 < d) (h : (a : ℚ) / b ≤ (c : ℚ) / d) : f.keptUnit a b ≤ f.keptUnit c d := by
  have hx : (0 : ℚ) < (a : ℚ) / b := by positivity
  unfold keptUnit
  rw [floorLog2_eq_log ha hb, floorLog2_eq_log hc hd]
  have hlog := Int.log_mono_right (b := 2) hx h
  omega

/-- The significand has at most one bit more than the fraction field, or is the next power of
two. -/
private theorem inUnits_keptUnit_le {a b : Nat} (ha : 0 < a) (hb : 0 < b) :
    inUnits (f.keptUnit a b) a b ≤ 2 ^ (f.fractionBits + 1) := by
  have hx : (0 : ℚ) < (a : ℚ) / b := by positivity
  apply divRoundEven_le (scale_pos hb _)
  rw [scaled_eq hb, div_le_iff₀ (by positivity)]
  -- the fraction lies below the power of two above its logarithm
  have hlog := Int.lt_zpow_succ_log_self one_lt_two ((a : ℚ) / b)
  refine hlog.le.trans ?_
  push_cast
  rw [← zpow_natCast, ← zpow_add₀ two_ne_zero]
  apply zpow_le_zpow_right₀ one_le_two
  unfold keptUnit
  rw [floorLog2_eq_log ha hb]
  push_cast
  omega

/-- Above the least unit the significand has the leading bit. -/
private theorem le_inUnits_keptUnit {a b : Nat} (ha : 0 < a) (hb : 0 < b)
    (h : f.leastUnit < f.keptUnit a b) :
    2 ^ f.fractionBits ≤ inUnits (f.keptUnit a b) a b := by
  have hx : (0 : ℚ) < (a : ℚ) / b := by positivity
  apply le_divRoundEven (scale_pos hb _)
  rw [scaled_eq hb, le_div_iff₀ (by positivity)]
  -- above the least unit the kept unit follows from the logarithm alone
  refine le_trans ?_ (Int.zpow_log_le_self one_lt_two hx)
  push_cast
  rw [← zpow_natCast, ← zpow_add₀ two_ne_zero]
  apply zpow_le_zpow_right₀ one_le_two
  unfold keptUnit at h ⊢
  rw [floorLog2_eq_log ha hb] at h ⊢
  omega

/-- A larger fraction has no smaller nearest place. -/
theorem nearest_le_nearest {a b c d : Nat} (hb : 0 < b) (hd : 0 < d)
    (h : (a : ℚ) / b ≤ (c : ℚ) / d) : f.nearest a b ≤ f.nearest c d := by
  rcases Nat.eq_zero_or_pos a with rfl | ha
  · simp [nearest]
  have hx : (0 : ℚ) < (a : ℚ) / b := by positivity
  have hc : 0 < c := by
    rcases Nat.eq_zero_or_pos c with rfl | hc
    · simp at h
      exact absurd (hx.trans_le h) (lt_irrefl _)
    · exact hc
  unfold nearest
  rw [if_neg ha.ne', if_neg hc.ne']
  apply min_le_min_left
  simp only [Nat.pow_eq]
  rcases (f.keptUnit_le_keptUnit ha hb hc hd h).lt_or_eq with hlt | heq
  · -- the larger unit alone makes up for the largest significand in the smaller one
    have hleast : f.leastUnit ≤ f.keptUnit a b := le_max_left _ _
    have hsmall := f.inUnits_keptUnit_le ha hb
    have hlarge := f.le_inUnits_keptUnit hc hd (hleast.trans_lt hlt)
    have hunits : (f.keptUnit a b - f.leastUnit).toNat + 1 ≤ (f.keptUnit c d - f.leastUnit).toNat := by
      omega
    have hmul := Nat.mul_le_mul_right (2 ^ f.fractionBits) hunits
    rw [Nat.add_mul, one_mul] at hmul
    rw [pow_succ] at hsmall
    omega
  · rw [heq]
    exact Nat.add_le_add_left (inUnits_le_inUnits hb hd _ h) _

/-- Equal fractions have the same nearest place. -/
theorem nearest_congr {a b c d : Nat} (hb : 0 < b) (hd : 0 < d)
    (h : (a : ℚ) / b = (c : ℚ) / d) : f.nearest a b = f.nearest c d :=
  le_antisymm (f.nearest_le_nearest hb hd h.le) (f.nearest_le_nearest hd hb h.ge)

/-! ### The numbers of a format -/

/-- The number behind a positive place is positive. -/
theorem significand_pos {n : Nat} (hn : 0 < n) : 0 < f.significand n := by
  have hdiv := Nat.div_add_mod n (2 ^ f.fractionBits)
  unfold significand exponentField
  simp only [Nat.pow_eq]
  split
  · rename_i h
    rw [h] at hdiv
    omega
  · positivity

/-- The unit of a place is the one that rounding keeps of its number. -/
private theorem keptUnit_place {n : Nat} (hn : 0 < n) :
    f.keptUnit (f.numerator n) (f.denominator n) = f.unit n := by
  have hs := f.significand_pos hn
  have hv : 0 < f.value n := by
    unfold value
    positivity
  unfold keptUnit
  have hnum : 0 < f.numerator n := Nat.mul_pos hs (Nat.pow_pos two_pos)
  rw [floorLog2_eq_log hnum (f.denominator_pos n), ← f.value_eq_div]
  by_cases hE : f.exponentField n = 0
  · -- a subnormal number lies below the first binade of the least unit
    have hlt : f.value n < (2 : ℚ) ^ (f.leastUnit + f.fractionBits) := by
      have hfrac : f.significand n < 2 ^ f.fractionBits := by
        simp only [significand, hE, ↓reduceIte, Nat.pow_eq]
        exact Nat.mod_lt _ (by positivity)
      simp only [value, unit, hE, Nat.zero_sub, Nat.cast_zero, add_zero]
      rw [zpow_add₀ two_ne_zero, mul_comm, zpow_natCast]
      gcongr
      exact_mod_cast hfrac
    have hlog := (Int.lt_zpow_iff_log_lt one_lt_two hv).1 (by exact_mod_cast hlt)
    simp only [unit, hE, Nat.zero_sub, Nat.cast_zero, add_zero]
    omega
  · -- the leading bit of a normal significand fixes the logarithm
    have hlog : Int.log 2 (f.value n) = f.unit n + f.fractionBits := by
      have hsig : f.significand n =
          2 ^ f.fractionBits + n % 2 ^ f.fractionBits := by
        simp only [significand, hE, ↓reduceIte, Nat.pow_eq]
      have hmod : n % 2 ^ f.fractionBits < 2 ^ f.fractionBits := Nat.mod_lt _ (by positivity)
      apply log_eq_of_le_of_lt one_lt_two hv
      · rw [value, add_comm, Nat.cast_ofNat, zpow_add₀ two_ne_zero, zpow_natCast]
        gcongr
        exact_mod_cast hsig ▸ Nat.le_add_right _ _
      · rw [value, add_assoc, add_comm, Nat.cast_ofNat, zpow_add₀ two_ne_zero]
        gcongr
        rw [hsig]
        norm_cast
        rw [pow_succ]
        omega
    -- the unit is no less than the least one, so it is the one that is kept
    have hleast : f.leastUnit ≤ f.unit n := by
      unfold unit
      omega
    omega

/-- Each place below infinity is the nearest place to its own fraction. -/
theorem nearest_place {n : Nat} (hn : n < f.infinity) :
    f.nearest (f.numerator n) (f.denominator n) = n := by
  rcases Nat.eq_zero_or_pos n with rfl | hpos
  · simp [nearest, numerator, significand, exponentField]
  have hs := f.significand_pos hpos
  have hnum : 0 < f.numerator n := Nat.mul_pos hs (Nat.pow_pos two_pos)
  -- the number is a whole multiple of its unit, so nothing is rounded away
  have hin : inUnits (f.unit n) (f.numerator n) (f.denominator n) = f.significand n := by
    have hb := scale_pos (f.denominator_pos n) (f.unit n)
    have hq : ((f.numerator n : ℚ) / f.denominator n) / 2 ^ f.unit n = f.significand n := by
      rw [← value_eq_div, value, mul_div_cancel_right₀ _ (by positivity)]
    apply le_antisymm
    · exact divRoundEven_le hb (by rw [scaled_eq (f.denominator_pos n), hq])
    · exact le_divRoundEven hb (by rw [scaled_eq (f.denominator_pos n), hq])
  unfold nearest
  rw [if_neg hnum.ne', f.keptUnit_place hpos]
  simp only [hin]
  have hdiv := Nat.div_add_mod n (2 ^ f.fractionBits)
  -- the unit and the significand are put together to the place again
  have hplace : (f.unit n - f.leastUnit).toNat * Nat.pow 2 f.fractionBits + f.significand n = n := by
    unfold unit significand
    simp only [add_sub_cancel_left, Int.toNat_natCast, Nat.pow_eq]
    split
    · rename_i hE
      rw [hE, Nat.zero_sub, zero_mul]
      simp only [exponentField, Nat.pow_eq] at hE
      rw [hE] at hdiv
      omega
    · rename_i hE
      have hE1 : f.exponentField n - 1 + 1 = f.exponentField n := Nat.sub_add_cancel (by omega)
      rw [← add_assoc, ← Nat.succ_mul, Nat.succ_eq_add_one, hE1]
      simp only [exponentField, Nat.pow_eq]
      rw [mul_comm, hdiv]
  rw [hplace, min_eq_right hn.le]

end BinaryFormat

end Scenery
