import Scenery.Decimal.Shortest
import Scenery.Proofs.Decimal.Rounding

/-!
# Reading the digits of a number back

A decimal is read as the number of the format nearest to it.  What is read depends on the value of
the decimal alone, so that zeros moved between the coefficient and the exponent do not matter, and
the digits chosen for a number read back as that number.

* `nearestDecimal_congr`     decimals of the same value read as the same place
* `nearestDecimal_place`     a decimal of exactly a place's value reads as that place
* `nearestDecimal_shortest`  the shortest digits of a place read back as that place
-/

namespace Scenery

namespace Decimal

/-- The number that a decimal stands for. -/
def value (d : Decimal) : ℚ := d.coefficient * (10 : ℚ) ^ d.exponent

theorem value_eq_div (d : Decimal) : d.value = (d.numerator : ℚ) / d.denominator := by
  have hsplit : (10 : ℚ) ^ d.exponent = 10 ^ d.exponent.toNat / 10 ^ (-d.exponent).toNat := by
    rw [← zpow_natCast, ← zpow_natCast, ← zpow_sub₀ (by norm_num)]
    congr 1
    omega
  simp only [value, numerator, denominator, Nat.pow_eq, hsplit]
  push_cast
  ring

theorem value_eq_zero_iff (d : Decimal) : d.value = 0 ↔ d.coefficient = 0 := by
  have hpow : (10 : ℚ) ^ d.exponent ≠ 0 := by positivity
  simp [value, hpow]

/-- The digits of a nonzero number count the powers of ten up to it. -/
private theorem pow_length_digits_le {n : Nat} (hn : 0 < n) :
    10 ^ ((Nat.toDigits 10 n).length - 1) ≤ n := by
  rcases Nat.eq_zero_or_pos ((Nat.toDigits 10 n).length - 1) with h0 | hpos
  · rw [h0, pow_zero]
    exact hn
  · -- a smaller number would have fewer digits
    by_contra hlt
    have hlen := (Nat.length_toDigits_le_iff (by decide) hpos).2 (not_le.1 hlt)
    omega

/-- A number is less than ten to the number of its digits. -/
private theorem lt_pow_length_digits (n : Nat) : n < 10 ^ (Nat.toDigits 10 n).length :=
  (Nat.length_toDigits_le_iff (by decide) Nat.length_toDigits_pos).1 le_rfl

/-- The reach of a nonzero decimal is the power of ten just above its value. -/
theorem reach_eq_log (d : Decimal) (h : d.coefficient ≠ 0) : d.reach = Int.log 10 d.value + 1 := by
  have hc : 0 < d.coefficient := Nat.pos_of_ne_zero h
  have hv : 0 < d.value := by
    unfold value
    positivity
  have hlen : 0 < d.digits.length := Nat.length_toDigits_pos
  have hten : (1 : Nat) < 10 := by decide
  -- the digits of the coefficient count its powers of ten, and the exponent moves them
  have hlo : (d.reach - 1 : ℤ) ≤ Int.log 10 d.value := by
    rw [← Int.zpow_le_iff_le_log hten hv]
    have hreach : d.reach - 1 = ((d.digits.length - 1 : Nat) : ℤ) + d.exponent := by
      unfold reach
      omega
    rw [hreach, value, Nat.cast_ofNat, zpow_add₀ (by norm_num), zpow_natCast]
    gcongr
    exact_mod_cast pow_length_digits_le hc
  have hhi : Int.log 10 d.value < d.reach := by
    rw [← Int.lt_zpow_iff_log_lt hten hv]
    rw [reach, value, Nat.cast_ofNat, zpow_add₀ (by norm_num), zpow_natCast]
    gcongr
    exact_mod_cast lt_pow_length_digits d.coefficient
  omega

end Decimal

namespace BinaryFormat

variable (f : BinaryFormat)

/-- Decimals of the same value read as the same place. -/
theorem nearestDecimal_congr {d e : Decimal} (h : d.value = e.value) :
    f.nearestDecimal d = f.nearestDecimal e := by
  unfold nearestDecimal
  -- a coefficient of zero is read apart, and has no reach
  by_cases hd : d.coefficient = 0
  · have he : e.coefficient = 0 := by
      rw [← e.value_eq_zero_iff, ← h, d.value_eq_zero_iff]
      exact hd
    simp [hd, he]
  · have he : e.coefficient ≠ 0 := by
      rw [ne_eq, ← e.value_eq_zero_iff, ← h, d.value_eq_zero_iff]
      exact hd
    have hreach : d.reach = e.reach := by
      rw [d.reach_eq_log hd, e.reach_eq_log he, h]
    have hnearest : f.nearest d.numerator d.denominator = f.nearest e.numerator e.denominator := by
      apply f.nearest_congr d.denominator_pos e.denominator_pos
      rw [← d.value_eq_div, ← e.value_eq_div, h]
    simp only [hd, he, hreach, hnearest]

/-! ### Bounds of a format -/

/-- The exponent field of a number is below the one that stands for infinity. -/
private theorem exponentField_lt {n : Nat} (hn : n < f.infinity) :
    f.exponentField n + 1 < 2 ^ f.exponentBits := by
  have hlt : f.exponentField n < 2 ^ f.exponentBits - 1 := by
    unfold exponentField
    simp only [infinity, Nat.pow_eq] at hn ⊢
    exact Nat.div_lt_of_lt_mul (by rw [mul_comm]; exact hn)
  omega

/-- Numbers lie below two to the power that `decimalReach` starts from. -/
private theorem value_lt {n : Nat} (hn : n < f.infinity) :
    f.value n < (2 : ℚ) ^ ((2 ^ (f.exponentBits - 1) : Nat) : ℤ) := by
  have hE := f.exponentField_lt hn
  have hbits : 0 < f.exponentBits := by
    by_contra h0
    simp [Nat.eq_zero_of_not_pos h0] at hE
  have hpow : 2 ^ f.exponentBits = 2 * 2 ^ (f.exponentBits - 1) := by
    rw [← pow_succ', Nat.sub_add_cancel hbits]
  have hmod : n % 2 ^ f.fractionBits < 2 ^ f.fractionBits := Nat.mod_lt _ (by positivity)
  -- a subnormal significand has one bit less, which makes up for its unit
  obtain ⟨k, hsig, hk⟩ : ∃ k : Nat, f.significand n < 2 ^ k ∧
      (k : ℤ) + f.unit n ≤ (2 ^ (f.exponentBits - 1) : Nat) := by
    unfold significand unit leastUnit
    simp only [Nat.pow_eq]
    split
    · rename_i h0
      refine ⟨f.fractionBits, hmod, ?_⟩
      rw [h0]
      push_cast
      have hone : (1 : ℤ) ≤ 2 ^ (f.exponentBits - 1) := one_le_pow₀ (by norm_num)
      omega
    · rename_i h0
      refine ⟨f.fractionBits + 1, ?_, ?_⟩
      · rw [pow_succ]
        omega
      · have hcast : ((f.exponentField n - 1 : Nat) : ℤ) + 3 ≤ 2 * 2 ^ (f.exponentBits - 1) := by
          have hle : f.exponentField n - 1 + 3 ≤ 2 * 2 ^ (f.exponentBits - 1) := by omega
          exact_mod_cast hle
        push_cast
        omega
  -- significand and unit together stay below the first power that is out of range
  calc f.value n < (2 : ℚ) ^ k * 2 ^ f.unit n := by
        unfold value
        gcongr
        exact_mod_cast hsig
    _ = (2 : ℚ) ^ ((k : ℤ) + f.unit n) := by rw [zpow_add₀ two_ne_zero, zpow_natCast]
    _ ≤ _ := zpow_le_zpow_right₀ one_le_two hk

/-- Numbers other than zero are at least the last bit of the least unit. -/
private theorem le_value {n : Nat} (hn : 0 < n) : (2 : ℚ) ^ f.leastUnit ≤ f.value n := by
  have hs : (1 : ℚ) ≤ f.significand n := by exact_mod_cast f.significand_pos hn
  have hunit : f.leastUnit ≤ f.unit n := by
    unfold unit
    omega
  calc (2 : ℚ) ^ f.leastUnit ≤ 2 ^ f.unit n := zpow_le_zpow_right₀ one_le_two hunit
    _ ≤ f.significand n * 2 ^ f.unit n := le_mul_of_one_le_left (by positivity) hs

/-! ### Digits that read back -/

/-- A decimal of exactly a place's value reads as that place. -/
theorem nearestDecimal_place {n : Nat} {d : Decimal} (hn : n < f.infinity)
    (h : d.value = f.value n) : f.nearestDecimal d = n := by
  have hnearest : f.nearest d.numerator d.denominator = n := by
    rw [f.nearest_congr d.denominator_pos (f.denominator_pos n)
      (by rw [← d.value_eq_div, h, f.value_eq_div]), f.nearest_place hn]
  -- zero has no power of ten, so it stands apart
  rcases Nat.eq_zero_or_pos n with rfl | hpos
  · have hzero : d.coefficient = 0 := by
      rw [← d.value_eq_zero_iff, h]
      simp [value, significand, exponentField]
    simp [nearestDecimal, hzero]
  have hvpos : 0 < f.value n := lt_of_lt_of_le (by positivity) (f.le_value hpos)
  have hne : d.coefficient ≠ 0 := by
    rw [ne_eq, ← d.value_eq_zero_iff, h]
    exact hvpos.ne'
  have hreach := d.reach_eq_log hne
  rw [h] at hreach
  have hten : (1 : Nat) < 10 := by decide
  -- powers of ten lie farther out than the same powers of two
  have hhi : Int.log 10 (f.value n) < (2 ^ (f.exponentBits - 1) : Nat) := by
    rw [← Int.lt_zpow_iff_log_lt hten hvpos]
    refine (f.value_lt hn).trans_le ?_
    rw [zpow_natCast, zpow_natCast]
    exact pow_le_pow_left₀ (by norm_num) (by norm_num) _
  have hlo : -(f.decimalReach : ℤ) ≤ Int.log 10 (f.value n) := by
    rw [← Int.zpow_le_iff_le_log hten hvpos]
    calc ((10 : Nat) : ℚ) ^ (-(f.decimalReach : ℤ)) ≤ (2 : ℚ) ^ (-(f.decimalReach : ℤ)) := by
          rw [zpow_neg, zpow_neg, zpow_natCast, zpow_natCast]
          gcongr
          norm_num
      _ ≤ 2 ^ f.leastUnit := by
          apply zpow_le_zpow_right₀ one_le_two
          simp only [leastUnit, decimalReach, Nat.pow_eq]
          push_cast
          omega
      _ ≤ f.value n := f.le_value hpos
  -- neither cut-off applies, so the fraction itself is rounded
  have hreach_le : ¬ (f.decimalReach : ℤ) < d.reach := by
    have hle : ((2 ^ (f.exponentBits - 1) : Nat) : ℤ) ≤ f.decimalReach := by
      simp [decimalReach]
    omega
  have hle_reach : ¬ (d.coefficient = 0 ∨ d.reach < -(f.decimalReach : ℤ)) := by
    rintro (h0 | hlt)
    · exact hne h0
    · omega
  rw [nearestDecimal, if_neg hle_reach, if_neg hreach_le, hnearest]

/-- All digits of a place have exactly its value. -/
theorem value_exact (n : Nat) : (f.exact n).value = f.value n := by
  have hfive : (5 : ℚ) * 2 = 10 := by norm_num
  simp only [exact, Decimal.value, value, Nat.pow_eq]
  push_cast
  -- with a negative unit, factors of five turn halves into tenths
  rcases le_total 0 (f.unit n) with hpos | hneg
  · obtain ⟨k, hk⟩ := Int.eq_ofNat_of_zero_le hpos
    simp [hk]
  · obtain ⟨k, hk⟩ := Int.eq_ofNat_of_zero_le (neg_nonneg.2 hneg)
    have hu : f.unit n = -(k : ℤ) := by omega
    simp only [hu, neg_neg, Int.toNat_natCast, Int.toNat_neg_natCast, pow_zero, mul_one]
    rw [min_eq_left (by omega), ← hfive, zpow_neg, zpow_neg, zpow_natCast, zpow_natCast, mul_pow]
    field_simp

/-- The shortest digits of a place read back as that place. -/
theorem nearestDecimal_shortest {n : Nat} (hn : n < f.infinity) :
    f.nearestDecimal (f.shortest n) = n := by
  unfold shortest
  split
  · rename_i h0
    simp [nearestDecimal, h0]
  · simp only
    -- a shorter candidate is taken only if it reads back, else all digits are written
    cases hfound : ((List.range (f.fractionBits / 3 + 3)).map fun (places : Nat) =>
        floorLog10 (f.numerator n) (f.denominator n) + 1 - places).findSome? (f.onGrid? n) with
    | none => exact f.nearestDecimal_place hn (f.value_exact n)
    | some d =>
      obtain ⟨k, -, hk⟩ := List.exists_of_findSome?_eq_some hfound
      exact nearestDecimal_of_onGrid? hk

end BinaryFormat

end Scenery
