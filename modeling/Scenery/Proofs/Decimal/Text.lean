import Scenery.Decimal.Layout
import Scenery.Decimal.Literal
import Scenery.Proofs.Decimal.ReadBack

/-!
# Reading laid-out digits

A decimal is written around a point or with a power of ten, and both texts are read as a decimal of
the same value.  Zeros may have moved from the exponent to the coefficient, so the decimal itself need
not be the same.

* `Layout.ofText?_digits`  the text of a decimal is read as a decimal of its value
* `Layout.mem_digits`      the characters that occur in such a text
-/

namespace Scenery

namespace Magnitude

/-- Digits up to a character that is none are read as one piece. -/
private theorem spanDigits_append {ds rest : List Char} (hds : ∀ c ∈ ds, c.isDigit)
    (hrest : ∀ c ∈ rest.head?, c.isDigit = false) : spanDigits (ds ++ rest) = (ds, rest) := by
  have htake : rest.takeWhile Char.isDigit = [] := by
    cases rest with
    | nil => rfl
    | cons c cs => simp [hrest c (by simp)]
  have hdrop : rest.dropWhile Char.isDigit = rest := by
    cases rest with
    | nil => rfl
    | cons c cs => simp [hrest c (by simp)]
  rw [spanDigits, List.takeWhile_append_of_pos hds, List.dropWhile_append_of_pos hds, htake, hdrop,
    List.append_nil]

/-- What follows the digits of a literal: nothing, or an exponent. -/
inductive Tail : List Char → ℤ → Prop
  | none : Tail [] 0
  | exponent {r : List Char} {x : ℤ} (h : exponent? r = some x) : Tail ('e' :: r) x

/-- Digits without a point are read as a whole number. -/
private theorem decimal?_whole {whole rest : List Char} {x : ℤ} (hw : ∀ c ∈ whole, c.isDigit)
    (hne : whole ≠ []) (hx : Tail rest x) :
    decimal? (whole ++ rest) = some ⟨Nat.ofDigitChars 10 whole 0, x⟩ := by
  have hspan : spanDigits (whole ++ rest) = (whole, rest) := by
    apply spanDigits_append hw
    cases hx <;> simp
  unfold decimal?
  simp only [hspan]
  cases hx with
  | none => simp [hne]
  | exponent h => simp [hne, h]

/-- Digits with a point are read as all of them, with an exponent that counts those behind it. -/
private theorem decimal?_point {whole fraction rest : List Char} {x : ℤ} (hw : ∀ c ∈ whole, c.isDigit)
    (hf : ∀ c ∈ fraction, c.isDigit) (hne : whole ≠ []) (hx : Tail rest x) :
    decimal? (whole ++ '.' :: (fraction ++ rest)) =
      some ⟨Nat.ofDigitChars 10 (whole ++ fraction) 0, x - fraction.length⟩ := by
  have hspan : spanDigits (whole ++ '.' :: (fraction ++ rest)) = (whole, '.' :: (fraction ++ rest)) :=
    spanDigits_append hw (by simp)
  have hspan' : spanDigits (fraction ++ rest) = (fraction, rest) := by
    apply spanDigits_append hf
    cases hx <;> simp
  unfold decimal?
  simp only [hspan, hspan']
  cases hx with
  | none => simp [hne]
  | exponent h => simp [hne, h]

/-- The digits of a decimal around a point are read as that decimal. -/
private theorem decimal?_point_eq {whole fraction rest : List Char} {x : ℤ} {d : Decimal}
    (hw : ∀ c ∈ whole, c.isDigit) (hf : ∀ c ∈ fraction, c.isDigit) (hne : whole ≠ [])
    (hx : Tail rest x) (hcoefficient : Nat.ofDigitChars 10 (whole ++ fraction) 0 = d.coefficient)
    (hexponent : x - fraction.length = d.exponent) :
    decimal? (whole ++ '.' :: (fraction ++ rest)) = some d := by
  rw [decimal?_point hw hf hne hx, hcoefficient, hexponent]

/-- An integer is written as its digits, after a minus if it is negative. -/
private theorem toList_toString_int (k : ℤ) :
    (toString k).toList = (if k < 0 then ['-'] else []) ++ Nat.toDigits 10 k.natAbs := by
  cases k with
  | ofNat n =>
    rw [if_neg (by simp), List.nil_append]
    exact Nat.toList_repr
  | negSucc n =>
    rw [show toString (Int.negSucc n) = "-" ++ (n + 1).repr from rfl, String.toList_append,
      Nat.toList_repr, if_pos (Int.negSucc_lt_zero n)]
    rfl

/-- An integer is written in digits, with a minus in front at most. -/
private theorem mem_toString_int {k : ℤ} {c : Char} (hc : c ∈ (toString k).toList) :
    c.isDigit ∨ c = '-' := by
  rw [toList_toString_int, List.mem_append] at hc
  rcases hc with hsign | hdigit
  · split at hsign <;> simp_all
  · exact .inl (Nat.isDigit_of_mem_toDigits (by decide) (by decide) hdigit)

/-- The text of an integer is read back as an exponent. -/
private theorem exponent?_toString (k : ℤ) : exponent? (toString k).toList = some k := by
  have hdigits : ∀ c ∈ Nat.toDigits 10 k.natAbs, c.isDigit := fun c hc =>
    Nat.isDigit_of_mem_toDigits (by decide) (by decide) hc
  have hall := List.all_eq_true.2 hdigits
  have hsign : spanSign (toString k).toList = (decide (k < 0), Nat.toDigits 10 k.natAbs) := by
    rw [toList_toString_int]
    split
    · rename_i hneg
      simp [spanSign, hneg]
    · rename_i hneg
      rw [List.nil_append, decide_eq_false hneg]
      -- a digit is neither of the two signs
      unfold spanSign
      split
      · rename_i s heq
        exact absurd (hdigits '-' (by simp [heq])) (by decide)
      · rename_i s heq
        exact absurd (hdigits '+' (by simp [heq])) (by decide)
      · rfl
  have hread : (Nat.toDigits 10 k.natAbs).isEmpty = false := by simp
  unfold exponent?
  simp only [hsign, hall, hread, Nat.ofDigitChars_ten_toDigits, Bool.not_true, Bool.or_self,
    Bool.false_eq_true, ↓reduceIte, Option.some.injEq, decide_eq_true_eq]
  split <;> omega

end Magnitude

namespace Layout

open Magnitude

private theorem isDigit_digits (d : Decimal) : ∀ c ∈ d.digits, c.isDigit := fun _ hc =>
  Nat.isDigit_of_mem_toDigits (by decide) (by decide) hc

private theorem isDigit_zeros (n : Nat) : ∀ c ∈ List.replicate n '0', c.isDigit := by
  intro c hc
  rw [List.eq_of_mem_replicate hc]
  decide

private theorem isDigit_append {as bs : List Char} (ha : ∀ c ∈ as, c.isDigit)
    (hb : ∀ c ∈ bs, c.isDigit) : ∀ c ∈ as ++ bs, c.isDigit := by
  intro c hc
  rcases List.mem_append.1 hc with h | h
  · exact ha c h
  · exact hb c h

/-- Digits around a point are read as a decimal of the same value. -/
private theorem decimal?_positional (pointZero : Bool) (d : Decimal) :
    ∃ e, decimal? (positional pointZero d) = some e ∧ e.value = d.value := by
  have hds := isDigit_digits d
  have hne : d.digits ≠ [] := Nat.toDigits_ne_nil
  unfold positional
  simp only
  split
  · rename_i hplaces
    -- an integer: zeros stand for the power of ten
    obtain ⟨k, hk⟩ := Int.eq_ofNat_of_zero_le (show 0 ≤ d.exponent by omega)
    rw [hk, Int.toNat_natCast]
    have hw := isDigit_append hds (isDigit_zeros k)
    have hwne : d.digits ++ List.replicate k '0' ≠ [] := by simp [hne]
    have hval : (Nat.ofDigitChars 10 (d.digits ++ List.replicate k '0') 0 : ℚ) = d.value := by
      rw [Nat.ofDigitChars_append, Nat.ofDigitChars_replicate_zero, Decimal.digits,
        Nat.ofDigitChars_ten_toDigits, Decimal.value, hk, zpow_natCast]
      push_cast
      ring
    -- the zero behind the point lowers the exponent by one and adds a digit
    cases pointZero with
    | false =>
      refine ⟨_, decimal?_whole hw hwne .none, ?_⟩
      rw [← hval]
      simp [Decimal.value]
    | true =>
      refine ⟨_, decimal?_point hw (isDigit_zeros 1) hwne .none, ?_⟩
      rw [← hval, Nat.ofDigitChars_append _ (l := _ ++ _)]
      simp [Decimal.value, Nat.ofDigitChars_cons]
      field_simp
  · rename_i hplaces
    split
    · rename_i hlen
      -- the point stands among the digits
      refine ⟨d, ?_, rfl⟩
      have hparts := List.take_append_drop (d.digits.length - (-d.exponent).toNat) d.digits
      rw [← List.append_nil (List.drop _ _)]
      apply decimal?_point_eq (fun c hc => hds c (List.mem_of_mem_take hc))
        (fun c hc => hds c (List.mem_of_mem_drop hc)) _ .none
      · rw [hparts, Decimal.digits, Nat.ofDigitChars_ten_toDigits]
      · rw [List.length_drop]
        omega
      · rw [ne_eq, List.take_eq_nil_iff]
        simp only [hne, or_false]
        omega
    · rename_i hlen
      -- the digits follow the point after zeros
      refine ⟨d, ?_, rfl⟩
      rw [show ∀ cs : List Char, '0' :: '.' :: cs = ['0'] ++ '.' :: (cs ++ []) by simp]
      apply decimal?_point_eq (isDigit_zeros 1) (isDigit_append (isDigit_zeros _) hds)
        (List.cons_ne_nil _ _) .none
      · rw [← List.append_assoc, Nat.ofDigitChars_append, Nat.ofDigitChars_append,
          Nat.ofDigitChars_replicate_zero]
        simp [Nat.ofDigitChars_cons, Decimal.digits, Nat.ofDigitChars_ten_toDigits]
      · rw [List.length_append, List.length_replicate]
        omega

/-- Digits with a power of ten are read as the decimal they were taken from. -/
private theorem decimal?_scientific (d : Decimal) : decimal? (scientific d) = some d := by
  have hds := isDigit_digits d
  have htail := Tail.exponent (exponent?_toString (d.reach - 1))
  unfold scientific
  -- the point stands behind the first digit, if there are more
  rcases hcs : d.digits with _ | ⟨c, _ | ⟨c', cs⟩⟩
  · exact absurd hcs Nat.toDigits_ne_nil
  · rw [hcs] at hds
    have hcoefficient : Nat.ofDigitChars 10 [c] 0 = d.coefficient := by
      rw [← hcs, Decimal.digits, Nat.ofDigitChars_ten_toDigits]
    simp only
    rw [decimal?_whole hds (List.cons_ne_nil _ _) htail, hcoefficient]
    simp [Decimal.reach, hcs]
  · rw [hcs] at hds
    simp only
    rw [show c :: '.' :: c' :: cs = [c] ++ '.' :: (c' :: cs) from rfl, List.append_assoc,
      List.cons_append]
    apply decimal?_point_eq (fun a ha => hds a (by simp_all)) (fun a ha => hds a (by simp_all))
      (List.cons_ne_nil _ _) htail
    · rw [List.singleton_append, ← hcs, Decimal.digits, Nat.ofDigitChars_ten_toDigits]
    · -- the exponent was raised by the digits behind the point, and is lowered by them again
      simp only [Decimal.reach, hcs, List.length_cons]
      push_cast
      ring

/-- A digit is its own lower case, and so begins none of the words that are literals. -/
private theorem ofText?_of_isDigit {c : Char} (hc : c.isDigit) (cs : List Char) :
    ofText? (c :: cs) = (decimal? (c :: cs)).map .number := by
  have hlower : c.toLower = c := by
    simp only [Char.isDigit, Bool.and_eq_true, decide_eq_true_eq] at hc
    unfold Char.toLower
    rw [dif_neg]
    -- the capitals lie above the digits
    intro hA
    obtain ⟨hA, -⟩ := hA
    exact absurd (UInt32.le_trans hA hc.2) (by decide)
  unfold ofText?
  rw [List.map_cons, hlower]
  split
  · rename_i heq
    exact absurd hc (by rw [(List.cons.inj heq).1]; decide)
  · rename_i heq
    exact absurd hc (by rw [(List.cons.inj heq).1]; decide)
  · rename_i heq
    exact absurd hc (by rw [(List.cons.inj heq).1]; decide)
  · rfl

/-- The text of a decimal begins with a digit. -/
theorem digits_eq_cons (l : Layout) (d : Decimal) :
    ∃ c cs, l.digits d = c :: cs ∧ c.isDigit := by
  obtain ⟨c, cs, hcs⟩ := List.exists_cons_of_ne_nil (Nat.toDigits_ne_nil (n := d.coefficient) (b := 10))
  have hc : c.isDigit := isDigit_digits d c (by simp [Decimal.digits, hcs])
  have hpositional (pointZero : Bool) :
      ∃ c cs, positional pointZero d = c :: cs ∧ c.isDigit := by
    unfold positional
    simp only [Decimal.digits, hcs]
    split
    · exact ⟨c, _, rfl, hc⟩
    split
    · -- at least one digit stands before the point
      rename_i hlen
      obtain ⟨k, hk⟩ : ∃ k, (c :: cs).length - (-d.exponent).toNat = k + 1 :=
        Nat.exists_eq_succ_of_ne_zero (by omega)
      rw [hk, List.take_succ_cons]
      exact ⟨c, _, rfl, hc⟩
    · exact ⟨'0', _, rfl, by decide⟩
  -- in front of an exponent, the first digit stands alone or before the point
  have hscientific : ∃ c cs, scientific d = c :: cs ∧ c.isDigit := by
    unfold scientific
    simp only [Decimal.digits, hcs]
    cases cs with
    | nil => exact ⟨c, _, rfl, hc⟩
    | cons c' cs => exact ⟨c, _, rfl, hc⟩
  unfold digits
  split
  · exact hpositional _
  · split
    · exact hpositional _
    · exact hscientific

/-- The text of a decimal is read as a decimal of the same value. -/
theorem ofText?_digits (l : Layout) (d : Decimal) :
    ∃ e, Magnitude.ofText? (l.digits d) = some (.number e) ∧ e.value = d.value := by
  obtain ⟨c, cs, hcs, hc⟩ := l.digits_eq_cons d
  have hread : ∃ e, decimal? (l.digits d) = some e ∧ e.value = d.value := by
    unfold digits
    split
    · exact decimal?_positional _ d
    · split
      · exact decimal?_positional _ d
      · exact ⟨d, decimal?_scientific d, rfl⟩
  obtain ⟨e, he, hv⟩ := hread
  refine ⟨e, ?_, hv⟩
  rw [hcs] at he ⊢
  rw [ofText?_of_isDigit hc, he]
  rfl

/-- The characters of the text of a decimal. -/
theorem mem_digits {l : Layout} {d : Decimal} {c : Char} (hc : c ∈ l.digits d) :
    c.isDigit ∨ c = '.' ∨ c = 'e' ∨ c = '-' := by
  have hds := isDigit_digits d
  -- the zeros that are filled in are digits as well
  have hpositional (pointZero : Bool) (hc : c ∈ positional pointZero d) :
      c.isDigit ∨ c = '.' := by
    have hzero : c = '0' → c.isDigit := by
      intro heq
      subst heq
      decide
    unfold positional at hc
    grind [List.mem_of_mem_take, List.mem_of_mem_drop]
  have hscientific (hc : c ∈ scientific d) : c.isDigit ∨ c = '.' ∨ c = 'e' ∨ c = '-' := by
    have hexponent := mem_toString_int (k := d.reach - 1) (c := c)
    unfold scientific at hc
    grind
  unfold digits at hc
  split at hc
  · exact (hpositional _ hc).imp_right .inl
  · split at hc
    · exact (hpositional _ hc).imp_right .inl
    · exact hscientific hc

end Layout

end Scenery
