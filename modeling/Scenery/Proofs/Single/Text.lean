import Scenery.NumberFormat
import Scenery.Proofs.Decimal.Text

/-!
# The text of a number

A number is written with the shortest digits that read back, so reading its text gives the number
again, in every layout.  Only what is no number is lost.

* `ofText?_text`  the text of a number is read as the number
* `mem_text`      the characters that occur in the text of a finite number
-/

namespace Scenery.Single

open BinaryFormat (single)

theorem not_isNaN_of_isFinite {x : Single} (h : x.isFinite) : x.isNaN = false := by
  simp only [isFinite, isNaN, decide_eq_true_eq, decide_eq_false_iff_not] at h ⊢
  omega

/-- A magnitude that is neither finite nor no number is infinity. -/
theorem place_eq_infinity {x : Single} (hn : x.isNaN = false) (hf : x.isFinite = false) :
    x.place = single.infinity := by
  simp only [isFinite, isNaN, decide_eq_false_iff_not] at hn hf
  omega

/-- Changing from the format to itself keeps the places of numbers. -/
private theorem ofPlace_single {n : Nat} (h : n < single.infinity) :
    single.ofPlace single n = n := by
  rw [BinaryFormat.ofPlace, if_neg (not_le.2 h), single.nearest_place h]

/-- The digits of a finite number's magnitude. -/
private theorem text_of_isFinite (l : Layout) {x : Single} (hf : x.isFinite) :
    x.text l =
      (if x.isNegative then ['-'] else []) ++ l.digits (single.shortest x.place) := by
  have hplace : x.place < single.infinity := of_decide_eq_true hf
  rw [text, textIn, not_isNaN_of_isFinite hf, hf, ofPlace_single hplace]
  cases x.isNegative <;> rfl

/-- The text of a finite number is read as the number. -/
private theorem ofText?_text_of_isFinite (l : Layout) {x : Single} (hf : x.isFinite) :
    ofText? (x.text l) = some x := by
  obtain ⟨d, hread, hvalue⟩ := l.ofText?_digits (single.shortest x.place)
  obtain ⟨c, cs, hcs, hc⟩ := l.digits_eq_cons (single.shortest x.place)
  have hplace : x.place < single.infinity := of_decide_eq_true hf
  -- the digits are read as a decimal that may differ, but its value does not
  have hnearest : single.nearestDecimal d = x.place := by
    rw [single.nearestDecimal_congr hvalue, single.nearestDecimal_shortest hplace]
  have hsign : Magnitude.spanSign (x.text l) =
      (x.isNegative, l.digits (single.shortest x.place)) := by
    rw [text_of_isFinite l hf, hcs]
    cases x.isNegative with
    | true => rfl
    | false =>
      simp only [Bool.false_eq_true, ↓reduceIte, List.nil_append]
      -- the first digit is neither of the two signs
      unfold Magnitude.spanSign
      split
      · rename_i heq
        exact absurd hc (by rw [(List.cons.inj heq).1]; decide)
      · rename_i heq
        exact absurd hc (by rw [(List.cons.inj heq).1]; decide)
      · rfl
  unfold ofText?
  simp only [hsign, hread, Option.map_some, ofMagnitude, hnearest, ofPlace_magnitude]

/-- The text of a number is read as the number. -/
theorem ofText?_text (l : Layout) {x : Single} (h : x.isNaN = false) :
    ofText? (x.text l) = some x := by
  cases hf : x.isFinite with
  | true => exact ofText?_text_of_isFinite l hf
  | false =>
    have hplace := place_eq_infinity h hf
    have hx := ofPlace_magnitude x
    rw [hplace] at hx
    simp only [text, textIn, h, hf, Bool.false_eq_true, ↓reduceIte]
    cases hneg : x.isNegative with
    | true =>
      rw [hneg] at hx
      rw [← hx]
      rfl
    | false =>
      rw [hneg] at hx
      rw [← hx]
      rfl

/-- The characters of the text of a finite number. -/
theorem mem_text {l : Layout} {x : Single} (hf : x.isFinite) {c : Char} (hc : c ∈ x.text l) :
    c.isDigit ∨ c = '.' ∨ c = 'e' ∨ c = '-' := by
  rw [text_of_isFinite l hf, List.mem_append] at hc
  rcases hc with hsign | hdigit
  · split at hsign <;> simp_all
  · exact Layout.mem_digits hdigit

/-- The text of a finite number begins with a digit or a minus. -/
theorem text_eq_cons (l : Layout) {x : Single} (hf : x.isFinite) :
    ∃ c cs, x.text l = c :: cs ∧ (c.isDigit ∨ c = '-') := by
  obtain ⟨c, cs, hcs, hc⟩ := l.digits_eq_cons (single.shortest x.place)
  rw [text_of_isFinite l hf, hcs]
  cases x.isNegative with
  | true => exact ⟨'-', _, rfl, .inr rfl⟩
  | false => exact ⟨c, cs, rfl, .inl hc⟩

end Scenery.Single
