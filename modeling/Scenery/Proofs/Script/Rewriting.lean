import Scenery.Proofs.Script.Modes

/-!
# Writing what was read

Names and materials that a reader takes from a script can always be written again, but not all numbers:
literals may denote `NaN` or overflow to infinity, and these have no text that a script could hold.  So
what a lenient reader made of a text comes back from a strict one exactly if there is no such number.

* `Document.Same`                 the same blocks, with `NaN` taken to equal `NaN`
* `exists_error_of_illegible`     a number without a legible text stops a strict reader
* `read_strict_render_of_read`    when a document that was read can be written and read again
-/

namespace Scenery

open Script

/-! ### The same blocks -/

/-- Equal values; `NaN` is taken to equal `NaN`. -/
def Single.Same (x y : Single) : Prop :=
  x.eq y = true ∨ x.isNaN = true ∧ y.isNaN = true

/-- Every number is the same as itself, those that do not equal themselves included. -/
theorem Single.same_self (x : Single) : x.Same x := by
  cases h : x.isNaN with
  | true => exact .inr ⟨h, h⟩
  | false => exact .inl (eq_self h)

/-- Two blocks of one kind with the same name, the same material and the same numbers. -/
def Block.Same : Block Single → Block Single → Prop
  | design a, design b =>
    a.name = b.name ∧ a.material = b.material ∧
      List.Forall₂ Single.Same a.shape.values b.shape.values ∧
      List.Forall₂ Single.Same a.position.toList b.position.toList ∧
      List.Forall₂ Single.Same a.rotation.toList b.rotation.toList
  | camera a, camera b =>
    a.name = b.name ∧
      List.Forall₂ Single.Same a.position.toList b.position.toList ∧
      List.Forall₂ Single.Same a.rotation.toList b.rotation.toList
  | _, _ => False

theorem Block.same_self (b : Block Single) : b.Same b := by
  have hnumbers (xs : List Single) : List.Forall₂ Single.Same xs xs :=
    List.forall₂_same.2 fun x _ => x.same_self
  cases b with
  | design b => exact ⟨rfl, rfl, hnumbers _, hnumbers _, hnumbers _⟩
  | camera b => exact ⟨rfl, hnumbers _, hnumbers _⟩

/-- The same blocks in the same order. -/
def Document.Same (a b : Document Single) : Prop :=
  List.Forall₂ Block.Same a.blocks b.blocks

theorem Document.same_self (d : Document Single) : d.Same d :=
  List.forall₂_same.2 fun b _ => b.same_self

/-! ### Numbers without a legible text -/

/-- No number of the document is `NaN` or positive infinity. -/
def Document.HasLegibleNumbers (d : Document Single) : Prop :=
  ∀ b ∈ d.blocks, ∀ x ∈ b.numbers, x.IsLegible

instance (d : Document Single) : Decidable d.HasLegibleNumbers :=
  inferInstanceAs (Decidable (∀ b ∈ d.blocks, ∀ x ∈ b.numbers, x.IsLegible))

/-- Each number of a block stands in one of its lines. -/
private theorem Block.exists_mem_words (f : NumberFormat) {b : Block Single} {x : Single}
    (hx : x ∈ b.numbers) :
    ∃ name xs, Text.BlankFree name.toList ∧ x ∈ xs ∧ numberWords f name xs ∈ b.words f := by
  cases b with
  | design b =>
    simp only [numbers, List.mem_append] at hx
    rcases hx with (hx | hx) | hx
    · exact ⟨Keyword.shape, _, by decide, hx, by simp [words]⟩
    · exact ⟨Keyword.position, _, by decide, hx, by simp [words]⟩
    · exact ⟨Keyword.rotation, _, by decide, hx, by simp [words]⟩
  | camera b =>
    simp only [numbers, List.mem_append] at hx
    rcases hx with hx | hx
    · exact ⟨Keyword.position, _, by decide, hx, by simp [words]⟩
    · exact ⟨Keyword.rotation, _, by decide, hx, by simp [words]⟩

namespace Script

/-- The line of numbers of which one has no legible text is faulty. -/
private theorem isFaulty_numberWords (f : NumberFormat) {name : String}
    (hname : Text.BlankFree name.toList) {xs : List Single} {x : Single} (hx : x ∈ xs)
    (hbad : ¬x.IsLegible) :
    isFaulty ([' '].intercalate (Block.numberWords f name xs)) = true := by
  obtain ⟨fault, hfault⟩ := Value.ofWords_illegible (f := f) ⟨x, hx, hbad⟩
  rw [isFaulty_eq_true, Statement.ofLine?_intercalate (Block.isWord_numberWords f name hname xs)]
  refine ⟨fault, ?_⟩
  simp only [Block.numberWords, Statement.ofWords?, hfault]
  rfl

/-- A number without a legible text stops a strict reader. -/
theorem exists_error_of_illegible (f : NumberFormat) {d : Document Single}
    (hworded : ∀ b ∈ d.blocks, b.IsWorded) (hbad : ¬d.HasLegibleNumbers) :
    ∃ e, (read .strict (d.render f)).result = .error e := by
  simp only [Document.HasLegibleNumbers, not_forall] at hbad
  obtain ⟨b, hb, x, hx, hbad⟩ := hbad
  obtain ⟨name, xs, hname, hxs, hwords⟩ := Block.exists_mem_words f hx
  have hline : [' '].intercalate (Block.numberWords f name xs) ∈ Text.lines (d.render f).toList := by
    rw [Document.lines_render f hworded]
    exact List.mem_map_of_mem (List.mem_flatMap.2 ⟨b, hb, hwords⟩)
  cases hread : (read .strict (d.render f)).result with
  | error e => exact ⟨e, rfl⟩
  | ok d' =>
    have hclean := (read_strict_eq_ok.1 hread).1 _ hline
    rw [isFaulty_numberWords f hname hxs hbad] at hclean
    cases hclean

/-! ### Documents that were read -/

/-- A document that a lenient reader made of some text is read from its own text by a strict reader
exactly if no number of it is `NaN` or positive infinity.  Then it comes back unchanged, and otherwise
the strict reader fails. -/
theorem read_strict_render_of_read {text : String} {d : Document Single}
    (hread : (read .lenient text).result = .ok d) (f : NumberFormat) :
    ((∃ d', (read .strict (d.render f)).result = .ok d' ∧ d'.Same d) ↔ d.HasLegibleNumbers) ∧
      (d.HasLegibleNumbers → (read .strict (d.render f)).result = .ok d) ∧
      (¬d.HasLegibleNumbers → ∃ e, (read .strict (d.render f)).result = .error e) := by
  have hworded := isWorded_of_read hread
  have hback (h : d.HasLegibleNumbers) : (read .strict (d.render f)).result = .ok d :=
    read_render_of_isLegible f .strict fun b hb => ⟨hworded b hb, h b hb⟩
  refine ⟨⟨?_, fun h => ⟨d, hback h, d.same_self⟩⟩, hback, exists_error_of_illegible f hworded⟩
  rintro ⟨d', hread', -⟩
  by_contra hbad
  obtain ⟨e, herror⟩ := exists_error_of_illegible f hworded hbad
  rw [hread'] at herror
  cases herror

/-- A camera with numbers of all forms that scripts know. -/
def manyForms : String :=
  "@camera c\n$pos -inf 0x10 -1e-3\n$rot 1.e2 .5 -0\n"

/-- The document that is read from `manyForms`. -/
def manyFormsRead : Document Single :=
  ⟨[.camera ⟨"c", ⟨.ofPlace true BinaryFormat.single.infinity, .ofNat 16, (Single.ofDecimal 1 3).neg⟩,
    ⟨.ofNat 100, .ofDecimal 5 1, Single.neg 0⟩⟩]⟩

/-- A text with numbers in many forms: the document that is read from it comes back when it is
written and read again. -/
theorem read_strict_render_manyForms :
    (read .lenient manyForms).result = .ok manyFormsRead ∧
      (read .strict (manyFormsRead.render .full)).result = .ok manyFormsRead :=
  have hread : (read .lenient manyForms).result = .ok manyFormsRead := by decide +kernel
  ⟨hread, (read_strict_render_of_read hread .full).2.1 (by decide +kernel)⟩

/-- A camera whose position overflows. -/
def overflowRead : Document Single :=
  ⟨[.camera ⟨"c", ⟨.infinity, 0, 0⟩, 0⟩]⟩

/-- A number that is too large is read as infinity, and then the document does not come back. -/
theorem not_read_strict_render_overflow :
    (read .lenient "@camera c\n$pos 1e39 0 0\n").result = .ok overflowRead ∧
      ∀ f, ¬∃ d', (read .strict (overflowRead.render f)).result = .ok d' ∧ d'.Same overflowRead := by
  refine ⟨by decide +kernel, ?_⟩
  rintro f ⟨d', hread, -⟩
  obtain ⟨e, herror⟩ := exists_error_of_illegible (d := overflowRead) f (by decide) (by decide)
  rw [hread] at herror
  cases herror

end Script

end Scenery
