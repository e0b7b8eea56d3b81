import Scenery.Document.Render
import Scenery.Proofs.Script.Products
import Scenery.Proofs.Single.Text

/-!
# Rendered lines

The lines of a block as words, and the statements that those words are.  A line of numbers is a
statement unless it holds a number without a legible text: `NaN` and `inf` begin with letters.

* `Block.map_lines`       the lines of a block are words with single spaces between them
* `Value.ofWords_text`    legible numbers are read back, in every format
* `Value.ofWords_illegible`  a number that is not legible spoils the line
-/

namespace Scenery

open Text (isBlank BlankFree IsWord)

/-! ### Legible numbers -/

namespace Single

/-- The text of the number begins like a number: it is neither `NaN` nor `inf`. -/
def IsLegible (x : Single) : Prop :=
  x.isNaN = false ∧ x ≠ infinity

instance (x : Single) : Decidable x.IsLegible :=
  inferInstanceAs (Decidable (_ ∧ _))

/-- A finite number is legible. -/
theorem IsFinite.isLegible {x : Single} (h : x.isFinite = true) : x.IsLegible := by
  refine ⟨not_isNaN_of_isFinite h, ?_⟩
  intro heq
  subst heq
  exact absurd h (by decide)

/-- A legible number is finite, or it is minus infinity. -/
theorem IsLegible.cases {x : Single} (h : x.IsLegible) :
    x.isFinite = true ∨ x = ofPlace true BinaryFormat.single.infinity := by
  obtain ⟨hn, hi⟩ := h
  cases hf : x.isFinite with
  | true => exact .inl rfl
  | false =>
    have hx := ofPlace_magnitude x
    rw [place_eq_infinity hn hf] at hx
    cases hneg : x.isNegative with
    | true => exact .inr (by rw [← hx, hneg])
    | false => exact absurd (by rw [← hx, hneg]; rfl) hi

/-- A number that is not legible is `NaN` or `inf` in writing. -/
theorem text_of_not_isLegible {x : Single} (h : ¬x.IsLegible) (l : Layout) :
    x.text l = l.nan.toList ∨ x.text l = ['i', 'n', 'f'] := by
  cases hn : x.isNaN with
  | true =>
    left
    simp only [text, textIn, hn, ↓reduceIte]
  | false =>
    right
    have hx : x = infinity := by
      by_contra hi
      exact h ⟨hn, hi⟩
    rw [hx]
    rfl

end Single

/-! ### Numbers as words -/

namespace NumberFormat

variable {f : NumberFormat} {x : Single}

/-- A number that is not legible is written in one of two ways. -/
private theorem text_of_not_isLegible (f : NumberFormat) (h : ¬x.IsLegible) :
    f.text x = ['N', 'a', 'N'] ∨ f.text x = ['i', 'n', 'f'] := by
  rcases Single.text_of_not_isLegible h f.layout with hx | hx
  · left
    rw [text, hx]
    cases f <;> rfl
  · exact .inr hx

/-- The negative infinity is written with a minus, by which it is legible. -/
private theorem text_minusInfinity (f : NumberFormat) :
    f.text (.ofPlace true BinaryFormat.single.infinity) = ['-', 'i', 'n', 'f'] := by
  cases f <;> rfl

/-- The characters of numbers are no blanks. -/
private theorem isBlank_of_mem_text {l : Layout} (hf : x.isFinite = true) {c : Char}
    (hc : c ∈ x.text l) : isBlank c = false := by
  rcases Single.mem_text hf hc with hd | rfl | rfl | rfl
  · simp only [Char.isDigit, Bool.and_eq_true, decide_eq_true_eq] at hd
    -- the digits lie between two of the ranges of blanks
    have hlo : '0'.val.toNat ≤ c.val.toNat := hd.1
    have hhi : c.val.toNat ≤ '9'.val.toNat := hd.2
    simp only [Char.reduceVal, UInt32.reduceToNat] at hlo hhi
    simp only [isBlank, Char.toNat, Bool.or_eq_false_iff, Bool.and_eq_false_imp, decide_eq_true_eq,
      decide_eq_false_iff_not, beq_eq_false_iff_ne]
    omega
  · decide
  · decide
  · decide

/-- The text of every number is a word. -/
theorem isWord_text (f : NumberFormat) (x : Single) : IsWord (f.text x) := by
  by_cases h : x.IsLegible
  · rcases h.cases with hf | rfl
    · refine ⟨?_, fun c hc => isBlank_of_mem_text hf hc⟩
      obtain ⟨c, cs, hcs, -⟩ := Single.text_eq_cons f.layout hf
      rw [text, hcs]
      exact List.cons_ne_nil c cs
    · rw [text_minusInfinity]
      decide
  · rcases text_of_not_isLegible f h with hx | hx
    · rw [hx]
      decide
    · rw [hx]
      decide

end NumberFormat

namespace Script

open NumberFormat (text_of_not_isLegible text_minusInfinity)

variable {f : NumberFormat} {x : Single}

/-- A word that starts with a digit or with a minus is taken for a number. -/
private theorem ofWord_of_isDigit {c : Char} (hc : c.isDigit ∨ c = '-') (cs : List Char) :
    Token.ofWord (c :: cs) = .number := by
  have hquote : c ≠ '"' := by
    intro heq
    subst heq
    exact absurd hc (by decide)
  unfold Token.ofWord
  split
  · rename_i heq
    exact absurd (List.cons.inj heq).1 hquote
  · rename_i heq
    obtain ⟨rfl, rfl⟩ := List.cons.inj heq
    rcases hc with hd | rfl
    · simp [hd]
    · rfl
  · rename_i heq
    cases heq

/-- The text of a legible number announces a number. -/
private theorem ofWord_text (h : x.IsLegible) : Token.ofWord (f.text x) = .number := by
  rcases h.cases with hf | rfl
  · obtain ⟨c, cs, hcs, hc⟩ := Single.text_eq_cons f.layout hf
    rw [NumberFormat.text, hcs, ofWord_of_isDigit hc]
  · rw [text_minusInfinity]
    rfl

/-- The text of a number that is not legible announces nothing. -/
private theorem ofWord_text_of_not_isLegible (h : ¬x.IsLegible) :
    Token.ofWord (f.text x) = .other := by
  rcases text_of_not_isLegible f h with hx | hx
  · rw [hx]
    rfl
  · rw [hx]
    rfl

/-- No text of a number has the mark of a hexadecimal number. -/
private theorem number?_eq_ofText? {s : List Char} (hx : 'x' ∉ s) (hX : 'X' ∉ s) :
    number? s = Single.ofText? s := by
  unfold number?
  split
  rename_i negative digits heq
  have hmem : ∀ c ∈ digits, c ∈ s := by
    split at heq
    · cases heq
      exact fun c hc => List.mem_cons_of_mem _ hc
    · cases heq
      exact fun c hc => hc
  split
  · rename_i c hex
    rw [if_neg]
    rintro (rfl | rfl)
    · exact hx (hmem _ (by simp))
    · exact hX (hmem _ (by simp))
  · rfl

/-- The text of a legible number is read as the number. -/
private theorem number?_text (h : x.IsLegible) : number? (f.text x) = some x := by
  rcases h.cases with hf | rfl
  · have hchars : ∀ c ∈ f.text x, c ≠ 'x' ∧ c ≠ 'X' := by
      intro c hc
      constructor
      · intro heq
        subst heq
        exact absurd (Single.mem_text hf hc) (by decide)
      · intro heq
        subst heq
        exact absurd (Single.mem_text hf hc) (by decide)
    rw [number?_eq_ofText? (fun hc => (hchars _ hc).1 rfl) (fun hc => (hchars _ hc).2 rfl)]
    exact Single.ofText?_text f.layout h.1
  · rw [text_minusInfinity]
    rfl

/-- Legible numbers are gathered behind those before them. -/
private theorem gather_text {xs : List Single} (h : ∀ x ∈ xs, x.IsLegible) (numbers : List Single)
    (hlen : numbers.length + xs.length ≤ maxNumbers) :
    gather numbers none (xs.map f.text) = .ok (.numbers (numbers.reverse ++ xs)) := by
  -- `numbers` are those already read, the last one first
  induction xs generalizing numbers with
  | nil => simp [gather]
  | cons x xs ih =>
    have hx : x.IsLegible := h x (by simp)
    have hroom : ¬maxNumbers ≤ numbers.length := by
      rw [List.length_cons] at hlen
      omega
    have hrest := ih (fun y hy => h y (List.mem_cons_of_mem _ hy)) (x :: numbers)
      (by simp only [List.length_cons] at hlen ⊢; omega)
    rw [List.map_cons, gather, ofWord_text hx]
    simp only [if_neg hroom, number?_text hx, hrest, List.reverse_cons, List.append_assoc,
      List.singleton_append]

/-- A number that is not legible is a fault, if none comes before it. -/
private theorem gather_illegible {xs : List Single} (h : ∃ x ∈ xs, ¬x.IsLegible)
    (numbers : List Single) : ∃ fault, gather numbers none (xs.map f.text) = .error fault := by
  induction xs generalizing numbers with
  | nil => simp at h
  | cons x xs ih =>
    rw [List.map_cons, gather]
    by_cases hx : x.IsLegible
    · have hxs : ∃ y ∈ xs, ¬y.IsLegible := by
        obtain ⟨y, hy, hbad⟩ := h
        rcases List.mem_cons.1 hy with rfl | hy
        · exact absurd hx hbad
        · exact ⟨y, hy, hbad⟩
      simp only [ofWord_text hx, number?_text hx]
      split
      · exact ⟨_, rfl⟩
      · exact ih hxs _
    · simp only [ofWord_text_of_not_isLegible hx]
      exact ⟨_, rfl⟩

/-- The texts of legible numbers are read as the numbers. -/
theorem Value.ofWords_text {xs : List Single} (h : ∀ x ∈ xs, x.IsLegible)
    (hlen : xs.length ≤ maxNumbers) : Value.ofWords (xs.map f.text) = .ok (.numbers xs) := by
  rw [Value.ofWords, gather_text h [] (by simpa using hlen), List.reverse_nil, List.nil_append]

/-- Among the texts of numbers, one that is not legible is a fault. -/
theorem Value.ofWords_illegible {xs : List Single} (h : ∃ x ∈ xs, ¬x.IsLegible) :
    ∃ fault, Value.ofWords (xs.map f.text) = .error fault :=
  gather_illegible h []

/-- A material between quotes is a word. -/
theorem IsMaterial.isWord_quoted {m : String} (h : IsMaterial m) :
    IsWord ('"' :: (m.toList ++ ['"'])) := by
  have hquote : isBlank '"' = false := by decide
  refine ⟨List.cons_ne_nil _ _, ?_⟩
  -- quotes inside the material are no blanks either
  simp [hquote, h.1]

/-- A material between quotes is read as the material, quotes in it included. -/
theorem Value.ofWords_material {m : String} (h : IsMaterial m) :
    Value.ofWords ['"' :: (m.toList ++ ['"'])] = .ok (.text m) := by
  have htoken : Token.ofWord ('"' :: (m.toList ++ ['"'])) = .text m.toList := by
    simp [Token.ofWord]
  have hroom : ¬maxTextBytes < m.utf8ByteSize := Nat.not_lt.2 h.2
  rw [Value.ofWords, gather, htoken]
  simp only [String.ofList_toList, if_neg hroom]
  rfl

/-! ### Lines as words -/

/-- The statement of words with single spaces between them. -/
theorem Statement.ofLine?_intercalate {ws : List (List Char)} (h : ∀ w ∈ ws, IsWord w) :
    Statement.ofLine? ([' '].intercalate ws) = Statement.ofWords? ws := by
  rw [Statement.ofLine?, Text.words_intercalate h]

end Script

namespace Block

open Script

/-- The words of an attribute with numbers. -/
def numberWords (f : NumberFormat) (name : String) (xs : List Single) : List (List Char) :=
  ('$' :: name.toList) :: xs.map f.text

/-- The words of the lines of a block. -/
def words (f : NumberFormat) : Block Single → List (List (List Char))
  | design b =>
    [['@' :: Keyword.designBlock.toList, b.name.toList],
      numberWords f Keyword.shape b.shape.values,
      numberWords f Keyword.position b.position.toList,
      numberWords f Keyword.rotation b.rotation.toList,
      ['$' :: Keyword.material.toList, '"' :: (b.material.toList ++ ['"'])],
      [':' :: Keyword.commit.toList],
      []]
  | camera b =>
    [['@' :: Keyword.camera.toList, b.name.toList],
      numberWords f Keyword.position b.position.toList,
      numberWords f Keyword.rotation b.rotation.toList,
      []]

/-- A line of numbers is its words with single spaces between them. -/
private theorem intercalate_numberWords (f : NumberFormat) (name : String) {xs : List Single}
    (hne : xs ≠ []) :
    ("$" ++ name ++ " " ++ f.join xs).toList = [' '].intercalate (numberWords f name xs) := by
  obtain ⟨x, xs, rfl⟩ := List.exists_cons_of_ne_nil hne
  have hjoin : (f.join (x :: xs)).toList = [' '].intercalate ((x :: xs).map f.text) := by
    simp [NumberFormat.join, NumberFormat.format, String.toList_intercalate, Function.comp_def]
  rw [String.toList_append, String.toList_append, String.toList_append, hjoin, numberWords,
    List.map_cons, List.intercalate_cons_cons]
  simp

/-- The lines of a block are its words with single spaces between them. -/
theorem map_lines (f : NumberFormat) (b : Block Single) :
    (b.lines f).map String.toList = (b.words f).map [' '].intercalate := by
  have hvalues (s : Shape Single) : s.values ≠ [] := by cases s <;> exact List.cons_ne_nil _ _
  have hvector (v : Vec3 Single) : v.toList ≠ [] := List.cons_ne_nil _ _
  cases b with
  | design b =>
    simp only [lines, words, List.map_cons, List.map_nil,
      intercalate_numberWords f _ (hvalues b.shape), intercalate_numberWords f _ (hvector _)]
    simp [List.intercalate_cons_cons]
  | camera b =>
    simp only [lines, words, List.map_cons, List.map_nil, intercalate_numberWords f _ (hvector _)]
    simp [List.intercalate_cons_cons]

/-- What stands between the spaces of a line of numbers are words. -/
theorem isWord_numberWords (f : NumberFormat) (name : String)
    (hname : BlankFree name.toList) (xs : List Single) :
    ∀ w ∈ numberWords f name xs, IsWord w := by
  intro w hw
  rcases List.mem_cons.1 hw with rfl | hw
  · refine ⟨List.cons_ne_nil _ _, ?_⟩
    simpa [show isBlank '$' = false by decide] using hname
  · obtain ⟨x, -, rfl⟩ := List.mem_map.1 hw
    exact f.isWord_text x

/-- The words of a block with a word for a name and a material without blanks are words. -/
theorem isWord_words (f : NumberFormat) {b : Block Single} (hb : b.IsWorded) :
    ∀ ws ∈ b.words f, ∀ w ∈ ws, IsWord w := by
  have hshape := isWord_numberWords f Keyword.shape (by decide)
  have hposition := isWord_numberWords f Keyword.position (by decide)
  have hrotation := isWord_numberWords f Keyword.rotation (by decide)
  cases b with
  | design b =>
    simp only [words, List.forall_mem_cons]
    exact ⟨⟨by decide, hb.1, by simp⟩, hshape _, hposition _, hrotation _,
      ⟨by decide, hb.2.isWord_quoted, by simp⟩, ⟨by decide, by simp⟩, by simp, by simp⟩
  | camera b =>
    simp only [words, List.forall_mem_cons]
    exact ⟨⟨by decide, hb, by simp⟩, hposition _, hrotation _, by simp, by simp⟩

end Block

end Scenery
