import Scenery.Proofs.Text.Ends
import Scenery.Text.Blank

/-!
# Texts made of words and lines

Words with single spaces between them are divided into the same words again, and lines that each have
a newline behind them into the same lines.

* `words_intercalate`  words joined by spaces are those words
* `lines_flatMap`      lines ended by newlines are those lines
-/

namespace Scenery.Text

/-! ### Words -/

/-- A text holds no blank. -/
def BlankFree (cs : List Char) : Prop :=
  ∀ c ∈ cs, isBlank c = false

instance (cs : List Char) : Decidable (BlankFree cs) :=
  List.decidableBAll _ cs

@[simp] theorem blankFree_nil : BlankFree [] :=
  List.forall_mem_nil _

@[simp] theorem blankFree_cons {c : Char} {cs : List Char} :
    BlankFree (c :: cs) ↔ isBlank c = false ∧ BlankFree cs :=
  List.forall_mem_cons

@[simp] theorem blankFree_append {cs ds : List Char} :
    BlankFree (cs ++ ds) ↔ BlankFree cs ∧ BlankFree ds :=
  List.forall_mem_append

/-- A text that is one word: it is not empty and holds no blank. -/
def IsWord (w : List Char) : Prop :=
  w ≠ [] ∧ BlankFree w

instance (w : List Char) : Decidable (IsWord w) :=
  inferInstanceAs (Decidable (_ ∧ _))

/-- A blank at the front of a text belongs to no word. -/
private theorem words_cons_blank {b : Char} (hb : isBlank b = true) (s : List Char) :
    words (b :: s) = words s := by
  cases s with
  | nil => simp [words, hb]
  | cons c s => simp [words, hb]

/-- A text that starts with a character of a word has a word. -/
private theorem words_cons_ne_nil {c : Char} (hc : isBlank c = false) (s : List Char) :
    words (c :: s) ≠ [] := by
  cases s with
  | nil => simp [words, hc]
  | cons d s =>
    unfold words
    rw [hc, if_neg Bool.false_ne_true]
    split
    · exact List.cons_ne_nil _ _
    · split <;> exact List.cons_ne_nil _ _

/-- A word ends at the first blank behind it. -/
theorem words_append_blank (s : List Char) {b : Char} (hb : isBlank b = true) (t : List Char) :
    words (s ++ b :: t) = words s ++ words t := by
  have hrest := words_cons_blank hb t
  fun_induction words s with
  | case1 => exact hrest
  -- the division looks one character ahead, so a last character is apart
  | case2 c hc => simp [words, hc, hrest]
  | case3 c hc => simp [words, hc, hb, hrest]
  | case4 c d rest hc ih => simpa [words, hc] using ih
  | case5 c d rest hc hd ih => simpa [words, hc, hd] using ih
  | case6 c d rest hc hd hnone ih => exact absurd hnone (words_cons_ne_nil (by simpa using hd) rest)
  | case7 c d rest hc hd w ws hsome ih =>
    rw [hsome] at ih
    simp only [List.cons_append] at ih
    simp [words, hc, hd, ih]

/-- A word by itself is its only word. -/
private theorem words_of_isWord {w : List Char} (hw : IsWord w) : words w = [w] := by
  obtain ⟨hne, hfree⟩ := hw
  induction w with
  | nil => exact absurd rfl hne
  | cons c w ih =>
    have hc : isBlank c = false := hfree c (by simp)
    cases w with
    | nil => simp [words, hc]
    | cons d w =>
      have hd : isBlank d = false := hfree d (by simp)
      have hrest := ih (List.cons_ne_nil _ _) (fun a ha => hfree a (List.mem_cons_of_mem _ ha))
      simp [words, hc, hd, hrest]

/-- Words joined by single spaces are divided into those words. -/
theorem words_intercalate {ws : List (List Char)} (h : ∀ w ∈ ws, IsWord w) :
    words ([' '].intercalate ws) = ws := by
  induction ws with
  | nil => rfl
  | cons w ws ih =>
    have hw : IsWord w := h w (by simp)
    cases ws with
    | nil => rw [List.intercalate_singleton, words_of_isWord hw]
    | cons v ws =>
      have hrest := ih fun u hu => h u (List.mem_cons_of_mem _ hu)
      rw [List.intercalate_cons_cons, List.append_assoc, List.singleton_append,
        words_append_blank w (by decide), words_of_isWord hw, hrest, List.singleton_append]

/-! ### Lines -/

/-- A text that is one line: it holds none of the characters of line ends. -/
def IsLine (l : List Char) : Prop :=
  ∀ c ∈ l, c ≠ '\n' ∧ c ≠ '\r'

/-- The characters of line ends are blanks. -/
theorem ne_lineEnd {c : Char} (h : isBlank c = false) : c ≠ '\n' ∧ c ≠ '\r' := by
  constructor
  · intro heq
    subst heq
    exact absurd h (by decide)
  · intro heq
    subst heq
    exact absurd h (by decide)

/-- Words with single spaces between them are one line. -/
theorem isLine_intercalate {ws : List (List Char)} (h : ∀ w ∈ ws, IsWord w) :
    IsLine ([' '].intercalate ws) := by
  induction ws with
  | nil => exact fun c hc => absurd hc List.not_mem_nil
  | cons w ws ih =>
    have hw : IsLine w := fun c hc => ne_lineEnd ((h w (by simp)).2 c hc)
    cases ws with
    | nil => rwa [List.intercalate_singleton]
    | cons v ws =>
      have hrest := ih fun u hu => h u (List.mem_cons_of_mem _ hu)
      intro c hc
      rw [List.intercalate_cons_cons, List.mem_append, List.mem_append] at hc
      -- a character of the first word, the space, or one of the words behind
      rcases hc with (hc | hc) | hc
      · exact hw c hc
      · rw [List.mem_singleton.1 hc]
        decide
      · exact hrest c hc

/-- Lines that each have a newline behind them are read as those lines. -/
theorem lines_flatMap {ls : List (List Char)} (h : ∀ l ∈ ls, IsLine l) :
    lines (ls.flatMap (· ++ ['\n'])) = ls := by
  induction ls with
  | nil => rfl
  | cons l ls ih =>
    have hrest := ih fun k hk => h k (List.mem_cons_of_mem _ hk)
    have hl : IsLine l := h l (by simp)
    have hreturn : l.getLast? ≠ some '\r' := fun heq =>
      (hl '\r' (List.mem_of_getLast? heq)).2 rfl
    rw [List.flatMap_cons, List.append_assoc, List.singleton_append,
      lines_append_newline (fun hmem => (hl '\n' hmem).1 rfl) hreturn, hrest]

end Scenery.Text
