import Mathlib.Data.List.Induction
import Mathlib.Logic.Relation
import Scenery.Proofs.Text.Words

/-!
# Spacing

A text has words on lines, with blanks around them.  Other blanks in the same places, and other line
ends, leave the words on their lines.

* `Respacing`                     one run of blanks takes the place of another
* `wordRows`                      the words of each line
* `wordRows_of_respaced`          other blanks leave them
* `respaced_withCarriageReturns`  line ends with a carriage return are other blanks
-/

namespace Scenery.Text

/-- Blanks within a line. -/
def IsGap (s : List Char) : Prop := ∀ c ∈ s, isBlank c = true ∧ c ≠ '\n'

/-- A line begins behind the text. -/
def EndsLine (s : List Char) : Prop := s = [] ∨ ∃ t, s = t ++ ['\n']

/-- A line ends before the text. -/
def StartsLine (s : List Char) : Prop := s = [] ∨ ∃ t, s = '\n' :: t

/-- In a text, a run of blanks within a line takes the place of another.  Both have blanks, unless they
stand at the front or at the end of a line, where either may have none. -/
inductive Respacing : List Char → List Char → Prop where
  | between {front gap gap' back : List Char} (hgap : IsGap gap) (hgap' : IsGap gap')
    (hne : gap ≠ []) (hne' : gap' ≠ []) : Respacing (front ++ gap ++ back) (front ++ gap' ++ back)
  | atFront {front gap gap' back : List Char} (hgap : IsGap gap) (hgap' : IsGap gap')
    (hfront : EndsLine front) : Respacing (front ++ gap ++ back) (front ++ gap' ++ back)
  | atEnd {front gap gap' back : List Char} (hgap : IsGap gap) (hgap' : IsGap gap')
    (hback : StartsLine back) : Respacing (front ++ gap ++ back) (front ++ gap' ++ back)

/-- A text becomes another one as runs of blanks take the places of others. -/
abbrev Respaced : List Char → List Char → Prop := Relation.ReflTransGen Respacing

/-- The text with a carriage return before every newline. -/
def withCarriageReturns (s : List Char) : List Char :=
  s.flatMap fun c => if c = '\n' then ['\r', '\n'] else [c]

/-! ### Words around gaps -/

/-- No gap between words goes over the end of a line. -/
theorem IsGap.newline_notMem {gap : List Char} (h : IsGap gap) : '\n' ∉ gap :=
  fun hmem => (h _ hmem).2 rfl

/-- Blanks in front of a text belong to no word. -/
theorem words_gap_append {gap : List Char} (h : IsGap gap) (s : List Char) :
    words (gap ++ s) = words s := by
  induction gap with
  | nil => rfl
  | cons b gap ih =>
    have hrest : IsGap gap := fun c hc => h c (List.mem_cons_of_mem _ hc)
    have hb := words_append_blank [] (h b List.mem_cons_self).1 (gap ++ s)
    rw [List.cons_append, ← List.nil_append (b :: _), hb, ih hrest]
    rfl

/-- Words do not go on behind a gap. -/
theorem words_append_gap {gap : List Char} (h : IsGap gap) (hne : gap ≠ []) (s t : List Char) :
    words (s ++ gap ++ t) = words s ++ words t := by
  obtain ⟨b, gap, rfl⟩ := List.exists_cons_of_ne_nil hne
  have hrest : IsGap gap := fun c hc => h c (List.mem_cons_of_mem _ hc)
  rw [List.append_assoc, List.cons_append, words_append_blank s (h b List.mem_cons_self).1,
    words_gap_append hrest]

/-- Blanks behind a text belong to no word. -/
theorem words_append_gap_nil {gap : List Char} (h : IsGap gap) (s : List Char) :
    words (s ++ gap) = words s := by
  by_cases hne : gap = []
  · rw [hne, List.append_nil]
  · have hgap := words_append_gap h hne s []
    rwa [List.append_nil, show words [] = [] from rfl, List.append_nil] at hgap

/-! ### Words on lines -/

/-- The words of each line, the text behind the last newline being a line as well. -/
def wordRows (s : List Char) : List (List (List Char)) :=
  (s.splitOn '\n').map words

/-- A newline divides the rows of words. -/
theorem wordRows_append_newline (s t : List Char) :
    wordRows (s ++ '\n' :: t) = wordRows s ++ wordRows t := by
  unfold wordRows
  rw [List.splitOn_append_cons_self, List.map_append]

/-- A text without a newline is one row. -/
theorem wordRows_of_notMem {l : List Char} (h : '\n' ∉ l) : wordRows l = [words l] := by
  unfold wordRows
  rw [List.splitOn_eq_singleton h, List.map_singleton]

/-- Lines with their ends have the words of those lines, and a newline at the end has a line without
words behind it. -/
private theorem Ended.wordRows_flatMap {ls : List (List Char × List Char)} (h : Ended ls) :
    ∃ rest, (rest = [] ∨ rest = [[]]) ∧
      wordRows (ls.flatMap fun l => l.1 ++ l.2) = (ls.map Prod.fst ++ rest).map words := by
  induction h with
  | nil => exact ⟨[[]], .inr rfl, rfl⟩
  | @last l hl =>
    refine ⟨[], .inl rfl, ?_⟩
    rw [List.flatMap_singleton, List.append_nil, wordRows_of_notMem hl]
    rfl
  | @newline l ls hl hr hls ih =>
    obtain ⟨rest, hrest, heq⟩ := ih
    refine ⟨rest, hrest, ?_⟩
    rw [List.flatMap_cons, List.append_assoc, List.singleton_append, wordRows_append_newline,
      wordRows_of_notMem hl, heq]
    rfl
  | @carriage l ls hl hls ih =>
    obtain ⟨rest, hrest, heq⟩ := ih
    -- a carriage return before the newline is white space at the end of its row
    have hreturn : IsGap ['\r'] := by simp [IsGap, isBlank]
    have hmem : '\n' ∉ l ++ ['\r'] := by simp [hl]
    refine ⟨rest, hrest, ?_⟩
    rw [List.flatMap_cons, List.append_assoc, List.cons_append, List.singleton_append, List.append_cons,
      wordRows_append_newline, wordRows_of_notMem hmem, words_append_gap_nil hreturn, heq]
    rfl

/-- The words of each line are those of the lines that are read; one without words may be more. -/
theorem exists_wordRows_eq (s : List Char) : ∃ rest, (rest = [] ∨ rest = [[]]) ∧
    wordRows s = (lines s ++ rest).map words := by
  have h := (ended_endedLines s).wordRows_flatMap
  rwa [flatMap_endedLines, map_fst_endedLines] at h

/-! ### Other blanks -/

/-- What stands before a run of blanks is some lines and the front of a line. -/
private theorem exists_lastRow (front : List Char) : ∃ before l, (EndsLine front → l = []) ∧
    '\n' ∉ l ∧ ∀ s, wordRows (front ++ s) = before ++ wordRows (l ++ s) := by
  induction front using List.reverseRecOn with
  | nil => exact ⟨[], [], fun _ => rfl, List.not_mem_nil, fun s => rfl⟩
  | append_singleton front c ih =>
    by_cases hc : c = '\n'
    · subst hc
      refine ⟨wordRows front, [], fun _ => rfl, List.not_mem_nil, fun s => ?_⟩
      rw [List.append_assoc, List.singleton_append, wordRows_append_newline]
      rfl
    · obtain ⟨before, l, -, hl, hrows⟩ := ih
      refine ⟨before, l ++ [c], ?_, by simp [hl, Ne.symm hc], fun s => ?_⟩
      · intro hends
        simp [EndsLine, hc] at hends
      · rw [List.append_assoc, hrows, List.append_assoc]

/-- What stands behind a run of blanks is the end of a line and some lines. -/
private theorem exists_firstRow (back : List Char) : ∃ l after, (StartsLine back → l = []) ∧
    '\n' ∉ l ∧ ∀ s, wordRows (s ++ back) = wordRows (s ++ l) ++ after := by
  induction back with
  | nil => exact ⟨[], [], fun _ => rfl, List.not_mem_nil, fun s => (List.append_nil _).symm⟩
  | cons c back ih =>
    by_cases hc : c = '\n'
    · subst hc
      refine ⟨[], wordRows back, fun _ => rfl, List.not_mem_nil, fun s => ?_⟩
      rw [wordRows_append_newline, List.append_nil]
    · obtain ⟨l, after, -, hl, hrows⟩ := ih
      refine ⟨c :: l, after, ?_, by simp [hl, Ne.symm hc], fun s => ?_⟩
      · intro hstarts
        simp [StartsLine, hc] at hstarts
      · rw [List.append_cons, hrows, List.append_cons s c l]

/-- Blanks within a line change the words of that line at most. -/
private theorem exists_row (front back : List Char) : ∃ before l l' after,
    (EndsLine front → l = []) ∧ (StartsLine back → l' = []) ∧ ∀ gap, IsGap gap →
      wordRows (front ++ gap ++ back) = before ++ words (l ++ gap ++ l') :: after := by
  obtain ⟨before, l, hl, hmem, hbefore⟩ := exists_lastRow front
  obtain ⟨l', after, hl', hmem', hafter⟩ := exists_firstRow back
  refine ⟨before, l, l', after, hl, hl', fun gap hgap => ?_⟩
  have hrow : '\n' ∉ l ++ gap ++ l' := by simp [hmem, hmem', hgap.newline_notMem]
  rw [hafter, List.append_assoc front, hbefore, ← List.append_assoc l, wordRows_of_notMem hrow,
    List.append_assoc, List.singleton_append]

/-- A change of the gaps keeps the rows of words. -/
theorem wordRows_of_respacing {s t : List Char} (h : Respacing s t) : wordRows t = wordRows s := by
  cases h with
  | @between front gap gap' back hgap hgap' hne hne' =>
    obtain ⟨before, l, l', after, -, -, hrows⟩ := exists_row front back
    rw [hrows gap hgap, hrows gap' hgap', words_append_gap hgap hne, words_append_gap hgap' hne']
  | @atFront front gap gap' back hgap hgap' hfront =>
    obtain ⟨before, l, l', after, hl, -, hrows⟩ := exists_row front back
    rw [hrows gap hgap, hrows gap' hgap', hl hfront, List.nil_append, List.nil_append,
      words_gap_append hgap, words_gap_append hgap']
  | @atEnd front gap gap' back hgap hgap' hback =>
    obtain ⟨before, l, l', after, -, hl', hrows⟩ := exists_row front back
    rw [hrows gap hgap, hrows gap' hgap', hl' hback, List.append_nil, List.append_nil,
      words_append_gap_nil hgap, words_append_gap_nil hgap']

/-- Other blanks leave the words on their lines. -/
theorem wordRows_of_respaced {s t : List Char} (h : Respaced s t) : wordRows t = wordRows s := by
  induction h with
  | refl => rfl
  | tail _ hstep ih => rw [wordRows_of_respacing hstep, ih]

/-- Carriage returns may be put in from some place on. -/
private theorem respaced_append_withCarriageReturns (front s : List Char) :
    Respaced (front ++ s) (front ++ withCarriageReturns s) := by
  induction s generalizing front with
  | nil => exact .refl
  | cons c s ih =>
    unfold withCarriageReturns at ih ⊢
    rw [List.flatMap_cons, ← List.append_assoc]
    by_cases hc : c = '\n'
    · subst hc
      have hnone : IsGap [] := List.forall_mem_nil _
      have hreturn : IsGap ['\r'] := by simp [IsGap, isBlank]
      -- one carriage return is put in, and the rest of the text stays behind it
      have hstep : Respacing (front ++ [] ++ '\n' :: s) (front ++ ['\r'] ++ '\n' :: s) :=
        .atEnd hnone hreturn (.inr ⟨s, rfl⟩)
      rw [List.append_nil, List.append_assoc, List.singleton_append] at hstep
      have hrest := ih (front ++ ['\r', '\n'])
      rw [List.append_assoc, List.cons_append, List.singleton_append] at hrest
      exact .head hstep hrest
    · have hrest := ih (front ++ [c])
      rw [List.append_assoc, List.singleton_append] at hrest
      rwa [if_neg hc]

/-- A carriage return before a newline is a blank at the end of a line. -/
theorem respaced_withCarriageReturns (s : List Char) : Respaced s (withCarriageReturns s) :=
  respaced_append_withCarriageReturns [] s

end Scenery.Text
