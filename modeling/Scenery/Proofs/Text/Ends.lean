import Scenery.Text.Line

/-!
# Line ends

A text is its lines with their line ends between them.  So lines can be taken out of a text while
everything else, line ends included, stays.

* `flatMap_endedLines`  the lines with their ends are the text
* `lines_eraseLines`    a text from which lines were taken out
-/

namespace Scenery.Text

/-- The lines of a text, each with its line end, which the last one may lack. -/
def endedLines : List Char → List (List Char × List Char)
  | [] => []
  | '\n' :: rest => ([], ['\n']) :: endedLines rest
  | '\r' :: '\n' :: rest => ([], ['\r', '\n']) :: endedLines rest
  | c :: rest =>
    match endedLines rest with
    | [] => [([c], [])]
    | (l, e) :: ls => (c :: l, e) :: ls

/-- Without their ends these are the lines. -/
theorem map_fst_endedLines (s : List Char) : (endedLines s).map Prod.fst = lines s := by
  fun_induction endedLines s with
  | case1 => rfl
  | case2 rest ih => rw [List.map_cons, ih, lines]
  | case3 rest ih => rw [List.map_cons, ih, lines]
  | case4 c rest hn hr h ih =>
    rw [h] at ih
    rw [lines, ← ih]
    · rfl
    · exact hn
    · exact hr
  | case5 c rest hn hr l e ls h ih =>
    rw [h] at ih
    rw [lines, ← ih]
    · rfl
    · exact hn
    · exact hr

/-- No character is lost between a line and the next. -/
theorem flatMap_endedLines (s : List Char) :
    (endedLines s).flatMap (fun l => l.1 ++ l.2) = s := by
  fun_induction endedLines s with
  | case1 => rfl
  | case2 rest ih => rw [List.flatMap_cons, ih]; rfl
  | case3 rest ih => rw [List.flatMap_cons, ih]; rfl
  | case4 c rest hn hr h ih =>
    rw [h] at ih
    rw [← ih]
    rfl
  | case5 c rest hn hr l e ls h ih =>
    rw [h] at ih
    rw [← ih]
    rfl

/-! ### Lines that are read again -/

/-- The lines with these ends are read again as they are: only the last one lacks an end, and a newline
alone does not stand behind a carriage return. -/
inductive Ended : List (List Char × List Char) → Prop where
  | nil : Ended []
  | last {l : List Char} (hl : '\n' ∉ l) : Ended [(l, [])]
  | newline {l : List Char} {ls : List (List Char × List Char)} (hl : '\n' ∉ l)
    (hr : l.getLast? ≠ some '\r') (hls : Ended ls) : Ended ((l, ['\n']) :: ls)
  | carriage {l : List Char} {ls : List (List Char × List Char)} (hl : '\n' ∉ l) (hls : Ended ls) :
    Ended ((l, ['\r', '\n']) :: ls)

/-- The lines with their ends are such as a text has. -/
theorem ended_endedLines (s : List Char) : Ended (endedLines s) := by
  fun_induction endedLines s with
  | case1 => exact .nil
  | case2 rest ih => exact .newline List.not_mem_nil (by simp) ih
  | case3 rest ih => exact .carriage List.not_mem_nil ih
  | case4 c rest hn hr h ih =>
    refine .last ?_
    simpa [eq_comm] using hn
  | case5 c rest hn hr l e ls h ih =>
    have hrest := flatMap_endedLines rest
    rw [h] at ih hrest
    have hmem {l : List Char} (hl : '\n' ∉ l) : '\n' ∉ c :: l := by
      rw [List.mem_cons, not_or]
      exact ⟨fun heq => hn heq.symm, hl⟩
    cases ih with
    | last hl => exact .last (hmem hl)
    | carriage hl hls => exact .carriage (hmem hl) hls
    | newline hl hlast hls =>
      refine .newline (hmem hl) ?_ hls
      -- behind a carriage return that ends the line the newline would belong to it
      cases l with
      | nil =>
        intro heq
        exact hr _ (Option.some.inj heq) hrest.symm
      | cons d l => rwa [List.getLast?_cons_cons]

/-- A character that ends no line is the first one of its line. -/
private theorem lines_cons {c : Char} {rest : List Char} (hn : c ≠ '\n')
    (hr : ∀ rest', c = '\r' → rest ≠ '\n' :: rest') {l : List Char} {ls : List (List Char)}
    (h : lines rest = l :: ls) : lines (c :: rest) = (c :: l) :: ls := by
  rw [lines, h]
  · exact hn
  · exact hr

/-- A text without newlines is one line. -/
theorem lines_of_notMem {l : List Char} (hl : '\n' ∉ l) (hne : l ≠ []) : lines l = [l] := by
  induction l with
  | nil => exact absurd rfl hne
  | cons c l ih =>
    rw [List.mem_cons, not_or] at hl
    cases l with
    | nil =>
      rw [lines, lines]
      · exact fun heq => hl.1 heq.symm
      · intro rest' _ heq
        cases heq
    | cons d l =>
      refine lines_cons (fun heq => hl.1 heq.symm) ?_ (ih hl.2 (List.cons_ne_nil d l))
      intro rest' _ heq
      exact hl.2 (by rw [heq]; exact List.mem_cons_self)

/-- A line ends at the first newline behind it. -/
theorem lines_append_newline {l : List Char} (hl : '\n' ∉ l) (hr : l.getLast? ≠ some '\r')
    (s : List Char) : lines (l ++ '\n' :: s) = l :: lines s := by
  induction l with
  | nil => rw [List.nil_append, lines]
  | cons c l ih =>
    rw [List.mem_cons, not_or] at hl
    rw [List.cons_append]
    cases l with
    | nil =>
      refine lines_cons (fun heq => hl.1 heq.symm) ?_ (by rw [List.nil_append, lines])
      intro rest' heq
      exact absurd (congrArg some heq) hr
    | cons d l =>
      refine lines_cons (fun heq => hl.1 heq.symm) ?_ (ih hl.2 (by rwa [List.getLast?_cons_cons] at hr))
      intro rest' _ heq
      rw [List.cons_append] at heq
      exact hl.2 (by rw [(List.cons.inj heq).1]; exact List.mem_cons_self)

/-- A carriage return before the newline belongs to the line end. -/
theorem lines_append_carriage {l : List Char} (hl : '\n' ∉ l) (s : List Char) :
    lines (l ++ '\r' :: '\n' :: s) = l :: lines s := by
  induction l with
  | nil => rw [List.nil_append, lines]
  | cons c l ih =>
    rw [List.mem_cons, not_or] at hl
    rw [List.cons_append]
    refine lines_cons (fun heq => hl.1 heq.symm) ?_ (ih hl.2)
    intro rest' _ heq
    cases l with
    | nil => cases heq
    | cons d l =>
      rw [List.cons_append] at heq
      exact hl.2 (by rw [(List.cons.inj heq).1]; exact List.mem_cons_self)

/-- Lines with their ends are read as those lines, an empty one without an end apart. -/
theorem Ended.lines_flatMap {ls : List (List Char × List Char)} (h : Ended ls) :
    ∃ rest, (rest = [] ∨ rest = [[]]) ∧
      ls.map Prod.fst = lines (ls.flatMap fun l => l.1 ++ l.2) ++ rest := by
  induction h with
  | nil => exact ⟨[], .inl rfl, rfl⟩
  | @last l hl =>
    rw [List.flatMap_singleton, List.append_nil]
    -- an empty piece behind the last newline is no line
    by_cases hne : l = []
    · subst hne
      exact ⟨[[]], .inr rfl, rfl⟩
    · exact ⟨[], .inl rfl, by rw [lines_of_notMem hl hne]; rfl⟩
  | newline hl hr hls ih =>
    obtain ⟨rest, hrest, heq⟩ := ih
    refine ⟨rest, hrest, ?_⟩
    rw [List.map_cons, List.flatMap_cons, heq, List.append_assoc, List.singleton_append,
      lines_append_newline hl hr, List.cons_append]
  | carriage hl hls ih =>
    obtain ⟨rest, hrest, heq⟩ := ih
    refine ⟨rest, hrest, ?_⟩
    rw [List.map_cons, List.flatMap_cons, heq, List.append_assoc, List.cons_append,
      List.singleton_append, lines_append_carriage hl, List.cons_append]

/-! ### Lines taken out -/

/-- The text in which the lines with a property are empty; their line ends stay. -/
def eraseLines (p : List Char → Bool) (s : List Char) : List Char :=
  (endedLines s).flatMap fun l => (if p l.1 then [] else l.1) ++ l.2

/-- Erasing the contents of some lines keeps their ends. -/
private theorem Ended.erase (p : List Char → Bool) {ls : List (List Char × List Char)} (h : Ended ls) :
    Ended (ls.map fun l => (if p l.1 then [] else l.1, l.2)) := by
  have hmem {l : List Char} (hl : '\n' ∉ l) : '\n' ∉ if p l then [] else l := by
    split
    · exact List.not_mem_nil
    · exact hl
  induction h with
  | nil => exact .nil
  | last hl => exact .last (hmem hl)
  | carriage hl hls ih => exact .carriage (hmem hl) ih
  | newline hl hr hls ih =>
    refine .newline (hmem hl) ?_ ih
    dsimp only
    split
    · simp
    · exact hr

/-- The lines of a text from which lines were taken out; an empty last line without an end is none. -/
theorem lines_eraseLines (p : List Char → Bool) (s : List Char) :
    ∃ rest, (rest = [] ∨ rest = [[]]) ∧
      (lines s).map (fun l => if p l then [] else l) = lines (eraseLines p s) ++ rest := by
  -- the shortened lines have the line ends they had, so they are read one by one again
  obtain ⟨rest, hrest, heq⟩ := ((ended_endedLines s).erase p).lines_flatMap
  refine ⟨rest, hrest, ?_⟩
  rw [List.flatMap_map, List.map_map] at heq
  rw [← map_fst_endedLines, List.map_map]
  exact heq

end Scenery.Text
