import Scenery.Proofs.Text.Spacing
import Scenery.Script.Reader

/-!
# Reading spaced texts

What is read of a text depends on the words of its lines alone, not on the blanks around them and not
on the line ends.  Notes and errors have the same line numbers and the same words, too.

* `readLines_congr`  lines with the same words
* `read_congr`       texts with the same words on the same lines
* `read_respaced`    texts with other blanks and other line ends
-/

namespace Scenery.Script

open Text (Respaced Respacing withCarriageReturns wordRows)

variable {mode : Mode}

/-- Lines with the same words are read alike. -/
theorem readLines_congr {ls ls' : List (List Char)} (h : ls.map Text.words = ls'.map Text.words)
    (r : Reading) (n : Nat) : readLines mode r n ls = readLines mode r n ls' := by
  induction ls generalizing ls' r n with
  | nil => rw [List.map_eq_nil_iff.1 h.symm]
  | cons line ls ih =>
    obtain ⟨line', ls', rfl, hline, hls⟩ := List.map_eq_cons_iff.1 h.symm
    have hstatement : Statement.ofLine? line = Statement.ofLine? line' := by
      rw [Statement.ofLine?, Statement.ofLine?, hline]
    unfold readLines
    simp only [hstatement, ih hls.symm]

/-- A line without words behind all others is not seen. -/
private theorem readLines_append_blank (r : Reading) (n : Nat) (ls : List (List Char)) :
    readLines mode r n (ls ++ [[]]) = readLines mode r n ls := by
  induction ls generalizing r n with
  | nil => rfl
  | cons line ls ih =>
    rw [List.cons_append]
    unfold readLines
    simp only [ih]

/-- Texts with the same words on the same lines are read alike. -/
theorem read_congr {a b : String} (h : wordRows a.toList = wordRows b.toList) :
    read mode a = read mode b := by
  have hread (s : List Char) : ∃ ls, wordRows s = ls.map Text.words ∧
      readLines mode .start 1 (Text.lines s) = readLines mode .start 1 ls := by
    obtain ⟨rest, hrest, hrows⟩ := Text.exists_wordRows_eq s
    refine ⟨_, hrows, ?_⟩
    rcases hrest with rfl | rfl
    · rw [List.append_nil]
    · rw [readLines_append_blank]
  obtain ⟨ls, hls, ha⟩ := hread a.toList
  obtain ⟨ls', hls', hb⟩ := hread b.toList
  have hwords : ls.map Text.words = ls'.map Text.words := by rw [← hls, h, hls']
  unfold read
  rw [ha, hb, readLines_congr hwords]

/-- A text with other blanks around its words and with other line ends is read like the text: the
document is the same, or the error with its line number, and so are the notes. -/
theorem read_respaced (mode : Mode) {a b : String} (h : Respaced a.toList b.toList) :
    read mode b = read mode a ∧
      read mode (String.ofList (withCarriageReturns b.toList)) = read mode a := by
  have hreturns := Text.respaced_withCarriageReturns b.toList
  constructor
  · exact read_congr (Text.wordRows_of_respaced h)
  · refine read_congr ?_
    rw [String.toList_ofList]
    exact Text.wordRows_of_respaced (h.trans hreturns)

/-- A line with a fault after the name of a camera, with other blanks around its words. -/
theorem read_respaced_camera :
    Respaced "@camera c\n$pos 1 two 3".toList "@camera\t c\n$pos 1 two 3\r".toList ∧
      read .strict "@camera\t c\n$pos 1 two 3\r" = read .strict "@camera c\n$pos 1 two 3" ∧
      read .strict (String.ofList (withCarriageReturns "@camera\t c\n$pos 1 two 3\r".toList)) =
        read .strict "@camera c\n$pos 1 two 3" := by
  have hblank : Text.IsGap [' '] := by simp [Text.IsGap, Text.isBlank]
  have htab : Text.IsGap ['\t', ' '] := by simp [Text.IsGap, Text.isBlank]
  have hreturn : Text.IsGap ['\r'] := by simp [Text.IsGap, Text.isBlank]
  have hfirst : Respacing ("@camera".toList ++ [' '] ++ "c\n$pos 1 two 3".toList)
      ("@camera".toList ++ ['\t', ' '] ++ "c\n$pos 1 two 3".toList) :=
    .between hblank htab (List.cons_ne_nil _ _) (List.cons_ne_nil _ _)
  have hlast : Respacing ("@camera\t c\n$pos 1 two 3".toList ++ [] ++ [])
      ("@camera\t c\n$pos 1 two 3".toList ++ ['\r'] ++ []) :=
    .atEnd (List.forall_mem_nil _) hreturn (.inl rfl)
  have h : Respaced "@camera c\n$pos 1 two 3".toList "@camera\t c\n$pos 1 two 3\r".toList :=
    .tail (.single hfirst) hlast
  exact ⟨h, read_respaced .strict h⟩

end Scenery.Script
