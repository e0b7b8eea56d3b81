import Scenery.Proofs.Script.Groups
import Scenery.Proofs.Script.RoundTrip
import Scenery.Proofs.Text.Ends

/-!
# Strict and lenient readers

The two kinds of readers differ in lines with a fault only.  A strict reader stops at the first of them,
whatever it has read until then; a lenient one reads on as if the line were empty.

* `readLines_strict_eq_some`   where a strict reader stops
* `isFaulty_withoutFaults`     a text whose lines with a fault were emptied has none
* `read_strict_iff`            what both readers make of a text
-/

namespace Scenery.Script

/-- The values of a line have a fault. -/
def isFaulty (line : List Char) : Bool :=
  match Statement.ofLine? line with
  | .ok _ => false
  | .error _ => true

/-- A line is faulty exactly if its reading fails. -/
theorem isFaulty_eq_true {line : List Char} :
    isFaulty line = true ↔ ∃ fault, Statement.ofLine? line = .error fault := by
  unfold isFaulty
  cases Statement.ofLine? line <;> simp

/-- A line is not faulty exactly if its reading succeeds, with a statement or without one. -/
theorem isFaulty_eq_false {line : List Char} :
    isFaulty line = false ↔ ∃ s?, Statement.ofLine? line = .ok s? := by
  unfold isFaulty
  cases Statement.ofLine? line <;> simp

/-! ### The first fault -/

/-- The first line with a fault among lines of which the first has the number `n`. -/
def IsFirstFault (n : Nat) (ls : List (List Char)) (e : LineError) : Prop :=
  ∃ before line after, ls = before ++ line :: after ∧ (∀ l ∈ before, isFaulty l = false) ∧
    Statement.ofLine? line = .error e.fault ∧ e.line = n + before.length

variable {r : Reading} {n : Nat} {ls : List (List Char)} {e : LineError}

/-- At a faulty line the first fault is its own. -/
private theorem isFirstFault_cons_error {line : List Char} {fault : Fault}
    (h : Statement.ofLine? line = .error fault) :
    IsFirstFault n (line :: ls) e ↔ e = ⟨n, fault⟩ := by
  constructor
  · rintro ⟨before, line', after, heq, hbefore, hfault, hline⟩
    -- were it a later one, this line would be without a fault
    cases before with
    | nil =>
      cases heq
      rw [h] at hfault
      cases e
      simp_all
    | cons l before =>
      cases heq
      have hl := hbefore line (by simp)
      rw [isFaulty_eq_false] at hl
      simp [h] at hl
  · rintro rfl
    exact ⟨[], line, ls, rfl, by simp, h, rfl⟩

/-- Behind a line without a fault, the first fault is that of the rest. -/
private theorem isFirstFault_cons_ok {line : List Char} {s? : Option Statement}
    (h : Statement.ofLine? line = .ok s?) :
    IsFirstFault n (line :: ls) e ↔ IsFirstFault (n + 1) ls e := by
  constructor
  · rintro ⟨before, line', after, heq, hbefore, hfault, hline⟩
    cases before with
    -- the first line has no fault, so the fault is farther behind
    | nil =>
      cases heq
      rw [h] at hfault
      cases hfault
    | cons l before =>
      cases heq
      rw [List.forall_mem_cons] at hbefore
      refine ⟨before, line', after, rfl, hbefore.2, hfault, ?_⟩
      rw [hline, List.length_cons]
      omega
  · rintro ⟨before, line', after, rfl, hbefore, hfault, hline⟩
    refine ⟨line :: before, line', after, rfl, ?_, hfault, ?_⟩
    · rw [List.forall_mem_cons]
      exact ⟨isFaulty_eq_false.2 ⟨s?, h⟩, hbefore⟩
    · rw [hline, List.length_cons]
      omega

/-- A strict reader stops at the first line with a fault, whatever it has read. -/
theorem readLines_strict_eq_some :
    (readLines .strict r n ls).1 = some e ↔ IsFirstFault n ls e := by
  induction ls generalizing r n with
  | nil =>
    simp [readLines, IsFirstFault]
  | cons line rest ih =>
    unfold readLines
    cases hline : Statement.ofLine? line with
    | error fault =>
      rw [isFirstFault_cons_error hline]
      simp [eq_comm]
    | ok s? =>
      rw [isFirstFault_cons_ok hline]
      cases s? with
      | none => exact ih
      | some s => exact ih

/-- A strict reader reads all lines if none has a fault. -/
theorem readLines_strict_eq_none :
    (readLines .strict r n ls).1 = none ↔ ∀ line ∈ ls, isFaulty line = false := by
  induction ls generalizing r n with
  | nil => simp [readLines]
  | cons line rest ih =>
    unfold readLines
    rw [List.forall_mem_cons, isFaulty_eq_false]
    cases hline : Statement.ofLine? line with
    | error fault => simp
    | ok s? =>
      cases s? with
      | none => simpa using ih
      | some s => simpa using ih

/-! ### Texts -/

variable {text : String} {d : Document Single}

/-- Reading fails exactly if a line stops it. -/
theorem read_eq_error {mode : Mode} : (read mode text).result = .error e ↔
    (readLines mode .start 1 (Text.lines text.toList)).1 = some e := by
  unfold read
  split <;> rename_i h <;> simp [h]

/-- A strict reader reads a text without faults, and makes of it what a lenient one does. -/
theorem read_strict_eq_ok : (read .strict text).result = .ok d ↔
    (∀ line ∈ Text.lines text.toList, isFaulty line = false) ∧
      (read .lenient text).result = .ok d := by
  rw [← readLines_strict_eq_none (r := .start) (n := 1)]
  constructor
  · intro hread
    refine ⟨?_, read_lenient_of_read hread⟩
    rw [Option.eq_none_iff_forall_ne_some]
    intro e he
    have herror := read_eq_error.2 he
    rw [hread] at herror
    cases herror
  · intro h
    obtain ⟨hnone, hlenient⟩ := h
    cases hstrict : (read .strict text).result with
    | error e =>
      rw [read_eq_error, hnone] at hstrict
      cases hstrict
    | ok d' =>
      -- the lenient reader gives one document only, so the two are the same
      have hlenient' := read_lenient_of_read hstrict
      rw [hlenient] at hlenient'
      cases hlenient'
      rfl

/-! ### Texts without their faults -/

/-- The text with an empty line in the place of every line with a fault. -/
def withoutFaults (text : String) : String :=
  String.ofList (Text.eraseLines isFaulty text.toList)

/-- What becomes of a line is empty or has no fault. -/
private theorem isFaulty_erased (line : List Char) :
    isFaulty (if isFaulty line then [] else line) = false := by
  cases h : isFaulty line with
  | true => rfl
  | false => exact h

/-- Once the faulty lines are erased, no line is faulty. -/
theorem isFaulty_withoutFaults (text : String) :
    ∀ line ∈ Text.lines (withoutFaults text).toList, isFaulty line = false := by
  obtain ⟨rest, -, hlines⟩ := Text.lines_eraseLines isFaulty text.toList
  intro line hline
  rw [withoutFaults, String.toList_ofList] at hline
  have hmem := List.mem_append_left rest hline
  rw [← hlines] at hmem
  obtain ⟨l, -, rfl⟩ := List.mem_map.1 hmem
  exact isFaulty_erased l

/-- Lines with a fault and empty lines have no statement alike. -/
private theorem statements_erased (ls : List (List Char)) :
    statements (ls.map fun line => if isFaulty line then [] else line) = statements ls := by
  unfold statements
  rw [List.filterMap_map]
  apply List.filterMap_congr
  intro line _
  rw [Function.comp_apply]
  cases h : isFaulty line with
  | false => rfl
  | true =>
    obtain ⟨fault, hfault⟩ := isFaulty_eq_true.1 h
    rw [if_pos rfl, hfault]
    rfl

/-- Erasing faulty lines keeps all statements, under their numbers. -/
theorem statements_withoutFaults (text : String) :
    statements (Text.lines (withoutFaults text).toList) = statements (Text.lines text.toList) := by
  obtain ⟨rest, hrest, hlines⟩ := Text.lines_eraseLines isFaulty text.toList
  -- an empty line at the end may be lost, and it has no statement
  have hnone : statements rest = [] := by
    rcases hrest with rfl | rfl
    · rfl
    · rfl
  rw [← statements_erased (Text.lines text.toList), hlines, withoutFaults, String.toList_ofList]
  unfold statements at hnone ⊢
  rw [List.filterMap_append, hnone, List.append_nil]

/-- A strict reader stops exactly at the first line with a fault, and makes of a text without faults what
a lenient one does.  A lenient reader makes of every text what a strict one makes of the text with an
empty line in the place of every line with a fault. -/
theorem read_strict_iff (text : String) :
    (∀ e, (read .strict text).result = .error e ↔
      IsFirstFault 1 (Text.lines text.toList) e) ∧
    ((∃ e, (read .strict text).result = .error e) ↔
      ∃ line ∈ Text.lines text.toList, isFaulty line = true) ∧
    (∀ d, (read .strict text).result = .ok d ↔
      (∀ line ∈ Text.lines text.toList, isFaulty line = false) ∧
        (read .lenient text).result = .ok d) ∧
    ∃ d, (read .lenient text).result = .ok d ∧
      (read .strict (withoutFaults text)).result = .ok d := by
  refine ⟨?_, ?_, fun d => read_strict_eq_ok, ?_⟩
  · intro e
    rw [read_eq_error, readLines_strict_eq_some]
  · have hnone : (readLines .strict .start 1 (Text.lines text.toList)).1 = none ↔ _ :=
      readLines_strict_eq_none
    simp only [read_eq_error, ← Option.isSome_iff_exists, Option.isSome_iff_ne_none, ne_eq, hnone]
    simp
  · -- erasing the faulty lines leaves their numbers to the others
    have hlenient := read_lenient_outcome text
    refine ⟨_, hlenient, read_strict_eq_ok.2 ⟨isFaulty_withoutFaults text, ?_⟩⟩
    rw [read_lenient_outcome, statements_withoutFaults]

end Scenery.Script
