import Scenery.Proofs.Script.Modes

/-!
# No object disappears

Every statement that creates an object comes to one block of the document or to one note that says why
there is none.  While a script is read, the objects before the current one have come to theirs, in the
order of the statements, and the current object still has to.

* `AccountsFor`            what a statement that creates an object comes to
* `Reading.accounted_step` a statement that is read keeps the accounts
* `read_lenient_accounts`  the accounts of a whole text
-/

namespace Scenery.Script

/-! ### What is accounted for -/

/-- A statement that creates an object, with the number of its line. -/
structure Creation where
  line : Nat
  type : String
  name : String

/-- The creation that a statement at some line is, if it is one. -/
def Statement.creation? (line : Nat) : Statement → Option Creation
  | create type name => some ⟨line, type, name⟩
  | _ => none

/-- The statements that create objects among lines of which the first has the number `n`. -/
def creations (n : Nat) (ls : List (List Char)) : List Creation :=
  (ls.zipIdx n).filterMap fun (line, k) =>
    (Statement.ofLine? line).toOption.join.bind (·.creation? k)

/-- What the reader makes of an object. -/
inductive Entry where
  | block (b : Block Single)
  | note (n : Note)

namespace Entry

/-- The block of an entry, if it has one. -/
def block? : Entry → Option (Block Single)
  | block b => some b
  | note _ => none

/-- The note of an entry, if it has one. -/
def note? : Entry → Option Note
  | note n => some n
  | block _ => none

end Entry

/-- The notes that stand for an object without a block. -/
def Note.isAccount : Note → Bool
  | unknownType _ _ | incomplete _ _ _ | neverCommitted _ | namelessCamera => true
  | _ => false

/-- What a statement that creates an object comes to: a block with its name, or a note on it. -/
inductive AccountsFor (c : Creation) : Entry → Prop where
  | camera {b : CameraBlock Single} (htype : c.type = "camera") (hname : b.name = c.name) :
      AccountsFor c (.block (.camera b))
  | design {b : DesignBlock Single} (htype : c.type = "dblock") (hname : b.name = c.name) :
      AccountsFor c (.block (.design b))
  | unknownType {n : Note} (htype : c.type ≠ "camera" ∧ c.type ≠ "dblock")
      (hn : n.record = ⟨.warn, atLine c.line ("unknown object type '" ++ c.type ++ "'")⟩) :
      AccountsFor c (.note n)
  | namelessCamera {n : Note} (htype : c.type = "camera") (hname : c.name = "")
      (hn : n.record = ⟨.error, "camera block without a name"⟩) : AccountsFor c (.note n)
  | incomplete {n : Note} {line : Nat} {missing : List Part} (htype : c.type = "dblock")
      (hmissing : missing ≠ []) (hn : n.record = ⟨.error, atLine line ("design block '" ++ c.name ++
        "' is missing " ++ ", ".intercalate (missing.map Part.label))⟩) : AccountsFor c (.note n)
  | neverCommitted {n : Note} (htype : c.type = "dblock")
      (hn : n.record = ⟨.warn, "design block '" ++ c.name ++ "' was never committed"⟩) :
      AccountsFor c (.note n)

/-- The statement that created the current object, if that has not come to an entry yet. -/
inductive Current.Opens : Current → List Creation → Prop where
  | nothing : Opens .nothing []
  /-- The type was noted when the object was created. -/
  | other (type : String) : Opens (.other type) []
  | design {c : Creation} {p : Pending} (htype : c.type = "dblock") (hname : p.name = c.name) :
      Opens (.design p) [c]
  | camera {c : Creation} {b : CameraBlock Single} (htype : c.type = "camera")
      (hname : b.name = c.name) : Opens (.camera b) [c]

/-- An object goes on under its name. -/
def Current.Continues : Current → Current → Prop
  | .design p, .design q => q.name = p.name
  | .camera b, .camera b' => b'.name = b.name
  | _, _ => False

/-- Going on with a block keeps what it was opened by. -/
private theorem Current.Opens.continues {current current' : Current} {opened : List Creation}
    (h : current.Opens opened) (hcontinues : current.Continues current') : current'.Opens opened := by
  cases h with
  | nothing => cases hcontinues
  | other type => cases hcontinues
  | design htype hname =>
    cases current' with
    | design q => exact .design htype (hcontinues.trans hname)
    | _ => cases hcontinues
  | camera htype hname =>
    cases current' with
    | camera b => exact .camera htype (hcontinues.trans hname)
    | _ => cases hcontinues

namespace Reading

/-! ### What statements do -/

section

variable (r : Reading) (line : Nat) (name : String) (v : Value)

/-- An attribute leaves the name of a design block alone, or it is noted. -/
private theorem designAttribute_cases (p : Pending) :
    (∃ q, designAttribute line name v p = .ok q ∧ q.name = p.name) ∨
      ∃ n, designAttribute line name v p = .error n ∧ n.isAccount = false := by
  unfold designAttribute
  -- every branch replaces a part other than the name, or tells why it does not
  repeat' split
  all_goals first
    | exact .inl ⟨_, rfl, rfl⟩
    | exact .inr ⟨_, rfl, rfl⟩

/-- An attribute of a camera keeps its name, or fails with a note that is no account of a block. -/
private theorem cameraAttribute_cases (b : CameraBlock Single) :
    (∃ b', cameraAttribute line name v b = .ok b' ∧ b'.name = b.name) ∨
      ∃ n, cameraAttribute line name v b = .error n ∧ n.isAccount = false := by
  unfold cameraAttribute
  repeat' split
  all_goals first
    | exact .inl ⟨_, rfl, rfl⟩
    | exact .inr ⟨_, rfl, rfl⟩

/-- An attribute is noted, or the current object goes on with it. -/
private theorem setAttribute_cases :
    (∃ n, n.isAccount = false ∧ r.setAttribute line name v = r.note n) ∨
      ∃ current, r.current.Continues current ∧ r.setAttribute line name v = { r with current } := by
  unfold setAttribute
  cases r.current with
  | nothing => exact .inl ⟨_, rfl, rfl⟩
  | other type => exact .inl ⟨_, rfl, rfl⟩
  | design p =>
    dsimp only
    rcases designAttribute_cases line name v p with ⟨q, hq, hname⟩ | ⟨n, hn, haccount⟩
    · exact .inr ⟨.design q, hname, by rw [hq]⟩
    · exact .inl ⟨n, haccount, by rw [hn]⟩
  | camera b =>
    dsimp only
    rcases cameraAttribute_cases line name v b with ⟨b', hb', hname⟩ | ⟨n, hn, haccount⟩
    · exact .inr ⟨.camera b', hname, by rw [hb']⟩
    · exact .inl ⟨n, haccount, by rw [hn]⟩

/-- A design block that is complete has its name; one that is not lacks some part. -/
private theorem finish?_cases (p : Pending) :
    (∃ b, p.finish? = some b ∧ b.name = p.name) ∨ p.finish? = none ∧ p.missing ≠ [] := by
  unfold Pending.finish? Pending.missing
  cases p.name.isEmpty with
  | true => exact .inr ⟨rfl, by simp⟩
  | false =>
    cases p.shape with
    | none => exact .inr ⟨rfl, by simp⟩
    | some shape =>
      cases p.material with
      | none => exact .inr ⟨rfl, by simp⟩
      | some material => exact .inl ⟨_, rfl, rfl⟩

/-- A command is noted, or it commits the current design block, complete or not. -/
private theorem runCommand_cases :
    (∃ n, n.isAccount = false ∧ r.runCommand line name = r.note n) ∨
      ∃ p, r.current = .design p ∧
        ((∃ b, b.name = p.name ∧
            r.runCommand line name = { r with current := .nothing }.push (.design b)) ∨
          p.missing ≠ [] ∧ r.runCommand line name =
            { r with current := .nothing }.note (.incomplete line p.name p.missing)) := by
  unfold runCommand
  split
  · cases r.current with
    | nothing => exact .inl ⟨_, rfl, rfl⟩
    | other type => exact .inl ⟨_, rfl, rfl⟩
    | camera b => exact .inl ⟨_, rfl, rfl⟩
    | design p =>
      refine .inr ⟨p, rfl, ?_⟩
      dsimp only
      -- a commit ends the design, complete or not
      rcases finish?_cases p with ⟨b, hb, hname⟩ | ⟨hnone, hmissing⟩
      · exact .inl ⟨b, hname, by rw [hb]⟩
      · exact .inr ⟨hmissing, by rw [hnone]⟩
  · exact .inl ⟨_, rfl, rfl⟩

end

/-! ### Accounts -/

/-- The blocks and the notes of a reading are the entries of some statements, in order. -/
def Settles (r : Reading) (closed : List Creation) : Prop :=
  ∃ entries, List.Forall₂ AccountsFor closed entries ∧
    r.blocks.toList = entries.filterMap Entry.block? ∧
    r.notes.toList.filter Note.isAccount = entries.filterMap Entry.note?

/-- All statements that created objects have come to their entries, but for that of the current one. -/
def Accounted (r : Reading) (begun : List Creation) : Prop :=
  ∃ closed opened, begun = closed ++ opened ∧ r.current.Opens opened ∧ r.Settles closed

variable {r : Reading} {closed begun : List Creation} {c : Creation}

/-! ### Entries -/

namespace Settles

/-- Other notes are no entries. -/
private theorem note (h : r.Settles closed) {n : Note} (hn : n.isAccount = false) :
    (r.note n).Settles closed := by
  obtain ⟨entries, hentries, hblocks, hnotes⟩ := h
  refine ⟨entries, hentries, hblocks, ?_⟩
  simp [Reading.note, List.filter_append, hn, hnotes]

/-- A block that is finished settles what it was opened by. -/
private theorem push (h : r.Settles closed) {b : Block Single} (hb : AccountsFor c (.block b)) :
    (r.push b).Settles (closed ++ [c]) := by
  obtain ⟨entries, hentries, hblocks, hnotes⟩ := h
  refine ⟨entries ++ [.block b], List.rel_append hentries (.cons hb .nil), ?_, ?_⟩
  · simp [Reading.push, hblocks, Entry.block?]
  · simp [Reading.push, hnotes, Entry.note?]

/-- A note that accounts for a creation settles it. -/
private theorem settle (h : r.Settles closed) {n : Note} (hn : n.isAccount = true)
    (haccount : AccountsFor c (.note n)) : (r.note n).Settles (closed ++ [c]) := by
  obtain ⟨entries, hentries, hblocks, hnotes⟩ := h
  refine ⟨entries ++ [.note n], List.rel_append hentries (.cons haccount .nil), ?_, ?_⟩
  · simp [Reading.note, hblocks, Entry.block?]
  · simp [Reading.note, List.filter_append, hn, hnotes, Entry.note?]

end Settles

theorem accounted_start : start.Accounted [] :=
  ⟨[], [], rfl, .nothing, [], .nil, rfl, rfl⟩

/-! ### Statements -/

namespace Accounted

/-- Other notes change no account. -/
private theorem note (h : r.Accounted begun) {n : Note} (hn : n.isAccount = false) :
    (r.note n).Accounted begun := by
  obtain ⟨closed, opened, hbegun, hopens, hsettles⟩ := h
  exact ⟨closed, opened, hbegun, hopens, hsettles.note hn⟩

/-- The current object comes to its entry when it is left. -/
private theorem close (h : r.Accounted begun) : r.close.Settles begun := by
  obtain ⟨closed, opened, rfl, hopens, hsettles⟩ := h
  unfold Reading.close
  generalize r.current = current at hopens
  cases hopens with
  | nothing =>
    rw [List.append_nil]
    exact hsettles
  | other type =>
    -- an object of unknown type has come to its note before
    rw [List.append_nil]
    exact hsettles
  | design htype hname =>
    -- a commit would have left the block
    refine hsettles.settle rfl (.neverCommitted htype ?_)
    rw [← hname]
    rfl
  | @camera c b htype hname =>
    dsimp only
    split
    · rename_i hempty
      refine hsettles.settle rfl (.namelessCamera htype ?_ rfl)
      rw [← hname]
      simpa using hempty
    · exact hsettles.push (.camera htype hname)

/-- Creating a block settles the one before and opens the next. -/
private theorem create (h : r.Accounted begun) (line : Nat) (type name : String) :
    (r.create line type name).Accounted (begun ++ [⟨line, type, name⟩]) := by
  have hclose := h.close
  unfold Reading.create
  dsimp only
  split
  · rename_i htype
    exact ⟨begun, _, rfl, .design htype rfl, hclose⟩
  · rename_i hdesign
    split
    · rename_i htype
      exact ⟨begun, _, rfl, .camera htype rfl, hclose⟩
    · -- an object of unknown type has its note at once
      rename_i hcamera
      refine ⟨begun ++ [⟨line, type, name⟩], [], by simp, .other type, ?_⟩
      exact hclose.settle (n := .unknownType line type) rfl (.unknownType ⟨hcamera, hdesign⟩ rfl)

/-- An attribute opens and settles nothing. -/
private theorem setAttribute (h : r.Accounted begun) (line : Nat) (name : String) (v : Value) :
    (r.setAttribute line name v).Accounted begun := by
  rcases setAttribute_cases r line name v with ⟨n, hn, heq⟩ | ⟨current, hcurrent, heq⟩
  · rw [heq]
    exact h.note hn
  · obtain ⟨closed, opened, rfl, hopens, hsettles⟩ := h
    rw [heq]
    exact ⟨closed, opened, rfl, hopens.continues hcurrent, hsettles⟩

/-- A commit settles the design that is open; other commands change no account. -/
private theorem runCommand (h : r.Accounted begun) (line : Nat) (name : String) :
    (r.runCommand line name).Accounted begun := by
  rcases runCommand_cases r line name with ⟨n, hn, heq⟩ | ⟨p, hp, hcommit⟩
  · rw [heq]
    exact h.note hn
  obtain ⟨closed, opened, rfl, hopens, hsettles⟩ := h
  rw [hp] at hopens
  cases hopens with
  | @design c p htype hname =>
    -- complete or not, the block comes to its entry and is left
    refine ⟨closed ++ [c], [], by simp, ?_⟩
    rcases hcommit with ⟨b, hb, heq⟩ | ⟨hmissing, heq⟩
    · rw [heq]
      exact ⟨.nothing, hsettles.push (.design htype (hb.trans hname))⟩
    · rw [heq]
      refine ⟨.nothing, hsettles.settle rfl ?_⟩
      refine @AccountsFor.incomplete _ _ line _ htype hmissing ?_
      rw [← hname]
      rfl

end Accounted

/-- A statement that is read keeps the accounts. -/
theorem accounted_step (h : r.Accounted begun) (line : Nat) (s : Statement) :
    (r.step line s).Accounted (begun ++ (s.creation? line).toList) := by
  cases s with
  | create type name => exact h.create line type name
  | «attribute» name v =>
    show (r.setAttribute line name v).Accounted (begun ++ [])
    rw [List.append_nil]
    exact h.setAttribute line name v
  | command name v =>
    show (r.runCommand line name).Accounted (begun ++ [])
    rw [List.append_nil]
    exact h.runCommand line name

end Reading

open Reading

variable {r : Reading} {begun : List Creation}

/-! ### Lines -/

/-- The creations of a text are those of its first line and of the rest. -/
private theorem creations_cons (n : Nat) (line : List Char) (rest : List (List Char)) :
    creations n (line :: rest) =
      ((Statement.ofLine? line).toOption.join.bind (·.creation? n)).toList ++
        creations (n + 1) rest := by
  unfold creations
  rw [List.zipIdx_cons, List.filterMap_cons]
  dsimp only
  cases (Statement.ofLine? line).toOption.join.bind (·.creation? n) <;> rfl

/-- The lines of a script keep the accounts. -/
theorem accounted_readLines (h : r.Accounted begun) (n : Nat) (ls : List (List Char)) :
    (readLines .lenient r n ls).2.Accounted (begun ++ creations n ls) := by
  -- from line to line, the statements up to the line are accounted for
  induction ls generalizing r begun n with
  | nil => simpa [readLines, creations] using h
  | cons line rest ih =>
    rw [creations_cons]
    unfold readLines
    cases hline : Statement.ofLine? line with
    | error fault => exact ih (h.note rfl) (n + 1)
    | ok s? =>
      cases s? with
      | none => exact ih h (n + 1)
      | some s =>
        rw [← List.append_assoc]
        exact ih (accounted_step h n s) (n + 1)

/-! ### Notes -/

namespace Reading

variable {n : Note}

/-- A note that was made stays. -/
private theorem mem_notes_close (h : n ∈ r.notes) : n ∈ r.close.notes := by
  unfold close
  cases r.current with
  | nothing => exact h
  | other type => exact h
  | design p => exact Array.mem_push_of_mem _ h
  | camera b =>
    dsimp only
    split
    · exact Array.mem_push_of_mem _ h
    · exact h

/-- No statement takes back a note. -/
private theorem mem_notes_step (h : n ∈ r.notes) (line : Nat) (s : Statement) :
    n ∈ (r.step line s).notes := by
  cases s with
  -- notes are only pushed, one at most by each statement and one by closing
  | create type name =>
    have hclose := mem_notes_close h
    show n ∈ (r.create line type name).notes
    unfold create
    dsimp only
    split
    · exact hclose
    · split
      · exact hclose
      · exact Array.mem_push_of_mem _ hclose
  | «attribute» name v =>
    show n ∈ (r.setAttribute line name v).notes
    rcases setAttribute_cases r line name v with ⟨m, -, heq⟩ | ⟨current, -, heq⟩
    · rw [heq]
      exact Array.mem_push_of_mem _ h
    · rw [heq]
      exact h
  | command name v =>
    show n ∈ (r.runCommand line name).notes
    rcases runCommand_cases r line name with ⟨m, -, heq⟩ | ⟨p, -, ⟨b, -, heq⟩ | ⟨-, heq⟩⟩
    · rw [heq]
      exact Array.mem_push_of_mem _ h
    · rw [heq]
      exact h
    · rw [heq]
      exact Array.mem_push_of_mem _ h

end Reading

/-- No line takes back a note. -/
private theorem mem_notes_readLines {note : Note} (h : note ∈ r.notes) (n : Nat)
    (ls : List (List Char)) : note ∈ (readLines .lenient r n ls).2.notes := by
  induction ls generalizing r n with
  | nil => exact h
  | cons line rest ih =>
    unfold readLines
    cases Statement.ofLine? line with
    | error fault => exact ih (Array.mem_push_of_mem _ h) (n + 1)
    | ok s? =>
      cases s? with
      | none => exact ih h (n + 1)
      | some s => exact ih (mem_notes_step h n s) (n + 1)

/-- A lenient reader notes every line with a fault. -/
theorem exists_badLine {ls : List (List Char)} {line : List Char} (hline : line ∈ ls)
    (hfaulty : isFaulty line = true) (r : Reading) (n : Nat) :
    ∃ e, .badLine e ∈ (readLines .lenient r n ls).2.notes := by
  induction ls generalizing r n with
  | nil => cases hline
  | cons line' rest ih =>
    unfold readLines
    cases hline' : Statement.ofLine? line' with
    | error fault => exact ⟨_, mem_notes_readLines Array.mem_push_self (n + 1) rest⟩
    | ok s? =>
      -- this line has no fault, so the one that has is among the rest
      have hrest : line ∈ rest := by
        rcases List.mem_cons.1 hline with rfl | hrest
        · rw [isFaulty_eq_false.2 ⟨s?, hline'⟩] at hfaulty
          cases hfaulty
        · exact hrest
      cases s? with
      | none => exact ih hrest r (n + 1)
      | some s => exact ih hrest (r.step n s) (n + 1)

/-! ### Texts -/

/-- The type that creates a block. -/
def blockType : Block Single → String
  | .design _ => "dblock"
  | .camera _ => "camera"

/-- Where no entry is a note, the blocks are what was created. -/
private theorem map_blocks_of_forall₂ {cs : List Creation} {entries : List Entry}
    (h : List.Forall₂ AccountsFor cs entries) (hnone : entries.filterMap Entry.note? = []) :
    (entries.filterMap Entry.block?).map (fun b => (blockType b, b.name)) =
      cs.map fun c => (c.type, c.name) := by
  induction h with
  | nil => rfl
  | @cons c entry cs entries hentry _ ih =>
    cases entry with
    | note n => simp [Entry.note?] at hnone
    | block b =>
      have hblock : (Entry.block b).block? = some b := rfl
      rw [List.filterMap_cons_none rfl] at hnone
      rw [List.filterMap_cons_some hblock, List.map_cons, List.map_cons, ih hnone]
      cases hentry with
      | camera htype hname => rw [blockType, Block.name, htype, hname]
      | design htype hname => rw [blockType, Block.name, htype, hname]

/-- Every account is an error or a warning. -/
private theorem level_of_isAccount {n : Note} (hn : n.isAccount = true) :
    n.level = .error ∨ n.level = .warn := by
  cases n <;> simp [Note.isAccount, Note.level] at hn ⊢

/-- What a lenient reader gives: the blocks and the notes that it has when it has left the last object,
and one more note. -/
private theorem read_lenient (text : String) :
    ∃ r : Reading, r = (readLines .lenient .start 1 (Text.lines text.toList)).2 ∧
      read .lenient text = ⟨.ok ⟨r.close.blocks.toList⟩,
        (r.close.note (.finished r.close.blocks.size)).notes.toList⟩ := by
  refine ⟨_, rfl, ?_⟩
  obtain ⟨hfault, -⟩ := readLines_lenient_groups .start 1 (Text.lines text.toList)
  have hread : readLines .lenient .start 1 (Text.lines text.toList) = (none, _) :=
    Prod.ext hfault rfl
  unfold read
  rw [hread]

/-- Every statement that creates an object is accounted for, once and in order: it comes to a block of
the document or to a note.  If a lenient reader makes no note of an error or a warning, a strict one
reads the text and makes the same document of it, and its blocks are what the statements create. -/
theorem read_lenient_accounts (text : String) : ∃ d entries,
    (read .lenient text).result = .ok d ∧
    List.Forall₂ AccountsFor (creations 1 (Text.lines text.toList)) entries ∧
    d.blocks = entries.filterMap Entry.block? ∧
    (read .lenient text).notes.filter Note.isAccount = entries.filterMap Entry.note? ∧
    ((∀ n ∈ (read .lenient text).notes, n.level ≠ .error ∧ n.level ≠ .warn) →
      (read .strict text).result = .ok d ∧
      d.blocks.map (fun b => (blockType b, b.name)) =
        (creations 1 (Text.lines text.toList)).map fun c => (c.type, c.name)) := by
  obtain ⟨r, hr, hread⟩ := read_lenient text
  have haccounted := accounted_readLines accounted_start 1 (Text.lines text.toList)
  rw [← hr, List.nil_append] at haccounted
  -- the last object comes to its entry at the end of the text
  have hend : (r.close.note (.finished r.close.blocks.size)).Settles _ := haccounted.close.note rfl
  obtain ⟨entries, hentries, hblocks, hnotes⟩ := hend
  have hresult : (read .lenient text).result = .ok ⟨r.close.blocks.toList⟩ := by
    rw [hread]
  refine ⟨⟨r.close.blocks.toList⟩, entries, hresult, hentries, hblocks, ?_, ?_⟩
  · rw [hread]
    exact hnotes
  intro hquiet
  rw [hread] at hquiet
  constructor
  · refine read_strict_eq_ok.2 ⟨?_, hresult⟩
    intro line hline
    by_contra hfaulty
    rw [Bool.not_eq_false] at hfaulty
    -- a line with a fault would have been noted
    obtain ⟨e, he⟩ := exists_badLine hline hfaulty .start 1
    rw [← hr] at he
    have hlast := Array.mem_push_of_mem (.finished r.close.blocks.size) (mem_notes_close he)
    exact (hquiet _ (Array.mem_toList_iff.2 hlast)).1 rfl
  · -- no note stands for an object, as those are warnings or errors
    have hnone : entries.filterMap Entry.note? = [] := by
      rw [← hnotes, List.filter_eq_nil_iff]
      intro n hn haccount
      obtain ⟨herror, hwarn⟩ := hquiet n hn
      rcases level_of_isAccount haccount with hlevel | hlevel
      · exact herror hlevel
      · exact hwarn hlevel
    rw [← map_blocks_of_forall₂ hentries hnone, ← hblocks]
    rfl

end Scenery.Script
