import Scenery.Proofs.Except
import Scenery.Proofs.Text.Words
import Scenery.Script.Reader

/-!
# What scripts can say

A reader takes names and materials from the words of a script.  Whatever the text is, the blocks it
gives are named by words, and their materials hold no blank and are not too long.

* `Reading.isWorded_step`   a statement keeps the texts of a reading in this form
* `isWorded_of_read`        the blocks of every document that is read have it
-/

namespace Scenery

open Text (isBlank BlankFree IsWord)

namespace Script

/-- A text that a statement can carry as its value. -/
def IsMaterial (m : String) : Prop :=
  BlankFree m.toList ∧ m.utf8ByteSize ≤ maxTextBytes

instance (m : String) : Decidable (IsMaterial m) :=
  inferInstanceAs (Decidable (_ ∧ _))

end Script

/-- The name of a block is a word, and its material can be carried by a statement. -/
def Block.IsWorded {α : Type} : Block α → Prop
  | design b => IsWord b.name.toList ∧ Script.IsMaterial b.material
  | camera b => IsWord b.name.toList

instance {α : Type} : (b : Block α) → Decidable b.IsWorded
  | .design b => inferInstanceAs (Decidable (IsWord b.name.toList ∧ _))
  | .camera b => inferInstanceAs (Decidable (IsWord b.name.toList))

namespace Script

/-! ### Statements -/

/-- A piece of a word holds no blank. -/
private theorem blankFree_content {w : List Char} (hw : BlankFree w) :
    ∀ content, Token.ofWord w = .text content → BlankFree content := by
  intro content h c hc
  unfold Token.ofWord at h
  split at h
  · rename_i rest
    cases h
    apply hw c
    split at hc
    · exact List.mem_cons_of_mem _ (rest.dropLast_sublist.subset hc)
    · exact List.mem_cons_of_mem _ hc
  · split at h <;> cases h
  · cases h

/-- The text that words give as their value is a material; `text` is what earlier words gave. -/
private theorem isMaterial_of_gather {words : List (List Char)}
    (hwords : ∀ w ∈ words, BlankFree w) {numbers : List Single}
    {text : Option String} (htext : ∀ m ∈ text, IsMaterial m) {v : Value}
    (h : gather numbers text words = .ok v) : ∀ m, v.text? = some m → IsMaterial m := by
  -- along the words, each text replaces the one before it
  induction words generalizing numbers text with
  | nil =>
    intro m hm
    unfold gather at h
    split at h
    · cases h
      cases hm
    · cases h
      cases hm
      exact htext _ rfl
    · cases h
  | cons w ws ih =>
    have hws : ∀ u ∈ ws, BlankFree u := fun u hu => hwords u (List.mem_cons_of_mem _ hu)
    unfold gather at h
    split at h
    · -- a text without blanks that is not too long is a material
      rename_i content hcontent
      dsimp only at h
      split at h
      · cases h
      · rename_i hlen
        refine ih hws ?_ h
        rintro m ⟨⟩
        refine ⟨?_, Nat.le_of_not_lt hlen⟩
        rw [String.toList_ofList]
        exact blankFree_content (hwords w (by simp)) content hcontent
    · split at h
      · cases h
      · split at h
        · cases h
        · exact ih hws htext h
    · cases h

/-- The texts of a statement are taken from words. -/
def Statement.IsWorded : Statement → Prop
  | .create _ name => BlankFree name.toList
  | .attribute _ v => ∀ m, v.text? = some m → IsMaterial m
  | .command _ _ => True

/-- The statement of a line has its texts from the words of the line. -/
private theorem isWorded_of_ofLine? {line : List Char} {s : Statement}
    (h : Statement.ofLine? line = .ok (some s)) : s.IsWorded := by
  have hwords : ∀ w ∈ Text.words line, BlankFree w := Text.words_blankFree line
  unfold Statement.ofLine? at h
  unfold Statement.ofWords? at h
  split at h
  · rename_i type rest hline
    cases h
    -- the name is the word behind the type, or empty if there is none
    cases rest with
    | nil => simp [Statement.IsWorded]
    | cons name rest =>
      simp only [Statement.IsWorded, List.headD_cons, String.toList_ofList]
      exact hwords name (by simp [hline])
  · rename_i name rest hline
    obtain ⟨v, hv, hs⟩ := bind_eq_ok.1 h
    cases hs
    refine isMaterial_of_gather (fun w hw => hwords w ?_) (by simp) hv
    rw [hline]
    exact List.mem_cons_of_mem _ hw
  · obtain ⟨v, hv, hs⟩ := bind_eq_ok.1 h
    cases hs
    trivial
  · cases h

/-! ### Readings -/

/-- The texts of an object that is still read; a name may be missing. -/
def Current.IsWorded : Current → Prop
  | .design p => BlankFree p.name.toList ∧ ∀ m, p.material = some m → IsMaterial m
  | .camera b => BlankFree b.name.toList
  | _ => True

namespace Reading

/-- All texts that a reading has taken from a script. -/
structure IsWorded (r : Reading) : Prop where
  blocks : ∀ b ∈ r.blocks, b.IsWorded
  current : r.current.IsWorded

/-- Nothing was read yet, so all of it can be written. -/
theorem isWorded_start : start.IsWorded :=
  ⟨by simp [start], trivial⟩

variable {r : Reading}

private theorem IsWorded.note (h : r.IsWorded) (n : Note) : (r.note n).IsWorded :=
  ⟨h.blocks, h.current⟩

private theorem IsWorded.leave (h : r.IsWorded) : IsWorded { r with current := .nothing } :=
  ⟨h.blocks, trivial⟩

/-- A finished block that can be written leaves all of them so. -/
private theorem IsWorded.push (h : r.IsWorded) {b : Block Single} (hb : b.IsWorded) :
    (r.push b).IsWorded := by
  refine ⟨?_, h.current⟩
  intro a ha
  rcases Array.mem_push.1 ha with ha | rfl
  · exact h.blocks a ha
  · exact hb

/-- A name of a script is a word. -/
private theorem isWord_name {name : String} (hempty : name.isEmpty = false)
    (h : BlankFree name.toList) : IsWord name.toList := by
  refine ⟨?_, h⟩
  intro hnil
  rw [String.toList_eq_nil_iff] at hnil
  simp [hnil] at hempty

/-- Leaving an object keeps the texts; a camera is kept only with a name. -/
private theorem IsWorded.close (h : r.IsWorded) : r.close.IsWorded := by
  have hcurrent := h.current
  unfold Reading.close
  cases hc : r.current with
  | nothing => exact h.leave
  | other type => exact h.leave
  | design p => exact h.leave.note _
  | camera b =>
    rw [hc] at hcurrent
    dsimp only
    split
    · exact h.leave.note _
    · rename_i hname
      exact h.leave.push (b := .camera b) (isWord_name (Bool.eq_false_iff.2 hname) hcurrent)

/-- Creating a block under a name without blanks keeps all blocks such that they can be written. -/
private theorem IsWorded.create (h : r.IsWorded) (line : Nat) (type : String) {name : String}
    (hname : BlankFree name.toList) : (r.create line type name).IsWorded := by
  have hclose := h.close
  unfold Reading.create
  dsimp only
  split
  · exact ⟨hclose.blocks, hname, by simp [Pending.named]⟩
  split
  · exact ⟨hclose.blocks, hname⟩
  · exact ⟨hclose.blocks, trivial⟩

/-- An attribute changes no name, and the material only to the text of its value. -/
private theorem isWorded_designAttribute {line : Nat} {name : String} {v : Value} {p q : Pending}
    (hv : ∀ m, v.text? = some m → IsMaterial m) (hp : (Current.design p).IsWorded)
    (h : designAttribute line name v p = .ok q) : (Current.design q).IsWorded := by
  unfold designAttribute at h
  split at h
  · split at h <;> cases h
    exact hp
  split at h
  · split at h <;> cases h
    exact hp
  split at h
  · split at h <;> cases h
    exact hp
  split at h
  · -- only the material is a text
    split at h
    · rename_i m hm
      cases h
      refine ⟨hp.1, ?_⟩
      rintro m' ⟨⟩
      exact hv m hm
    · cases h
  · cases h

/-- An attribute changes no name. -/
private theorem isWorded_cameraAttribute {line : Nat} {name : String} {v : Value}
    {b c : CameraBlock Single} (hb : (Current.camera b).IsWorded)
    (h : cameraAttribute line name v b = .ok c) : (Current.camera c).IsWorded := by
  unfold cameraAttribute at h
  split at h
  · split at h <;> cases h
    exact hb
  split at h
  · split at h <;> cases h
    exact hb
  · cases h

/-- So does an attribute whose text is a material. -/
private theorem IsWorded.setAttribute (h : r.IsWorded) (line : Nat) (name : String) {v : Value}
    (hv : ∀ m, v.text? = some m → IsMaterial m) : (r.setAttribute line name v).IsWorded := by
  have hcurrent := h.current
  unfold Reading.setAttribute
  cases hc : r.current with
  | nothing => exact h.note _
  | other type => exact h.note _
  | design p =>
    rw [hc] at hcurrent
    dsimp only
    split
    · rename_i q hq
      exact ⟨h.blocks, isWorded_designAttribute hv hcurrent hq⟩
    · exact h.note _
  | camera b =>
    rw [hc] at hcurrent
    dsimp only
    split
    · rename_i c hq
      exact ⟨h.blocks, isWorded_cameraAttribute hcurrent hq⟩
    · exact h.note _

/-- A design block is complete only with a name and a material. -/
private theorem isWorded_of_finish? {p : Pending} {b : DesignBlock Single}
    (hp : (Current.design p).IsWorded) (h : p.finish? = some b) : (Block.design b).IsWorded := by
  unfold Pending.finish? at h
  split at h
  · rename_i shape material hname _ hmaterial
    cases h
    exact ⟨isWord_name hname hp.1, hp.2 _ hmaterial⟩
  · cases h

private theorem IsWorded.runCommand (h : r.IsWorded) (line : Nat) (name : String) :
    (r.runCommand line name).IsWorded := by
  have hcurrent := h.current
  unfold Reading.runCommand
  split
  · cases hc : r.current with
    | nothing => exact h.note _
    | other type => exact h.note _
    | camera b => exact h.note _
    | design p =>
      rw [hc] at hcurrent
      dsimp only
      split
      · rename_i b hb
        exact h.leave.push (isWorded_of_finish? hcurrent hb)
      · exact h.leave.note _
  · exact h.note _

/-- A statement with texts from words keeps the texts of a reading in their form. -/
theorem isWorded_step (h : r.IsWorded) {s : Statement} (hs : s.IsWorded) (line : Nat) :
    (r.step line s).IsWorded := by
  cases s with
  | create type name => exact h.create line type hs
  | «attribute» name v => exact h.setAttribute line name hs
  | command name v => exact h.runCommand line name

end Reading

/-- The lines of a script keep the texts of a reading in their form. -/
theorem isWorded_readLines {mode : Mode} {r : Reading} {n : Nat} {ls : List (List Char)}
    (h : r.IsWorded) : (readLines mode r n ls).2.IsWorded := by
  -- from line to line the form of all texts is the invariant
  induction ls generalizing r n with
  | nil => exact h
  | cons line rest ih =>
    unfold readLines
    cases hline : Statement.ofLine? line with
    | ok s? =>
      cases s? with
      | none => exact ih h
      | some s => exact ih (Reading.isWorded_step h (isWorded_of_ofLine? hline) n)
    | error fault =>
      cases mode with
      | strict => exact h
      | lenient => exact ih (h.note _)

/-- The blocks of every document that is read are named by words and have materials. -/
theorem isWorded_of_read {mode : Mode} {text : String} {d : Document Single}
    (h : (read mode text).result = .ok d) : ∀ b ∈ d.blocks, b.IsWorded := by
  have hlines : (readLines mode .start 1 (Text.lines text.toList)).2.IsWorded :=
    isWorded_readLines Reading.isWorded_start
  unfold read at h
  split at h
  · cases h
  · rename_i r hr
    rw [hr] at hlines
    cases h
    intro b hb
    exact hlines.close.blocks b (Array.mem_toList_iff.1 hb)

end Script

end Scenery
