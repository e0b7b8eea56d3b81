import Mathlib.Data.List.Forall2
import Scenery.Proofs.Script.Rendered

/-!
# Reading what was written

A written document is read block by block.  A block whose texts a script can hold comes back with the
numbers that are legible: a position or rotation that is not is lost, and without its shape a design
block is lost.  So a document comes back exactly if all its texts and numbers can be written, and a
reader that is strict finds no fault then.

* `read_render`                what a reader makes of a written document
* `read_render_of_isLegible`   a legible document is read as it is
* `exists_read_render_iff`     only a legible document comes back with its values
-/

namespace Scenery

open Text (BlankFree IsWord)
open Script

/-! ### Legible documents -/

/-- The numbers of a block, in the order in which they are written. -/
def Block.numbers {α : Type} : Block α → List α
  | design b => b.shape.values ++ b.position.toList ++ b.rotation.toList
  | camera b => b.position.toList ++ b.rotation.toList

/-- Everything in a block can be written and read again. -/
def Block.IsLegible (b : Block Single) : Prop :=
  b.IsWorded ∧ ∀ x ∈ b.numbers, x.IsLegible

instance (b : Block Single) : Decidable b.IsLegible :=
  inferInstanceAs (Decidable (_ ∧ _))

/-- Every name is a word, every material is free of blanks and at most 255 bytes long, and no number is
`NaN` or infinity. -/
def Document.IsLegible (d : Document Single) : Prop :=
  ∀ b ∈ d.blocks, b.IsLegible

instance (d : Document Single) : Decidable d.IsLegible :=
  inferInstanceAs (Decidable (∀ b ∈ d.blocks, b.IsLegible))

/-! ### What comes back -/

/-- A shape comes back if its sizes are legible. -/
def Shape.readBack? (s : Shape Single) : Option (Shape Single) :=
  if ∀ x ∈ s.values, x.IsLegible then some s else none

/-- A vector comes back if its components are legible, and as zero otherwise. -/
def Vec3.readBack (v : Vec3 Single) : Vec3 Single :=
  if ∀ x ∈ v.toList, x.IsLegible then v else 0

/-- What a lenient reader makes of a written block. -/
def Block.readBack? : Block Single → Option (Block Single)
  | design b => b.shape.readBack?.map fun shape =>
      design ⟨b.name, shape, b.position.readBack, b.rotation.readBack, b.material⟩
  | camera b => some (camera ⟨b.name, b.position.readBack, b.rotation.readBack⟩)

namespace Script

variable {f : NumberFormat} {mode : Mode}

/-! ### Reading lines -/

/-- A line with a statement is taken, and the rest is read. -/
private theorem readLines_statement {r : Reading} {n : Nat} {line : List Char} {s : Statement}
    (h : Statement.ofLine? line = .ok (some s)) (rest : List (List Char)) :
    readLines mode r n (line :: rest) = readLines mode (r.step n s) (n + 1) rest := by
  rw [readLines, h]

/-- A blank line is passed over. -/
private theorem readLines_blank (r : Reading) (n : Nat) (rest : List (List Char)) :
    readLines mode r n ([] :: rest) = readLines mode r (n + 1) rest := by
  rw [readLines]
  rfl

/-- An attribute with numbers changes the current object if all of them are legible.  The objects `c`
and `c'` are those before and after the line. -/
private theorem readLines_numbers {name : String} (hname : BlankFree name.toList)
    {xs : List Single} (hlen : xs.length ≤ maxNumbers)
    (hmode : mode = .strict → ∀ x ∈ xs, x.IsLegible) {bs : Array (Block Single)} {c c' : Current}
    (hgood : (∀ x ∈ xs, x.IsLegible) → ∀ notes n,
      Reading.setAttribute ⟨bs, c, notes⟩ n name (.numbers xs) = ⟨bs, c', notes⟩)
    (hbad : ¬(∀ x ∈ xs, x.IsLegible) → c' = c) (notes : Array Note) (n : Nat) :
    ∃ notes', ∀ rest, readLines mode ⟨bs, c, notes⟩ n
        ([' '].intercalate (Block.numberWords f name xs) :: rest) =
      readLines mode ⟨bs, c', notes'⟩ (n + 1) rest := by
  have hline := Statement.ofLine?_intercalate (Block.isWord_numberWords f name hname xs)
  by_cases hxs : ∀ x ∈ xs, x.IsLegible
  · refine ⟨notes, fun rest => ?_⟩
    have hs : Statement.ofWords? (Block.numberWords f name xs) =
        .ok (some (.attribute name (.numbers xs))) := by
      simp only [Block.numberWords, Statement.ofWords?, Value.ofWords_text hxs hlen,
        String.ofList_toList]
      rfl
    rw [readLines_statement (hline.trans hs), Reading.step, hgood hxs]
  · rw [hbad hxs]
    obtain ⟨fault, hfault⟩ := Value.ofWords_illegible (f := f) (by simpa using hxs)
    have hs : Statement.ofWords? (Block.numberWords f name xs) = .error fault := by
      simp only [Block.numberWords, Statement.ofWords?, hfault]
      rfl
    cases mode with
    | strict => exact absurd (hmode rfl) hxs
    | lenient =>
      refine ⟨notes.push (.badLine ⟨n, fault⟩), fun rest => ?_⟩
      rw [readLines, hline.trans hs]
      rfl

/-- An attribute with a vector, where `c u` is the current object with the vector `u`. -/
private theorem readLines_vector (name : String) (hname : BlankFree name.toList)
    (v : Vec3 Single) (hmode : mode = .strict → ∀ x ∈ v.toList, x.IsLegible)
    (bs : Array (Block Single)) (c : Vec3 Single → Current)
    (hset : ∀ u notes n, Reading.setAttribute ⟨bs, c 0, notes⟩ n name (.numbers (Vec3.toList u)) =
      ⟨bs, c u, notes⟩)
    (notes : Array Note) (n : Nat) :
    ∃ notes', ∀ rest, readLines mode ⟨bs, c 0, notes⟩ n
        ([' '].intercalate (Block.numberWords f name v.toList) :: rest) =
      readLines mode ⟨bs, c v.readBack, notes'⟩ (n + 1) rest := by
  have hlen : v.toList.length ≤ maxNumbers := by
    show 3 ≤ 64
    omega
  apply readLines_numbers hname hlen hmode
  · intro hv notes n
    rw [Vec3.readBack, if_pos hv, hset]
  · intro hv
    rw [Vec3.readBack, if_neg hv]

/-- The sizes of a shape. -/
private theorem readLines_shape (s : Shape Single)
    (hmode : mode = .strict → ∀ x ∈ s.values, x.IsLegible) (bs : Array (Block Single)) (name : String)
    (notes : Array Note) (n : Nat) :
    ∃ notes', ∀ rest, readLines mode ⟨bs, .design (.named name), notes⟩ n
        ([' '].intercalate (Block.numberWords f Keyword.shape s.values) :: rest) =
      readLines mode ⟨bs, .design ⟨name, s.readBack?, 0, 0, none⟩, notes'⟩ (n + 1) rest := by
  have hlen : s.values.length ≤ maxNumbers := by
    have hthree : s.values.length ≤ 3 := by cases s <;> simp [Shape.values]
    exact Nat.le_trans hthree (by decide)
  apply readLines_numbers (by decide) hlen hmode
  · intro hs notes n
    rw [Shape.readBack?, if_pos hs]
    simp [Reading.setAttribute, Reading.designAttribute, Value.numbers?, Pending.named]
  · intro hs
    rw [Shape.readBack?, if_neg hs]
    rfl

/-- The line that begins an object. -/
private theorem ofLine?_create {type name : String} (htype : BlankFree type.toList)
    (hname : IsWord name.toList) :
    Statement.ofLine? ([' '].intercalate ['@' :: type.toList, name.toList]) =
      .ok (some (.create type name)) := by
  have htag : IsWord ('@' :: type.toList) := by
    refine ⟨List.cons_ne_nil _ _, ?_⟩
    simpa [show Text.isBlank '@' = false by decide] using htype
  have hwords : ∀ w ∈ ['@' :: type.toList, name.toList], IsWord w := by
    simpa using ⟨htag, hname⟩
  rw [Statement.ofLine?_intercalate hwords]
  simp [Statement.ofWords?]

/-- The line of a material. -/
private theorem ofLine?_material {m : String} (h : IsMaterial m) :
    Statement.ofLine? ([' '].intercalate
        ['$' :: Keyword.material.toList, '"' :: (m.toList ++ ['"'])]) =
      .ok (some (.attribute Keyword.material (.text m))) := by
  have hwords : ∀ w ∈ ['$' :: Keyword.material.toList, '"' :: (m.toList ++ ['"'])], IsWord w := by
    simp only [List.forall_mem_cons]
    exact ⟨by decide, h.isWord_quoted, by simp⟩
  rw [Statement.ofLine?_intercalate hwords]
  simp only [Statement.ofWords?, Value.ofWords_material h, String.ofList_toList]
  rfl

/-- The line that completes a design block. -/
private theorem ofLine?_commit :
    Statement.ofLine? ([' '].intercalate [':' :: Keyword.commit.toList]) =
      .ok (some (.command Keyword.commit (.numbers []))) := by
  decide

/-! ### Reading blocks -/

/-- Creating a design opens one that has its name only. -/
private theorem create_designBlock (r : Reading) (n : Nat) (name : String) :
    r.create n Keyword.designBlock name =
      ⟨r.close.blocks, .design (.named name), r.close.notes⟩ := by
  simp [Reading.create]

/-- Creating a camera opens one at the origin. -/
private theorem create_camera (r : Reading) (n : Nat) (name : String) :
    r.create n Keyword.camera name = ⟨r.close.blocks, .camera ⟨name, 0, 0⟩, r.close.notes⟩ := by
  simp [Reading.create, Keyword.camera, Keyword.designBlock]

private theorem isEmpty_of_isWord {name : String} (h : IsWord name.toList) :
    name.isEmpty = false := by
  rw [Bool.eq_false_iff, ne_eq, String.isEmpty_iff]
  intro heq
  subst heq
  exact h.1 rfl

/-- The lines of a design block.  With its shape the block is complete when it is committed. -/
private theorem readLines_design {b : DesignBlock Single} (hb : (Block.design b).IsWorded)
    (hmode : mode = .strict → (Block.design b).IsLegible) (r : Reading) (n : Nat)
    (rest : List (List Char)) :
    ∃ r' n', readLines mode r n (((Block.design b).words f).map [' '].intercalate ++ rest) =
        readLines mode r' n' rest ∧
      r'.close.blocks.toList = r.close.blocks.toList ++ (Block.design b).readBack?.toList := by
  have hstrict : mode = .strict → ∀ x ∈ (Block.design b).numbers, x.IsLegible := fun h =>
    (hmode h).2
  simp only [Block.numbers, List.forall_mem_append] at hstrict
  simp only [Block.words, List.map_cons, List.map_nil, List.cons_append, List.nil_append]
  rw [readLines_statement (ofLine?_create (by decide) hb.1), Reading.step, create_designBlock]
  -- the three attributes with numbers
  obtain ⟨notes₁, hshape⟩ := readLines_shape (f := f) b.shape (fun h => (hstrict h).1.1)
    r.close.blocks b.name r.close.notes (n + 1)
  obtain ⟨notes₂, hposition⟩ := readLines_vector (f := f) Keyword.position (by decide)
    b.position (fun h => (hstrict h).1.2) r.close.blocks
    (fun u => .design ⟨b.name, b.shape.readBack?, u, 0, none⟩) (fun _ _ _ => rfl) notes₁ (n + 2)
  obtain ⟨notes₃, hrotation⟩ := readLines_vector (f := f) Keyword.rotation (by decide)
    b.rotation (fun h => (hstrict h).2) r.close.blocks
    (fun u => .design ⟨b.name, b.shape.readBack?, b.position.readBack, u, none⟩) (fun _ _ _ => rfl)
    notes₂ (n + 3)
  rw [hshape, hposition, hrotation, readLines_statement (ofLine?_material hb.2),
    readLines_statement ofLine?_commit, List.intercalate_nil, readLines_blank]
  refine ⟨_, _, rfl, ?_⟩
  have hname := isEmpty_of_isWord hb.1
  -- the commit pushes a block that has its shape and drops one that has not
  cases hs : b.shape.readBack? with
  | none =>
    simp [Reading.step, Reading.setAttribute, Reading.designAttribute, Reading.runCommand,
      Keyword.material, Keyword.shape, Keyword.position, Keyword.rotation, Value.text?,
      Pending.finish?, Reading.close, Reading.note, Block.readBack?, hs]
  | some shape =>
    simp [Reading.step, Reading.setAttribute, Reading.designAttribute, Reading.runCommand,
      Keyword.material, Keyword.shape, Keyword.position, Keyword.rotation, Value.text?,
      Pending.finish?, Reading.close, Reading.push, Block.readBack?, hs, hname]

/-- The lines of a camera, which is still the current object after them. -/
private theorem readLines_camera {b : CameraBlock Single} (hb : (Block.camera b).IsWorded)
    (hmode : mode = .strict → (Block.camera b).IsLegible) (r : Reading) (n : Nat)
    (rest : List (List Char)) :
    ∃ r' n', readLines mode r n (((Block.camera b).words f).map [' '].intercalate ++ rest) =
        readLines mode r' n' rest ∧
      r'.close.blocks.toList = r.close.blocks.toList ++ (Block.camera b).readBack?.toList := by
  have hstrict : mode = .strict → ∀ x ∈ (Block.camera b).numbers, x.IsLegible := fun h =>
    (hmode h).2
  simp only [Block.numbers, List.forall_mem_append] at hstrict
  simp only [Block.words, List.map_cons, List.map_nil, List.cons_append, List.nil_append]
  rw [readLines_statement (ofLine?_create (by decide) hb), Reading.step, create_camera]
  obtain ⟨notes₁, hposition⟩ := readLines_vector (f := f) Keyword.position (by decide)
    b.position (fun h => (hstrict h).1) r.close.blocks
    (fun u => .camera ⟨b.name, u, 0⟩) (fun _ _ _ => rfl) r.close.notes (n + 1)
  obtain ⟨notes₂, hrotation⟩ := readLines_vector (f := f) Keyword.rotation (by decide)
    b.rotation (fun h => (hstrict h).2) r.close.blocks
    (fun u => .camera ⟨b.name, b.position.readBack, u⟩) (fun _ _ _ => rfl) notes₁ (n + 2)
  rw [hposition, hrotation, List.intercalate_nil, readLines_blank]
  -- the blank line leaves the camera open; the next object or the end closes it
  refine ⟨_, _, rfl, ?_⟩
  have hname := isEmpty_of_isWord hb
  simp [Reading.close, hname, Reading.push, Block.readBack?]

/-- A block after the other: each adds what comes back of it. -/
private theorem readLines_blocks {bs : List (Block Single)} (hbs : ∀ b ∈ bs, b.IsWorded)
    (hmode : mode = .strict → ∀ b ∈ bs, b.IsLegible) (r : Reading) (n : Nat) :
    ∃ r', readLines mode r n ((bs.flatMap (Block.words f)).map [' '].intercalate) = (none, r') ∧
      r'.close.blocks.toList = r.close.blocks.toList ++ bs.filterMap Block.readBack? := by
  induction bs generalizing r n with
  | nil => exact ⟨r, rfl, by simp⟩
  | cons b bs ih =>
    have hb : b.IsWorded := hbs b (by simp)
    have hbmode : mode = .strict → b.IsLegible := fun h => hmode h b (by simp)
    -- a block is read as one, whichever it is, and the rest goes on from there
    have hblock : ∃ r' n', readLines mode r n ((b.words f).map [' '].intercalate ++
          (bs.flatMap (Block.words f)).map [' '].intercalate) =
        readLines mode r' n' ((bs.flatMap (Block.words f)).map [' '].intercalate) ∧
      r'.close.blocks.toList = r.close.blocks.toList ++ b.readBack?.toList := by
      cases b with
      | design b => exact readLines_design hb hbmode r n _
      | camera b => exact readLines_camera hb hbmode r n _
    obtain ⟨r', n', hread, hclose⟩ := hblock
    obtain ⟨r'', hrest, hblocks⟩ := ih (fun a ha => hbs a (List.mem_cons_of_mem _ ha))
      (fun h a ha => hmode h a (List.mem_cons_of_mem _ ha)) r' n'
    refine ⟨r'', ?_, ?_⟩
    · rw [List.flatMap_cons, List.map_append, hread, hrest]
    · rw [hblocks, hclose, List.append_assoc]
      cases h : b.readBack? with
      | none => simp [h]
      | some a => simp [h]

end Script

/-- The lines of a written document, as long as its texts do not break them. -/
theorem Document.lines_render (f : NumberFormat) {d : Document Single}
    (hd : ∀ b ∈ d.blocks, b.IsWorded) :
    Text.lines (d.render f).toList = (d.blocks.flatMap (Block.words f)).map [' '].intercalate := by
  have hlines : (d.blocks.flatMap (Block.lines f)).map String.toList =
      (d.blocks.flatMap (Block.words f)).map [' '].intercalate := by
    rw [List.map_flatMap, List.map_flatMap]
    exact List.flatMap_congr fun b _ => b.map_lines f
  have htext : (d.render f).toList =
      ((d.blocks.flatMap (Block.words f)).map [' '].intercalate).flatMap (· ++ ['\n']) := by
    rw [← hlines, render, String.toList_join, List.flatMap_map, List.flatMap_map]
    simp [String.toList_append]
  rw [htext, Text.lines_flatMap]
  intro l hl
  obtain ⟨ws, hws, rfl⟩ := List.mem_map.1 hl
  obtain ⟨b, hb, hws⟩ := List.mem_flatMap.1 hws
  exact Text.isLine_intercalate (b.isWord_words f (hd b hb) ws hws)

/-- What a reader makes of a written document whose texts a script can hold; a strict one reads it if
the numbers are legible too. -/
theorem Script.read_render (f : NumberFormat) {mode : Mode} {d : Document Single}
    (hd : ∀ b ∈ d.blocks, b.IsWorded) (hmode : mode = .strict → d.IsLegible) :
    (read mode (d.render f)).result = .ok ⟨d.blocks.filterMap Block.readBack?⟩ := by
  obtain ⟨r, hread, hblocks⟩ := readLines_blocks (f := f) hd hmode .start 1
  have hstart : Reading.start.close.blocks.toList = [] := rfl
  rw [← Document.lines_render f hd] at hread
  rw [hstart, List.nil_append] at hblocks
  rw [read, hread]
  simp only [hblocks]

/-! ### Equality of values -/

namespace Single

/-- A number equals itself unless it is none. -/
theorem eq_self {x : Single} (h : x.isNaN = false) : x.eq x = true := by
  simp [eq, h]

/-- What equals zero is a zero of either sign. -/
theorem isLegible_of_zero_eq {x : Single} (h : Scalar.eq 0 x = true) : x.IsLegible := by
  have hzero : (ofPlace false 0).eq x = true := h
  simp only [eq, Bool.and_eq_true, Bool.or_eq_true, Bool.not_eq_true', beq_iff_eq] at hzero
  obtain ⟨⟨-, hn⟩, heq⟩ := hzero
  refine ⟨hn, ?_⟩
  intro heq
  subst heq
  rcases heq with heq | heq
  · exact absurd heq (by decide)
  · exact absurd heq.2 (by decide)

end Single

/-- A vector that comes back with its values is legible. -/
private theorem Vec3.isLegible_of_eq {v : Vec3 Single} (h : v.readBack.eq v = true) :
    ∀ x ∈ v.toList, x.IsLegible := by
  by_contra hv
  rw [readBack, if_neg hv] at h
  have heq : ∀ x ∈ v.toList, Scalar.eq (0 : Single) x = true := by
    simp only [eq, Bool.and_eq_true] at h
    simp only [toList, List.forall_mem_cons]
    exact ⟨h.1.1, h.1.2, h.2, by simp⟩
  exact hv fun x hx => Single.isLegible_of_zero_eq (heq x hx)

/-- A vector with legible numbers is read back as it is. -/
private theorem Vec3.readBack_of_isLegible {v : Vec3 Single} (h : ∀ x ∈ v.toList, x.IsLegible) :
    v.readBack = v :=
  if_pos h

/-- A vector with legible numbers equals itself. -/
private theorem Vec3.eq_self {v : Vec3 Single} (h : ∀ x ∈ v.toList, x.IsLegible) :
    v.eq v = true := by
  simp only [toList, List.forall_mem_cons] at h
  simp only [eq, Bool.and_eq_true]
  exact ⟨⟨Single.eq_self h.1.1, Single.eq_self h.2.1.1⟩, Single.eq_self h.2.2.1.1⟩

/-- A shape with legible numbers equals itself. -/
private theorem Shape.eq_self {s : Shape Single} (h : ∀ x ∈ s.values, x.IsLegible) :
    s.eq s = true := by
  cases s with
  | sphere r => exact Single.eq_self (h r (by simp [values])).1
  | capsule r l =>
    simp only [eq, Bool.and_eq_true]
    exact ⟨Single.eq_self (h r (by simp [values])).1, Single.eq_self (h l (by simp [values])).1⟩
  | box x y z =>
    simp only [eq, Bool.and_eq_true]
    exact ⟨⟨Single.eq_self (h x (by simp [values])).1, Single.eq_self (h y (by simp [values])).1⟩,
      Single.eq_self (h z (by simp [values])).1⟩

namespace Block

/-- A legible block equals itself. -/
theorem eq_self {b : Block Single} (h : b.IsLegible) : b.eq b = true := by
  have hnumbers := h.2
  cases b with
  | design b =>
    simp only [numbers, List.forall_mem_append] at hnumbers
    simp [eq, Shape.eq_self hnumbers.1.1, Vec3.eq_self hnumbers.1.2, Vec3.eq_self hnumbers.2]
  | camera b =>
    simp only [numbers, List.forall_mem_append] at hnumbers
    simp [eq, Vec3.eq_self hnumbers.1, Vec3.eq_self hnumbers.2]

/-- A legible block comes back as it is. -/
theorem readBack?_of_isLegible {b : Block Single} (h : b.IsLegible) : b.readBack? = some b := by
  have hnumbers := h.2
  cases b with
  | design b =>
    simp only [numbers, List.forall_mem_append] at hnumbers
    rw [readBack?, Shape.readBack?, if_pos hnumbers.1.1, Vec3.readBack_of_isLegible hnumbers.1.2,
      Vec3.readBack_of_isLegible hnumbers.2]
    rfl
  | camera b =>
    simp only [numbers, List.forall_mem_append] at hnumbers
    rw [readBack?, Vec3.readBack_of_isLegible hnumbers.1, Vec3.readBack_of_isLegible hnumbers.2]

/-- Equal blocks have the same texts. -/
private theorem isWorded_of_eq {a b : Block Single} (h : a.eq b = true) (ha : a.IsWorded) :
    b.IsWorded := by
  cases a with
  | design a =>
    cases b with
    | design b =>
      simp only [eq, Bool.and_eq_true, beq_iff_eq] at h
      obtain ⟨⟨⟨⟨hname, -⟩, -⟩, -⟩, hmaterial⟩ := h
      rwa [IsWorded, ← hname, ← hmaterial]
    | camera b => cases h
  | camera a =>
    cases b with
    | design b => cases h
    | camera b =>
      simp only [eq, Bool.and_eq_true, beq_iff_eq] at h
      rwa [IsWorded, ← h.1.1]

/-- A block that comes back with its values is legible. -/
theorem isLegible_of_eq {a b : Block Single} (hb : b.IsWorded) (hread : b.readBack? = some a)
    (h : a.eq b = true) : b.IsLegible := by
  refine ⟨hb, ?_⟩
  cases b with
  | design b =>
    obtain ⟨shape, hshape, rfl⟩ := Option.map_eq_some_iff.1 hread
    simp only [eq, Bool.and_eq_true] at h
    obtain ⟨⟨⟨-, hposition⟩, hrotation⟩, -⟩ := h
    have hvalues : ∀ x ∈ b.shape.values, x.IsLegible := by
      by_contra hs
      rw [Shape.readBack?, if_neg hs] at hshape
      cases hshape
    simp only [numbers, List.forall_mem_append]
    exact ⟨⟨hvalues, Vec3.isLegible_of_eq hposition⟩, Vec3.isLegible_of_eq hrotation⟩
  | camera b =>
    cases hread
    simp only [eq, Bool.and_eq_true] at h
    simp only [numbers, List.forall_mem_append]
    exact ⟨Vec3.isLegible_of_eq h.1.2, Vec3.isLegible_of_eq h.2⟩

/-- Blocks that are equal to ones that can be written can be written. -/
private theorem forall_isWorded {as bs : List (Block Single)}
    (h : List.Forall₂ (fun a b => eq a b = true) as bs) (has : ∀ a ∈ as, a.IsWorded) :
    ∀ b ∈ bs, b.IsWorded := by
  induction h with
  | nil => exact has
  | cons heq _ ih =>
    rw [List.forall_mem_cons] at has ⊢
    exact ⟨isWorded_of_eq heq has.1, ih has.2⟩

/-- Blocks that come back one by one with their values are legible: none of them was lost, since there
are as many as there were. -/
private theorem forall_isLegible {bs : List (Block Single)} (hbs : ∀ b ∈ bs, b.IsWorded)
    (h : List.Forall₂ (fun a b => eq a b = true) (bs.filterMap readBack?) bs) :
    ∀ b ∈ bs, b.IsLegible := by
  induction bs with
  | nil => simp
  | cons b bs ih =>
    have hb : b.IsWorded := hbs b (by simp)
    cases hread : b.readBack? with
    | none =>
      rw [List.filterMap_cons_none hread] at h
      have hlen := h.length_eq
      have hle := List.length_filterMap_le readBack? bs
      rw [List.length_cons] at hlen
      omega
    | some a =>
      rw [List.filterMap_cons_some hread] at h
      obtain ⟨heq, hrest⟩ := List.forall₂_cons.1 h
      rw [List.forall_mem_cons]
      exact ⟨isLegible_of_eq hb hread heq, ih (fun c hc => hbs c (List.mem_cons_of_mem _ hc)) hrest⟩

end Block

namespace Document

/-- Equality of documents goes block by block. -/
theorem eq_iff_forall₂ {a b : Document Single} :
    a.eq b = true ↔ List.Forall₂ (fun x y => Block.eq x y = true) a.blocks b.blocks := by
  rw [eq, Bool.and_eq_true, beq_iff_eq, List.all_eq_true, List.forall₂_iff_zip]
  simp only [Prod.forall]

/-- A legible document equals itself. -/
theorem eq_self {d : Document Single} (h : d.IsLegible) : d.eq d = true := by
  rw [eq_iff_forall₂, List.forall₂_same]
  exact fun b hb => Block.eq_self (h b hb)

end Document

namespace Script

/-- A legible document is read as it is, by lenient and by strict readers. -/
theorem read_render_of_isLegible (f : NumberFormat) (mode : Mode) {d : Document Single}
    (h : d.IsLegible) : (read mode (d.render f)).result = .ok d := by
  have hblocks : d.blocks.filterMap Block.readBack? = d.blocks := by
    rw [List.filterMap_congr fun b hb => Block.readBack?_of_isLegible (h b hb), List.filterMap_some]
  rw [read_render f (fun b hb => (h b hb).1) (fun _ => h), hblocks]

/-- Without a fault both readers do the same. -/
private theorem readLines_lenient {r : Reading} {n : Nat} {ls : List (List Char)}
    (h : (readLines .strict r n ls).1 = none) :
    readLines .lenient r n ls = readLines .strict r n ls := by
  induction ls generalizing r n with
  | nil => rfl
  | cons line rest ih =>
    unfold readLines at h ⊢
    cases hline : Statement.ofLine? line with
    | error fault =>
      rw [hline] at h
      cases h
    | ok s? =>
      rw [hline] at h
      cases s? with
      | none => exact ih h
      | some s => exact ih h

/-- What a strict reader reads, a lenient one reads as well. -/
theorem read_lenient_of_read {mode : Mode} {text : String} {d : Document Single}
    (h : (read mode text).result = .ok d) : (read .lenient text).result = .ok d := by
  cases mode with
  | lenient => exact h
  | strict =>
    unfold read at h ⊢
    split at h
    · cases h
    · rename_i r hr
      rw [readLines_lenient (by rw [hr]), hr]
      exact h

/-- A document comes back from its text, in value, exactly if it is legible. -/
theorem exists_read_render_iff (f : NumberFormat) (mode : Mode) (d : Document Single) :
    (∃ d', (read mode (d.render f)).result = .ok d' ∧ d'.eq d = true) ↔ d.IsLegible := by
  constructor
  · intro h
    obtain ⟨d', hread, heq⟩ := h
    have hforall := Document.eq_iff_forall₂.1 heq
    -- the texts that come back are those of the document, so the lines are not broken
    have hworded : ∀ b ∈ d.blocks, b.IsWorded :=
      Block.forall_isWorded hforall (isWorded_of_read hread)
    have hlenient := read_lenient_of_read hread
    rw [read_render f hworded (by simp)] at hlenient
    cases hlenient
    exact Block.forall_isLegible hworded hforall
  · intro h
    exact ⟨d, read_render_of_isLegible f mode h, Document.eq_self h⟩

/-- A document comes back with its values exactly if it is legible; and then it comes back
unchanged. -/
theorem read_render_eq_iff (f : NumberFormat) (mode : Mode) (d : Document Single) :
    ((∃ d', (read mode (d.render f)).result = .ok d' ∧ d'.eq d = true) ↔ d.IsLegible) ∧
      (d.IsLegible → (read mode (d.render f)).result = .ok d) :=
  ⟨exists_read_render_iff f mode d, read_render_of_isLegible f mode⟩

end Script

end Scenery
