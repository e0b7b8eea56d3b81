import Scenery.Script.Reader

/-!
# Scripts object by object

What a script describes, said without a reader: the statements are cut where objects begin, and each
object is what its own statements say.  A later value of an attribute replaces an earlier one; a design
block is complete with its first commit, and what comes after that has no effect.

* `Group.block?`            the block that an object comes to
* `Reading.outcome_step`    a statement that is read keeps what is to be expected in the end
* `read_lenient_groups`     a lenient reader gives the blocks of all objects
-/

namespace Scenery

namespace Script

/-! ### What statements give -/

namespace Statement

/-- The value of an attribute that carries exactly three numbers. -/
def vector? (name : String) : Statement → Option (Vec3 Single)
  | «attribute» name' (.numbers [x, y, z]) => if name' = name then some ⟨x, y, z⟩ else none
  | _ => none

/-- The shape whose sizes, one to three numbers, an attribute carries. -/
def shape? : Statement → Option (Shape Single)
  | «attribute» name (.numbers xs) => if name = Keyword.shape then Shape.ofValues? xs else none
  | _ => none

/-- The material of an attribute that carries a text. -/
def material? : Statement → Option String
  | «attribute» name (.text m) => if name = Keyword.material then some m else none
  | _ => none

/-- A statement gives a shape exactly if it brings one to three numbers under its name. -/
theorem isSome_shape? {s : Statement} : s.shape?.isSome = true ↔
    ∃ xs, s = .attribute Keyword.shape (.numbers xs) ∧ 1 ≤ xs.length ∧ xs.length ≤ 3 := by
  have hsizes (xs : List Single) :
      (Shape.ofValues? xs).isSome = true ↔ 1 ≤ xs.length ∧ xs.length ≤ 3 := by
    rcases xs with _ | ⟨x, _ | ⟨y, _ | ⟨z, _ | ⟨w, xs⟩⟩⟩⟩ <;> simp [Shape.ofValues?]
  unfold shape?
  split
  · rename_i name xs
    by_cases hname : name = Keyword.shape
    · simp [hname, hsizes]
    · simp [hname]
  · simp_all

/-- A statement gives a material exactly if it brings a text under its name. -/
theorem isSome_material? {s : Statement} : s.material?.isSome = true ↔
    ∃ m, s = .attribute Keyword.material (.text m) := by
  unfold material?
  split
  · rename_i name m
    by_cases hname : name = Keyword.material <;> simp [hname]
  · simp_all

/-- The statement begins an object. -/
def isCreate : Statement → Bool
  | create _ _ => true
  | _ => false

/-- The statement completes a design block. -/
def isCommit : Statement → Bool
  | command name _ => name = Keyword.commit
  | _ => false

end Statement

section

variable {β : Type} {f : Statement → Option β} {s : Statement} {ss : List Statement}

/-- The last value that statements give, where `f` is what a single one gives. -/
def last? (f : Statement → Option β) (ss : List Statement) : Option β :=
  (ss.filterMap f).getLast?

@[simp] theorem last?_nil : last? f [] = none := rfl

/-- A value counts only if no later statement gives one. -/
theorem last?_cons : last? f (s :: ss) = (last? f ss).or (f s) := by
  unfold last?
  cases h : f s with
  | none => rw [List.filterMap_cons_none h, Option.or_none]
  | some b => rw [List.filterMap_cons_some h, List.getLast?_cons, Option.or_some]

/-- A last value is found exactly if some statement gives one. -/
theorem isSome_last? : (last? f ss).isSome = true ↔ ∃ s ∈ ss, (f s).isSome = true := by
  rw [last?, List.getLast?_isSome, ne_eq, List.filterMap_eq_nil_iff]
  simp [Option.isSome_iff_ne_none]

end

/-! ### Groups -/

/-- An object as a script describes it. -/
structure Group where
  type : String
  name : String
  /-- The statements between the one that begins the object and the next object. -/
  body : List Statement

/-- The objects of a script; statements before the first one belong to none. -/
def groups : List Statement → List Group
  | [] => []
  | .create type name :: rest =>
    ⟨type, name, rest.takeWhile (!·.isCreate)⟩ :: groups rest
  | _ :: rest => groups rest

namespace Group

/-- The statements of an object, the one that begins it first. -/
def statements (g : Group) : List Statement := .create g.type g.name :: g.body

/-- The camera of a group with a name. -/
def camera? (g : Group) : Option (CameraBlock Single) :=
  if g.name = "" then none
  else some
    { name := g.name
      position := (last? (Statement.vector? Keyword.position) g.body).getD 0
      rotation := (last? (Statement.vector? Keyword.rotation) g.body).getD 0 }

/-- The statements of a group before its first commit, if there is a commit. -/
def committed? (g : Group) : Option (List Statement) :=
  if g.body.any (·.isCommit) then some (g.body.takeWhile (!·.isCommit)) else none

/-- The design block of a group with a name and a commit, and with a shape and a material before the
first commit. -/
def design? (g : Group) : Option (DesignBlock Single) := do
  let ss ← g.committed?
  if g.name = "" then none
  else
    let shape ← last? Statement.shape? ss
    let material ← last? Statement.material? ss
    return {
      name := g.name
      shape
      position := (last? (Statement.vector? Keyword.position) ss).getD 0
      rotation := (last? (Statement.vector? Keyword.rotation) ss).getD 0
      material }

/-- A design block needs a name, and before its first commit one to three sizes and a material. -/
theorem isSome_design? (g : Group) : g.design?.isSome = true ↔
    g.name ≠ "" ∧ ∃ ss, g.committed? = some ss ∧
      (∃ xs, .attribute Keyword.shape (.numbers xs) ∈ ss ∧ 1 ≤ xs.length ∧ xs.length ≤ 3) ∧
      ∃ m, .attribute Keyword.material (.text m) ∈ ss := by
  unfold design?
  cases g.committed? with
  | none => simp
  | some ss =>
    have hshape : (last? Statement.shape? ss).isSome = true ↔
        ∃ xs, .attribute Keyword.shape (.numbers xs) ∈ ss ∧ 1 ≤ xs.length ∧ xs.length ≤ 3 := by
      rw [isSome_last?]
      simp only [Statement.isSome_shape?]
      exact ⟨fun ⟨s, hs, xs, heq, hlen⟩ => ⟨xs, heq ▸ hs, hlen⟩,
        fun ⟨xs, hs, hlen⟩ => ⟨_, hs, xs, rfl, hlen⟩⟩
    have hmaterial : (last? Statement.material? ss).isSome = true ↔
        ∃ m, .attribute Keyword.material (.text m) ∈ ss := by
      rw [isSome_last?]
      simp only [Statement.isSome_material?]
      exact ⟨fun ⟨s, hs, m, heq⟩ => ⟨m, heq ▸ hs⟩, fun ⟨m, hs⟩ => ⟨_, hs, m, rfl⟩⟩
    simp only [Option.some.injEq, exists_eq_left', ← hshape, ← hmaterial]
    -- a name, a shape and a material make a design
    by_cases hname : g.name = ""
    · simp [hname]
    · cases hs : last? Statement.shape? ss <;> cases hm : last? Statement.material? ss <;>
        simp [hname, hs, hm]

/-- The block of an object; objects of other types come to nothing. -/
def block? (g : Group) : Option (Block Single) :=
  if g.type = Keyword.camera then g.camera?.map .camera
  else if g.type = Keyword.designBlock then g.design?.map .design
  else none

end Group

/-! ### Attributes that are read -/

namespace Statement

/-- An attribute is a vector if it has the name, and three numbers. -/
theorem vector?_attribute (name name' : String) (v : Value) :
    vector? name (.attribute name' v) = if name' = name then Reading.vector? v else none := by
  unfold vector? Reading.vector?
  split <;> simp_all

/-- An attribute is a shape if it has the name, and the numbers of a shape. -/
theorem shape?_attribute (name : String) (v : Value) :
    shape? (.attribute name v) =
      if name = Keyword.shape then v.numbers?.bind Shape.ofValues? else none := by
  cases v <;> simp [shape?, Value.numbers?]

/-- An attribute is a material if it has the name, and a text. -/
theorem material?_attribute (name : String) (v : Value) :
    material? (.attribute name v) = if name = Keyword.material then v.text? else none := by
  cases v <;> simp [material?, Value.text?]

end Statement

open Statement

namespace Pending

/-- The design block after a statement that may set one of its parts. -/
def set (p : Pending) (s : Statement) : Pending :=
  { name := p.name
    shape := (shape? s).or p.shape
    position := (vector? Keyword.position s).getD p.position
    rotation := (vector? Keyword.rotation s).getD p.rotation
    material := (material? s).or p.material }

/-- The design block after some statements. -/
def setAll (p : Pending) (ss : List Statement) : Pending :=
  { name := p.name
    shape := (last? shape? ss).or p.shape
    position := (last? (vector? Keyword.position) ss).getD p.position
    rotation := (last? (vector? Keyword.rotation) ss).getD p.rotation
    material := (last? material? ss).or p.material }

theorem setAll_cons (p : Pending) (s : Statement) (ss : List Statement) :
    p.setAll (s :: ss) = (p.set s).setAll ss := by
  simp only [setAll, set, last?_cons, Option.or_assoc, Option.getD_or]

/-- The reader sets the part of a design block that an attribute is about. -/
theorem set_attribute (p : Pending) (line : Nat) (name : String) (v : Value) :
    p.set (.attribute name v) = (Reading.designAttribute line name v p).toOption.getD p := by
  unfold set Reading.designAttribute
  simp only [shape?_attribute, vector?_attribute, material?_attribute]
  -- the names of the attributes differ, so at most one part is set
  by_cases hshape : name = Keyword.shape
  · subst hshape
    cases v.numbers?.bind Shape.ofValues? <;>
      simp [Keyword.shape, Keyword.position, Keyword.rotation, Keyword.material, Except.toOption]
  by_cases hposition : name = Keyword.position
  · subst hposition
    cases Reading.vector? v <;>
      simp [Keyword.shape, Keyword.position, Keyword.rotation, Keyword.material, Except.toOption]
  by_cases hrotation : name = Keyword.rotation
  · subst hrotation
    cases Reading.vector? v <;>
      simp [Keyword.shape, Keyword.position, Keyword.rotation, Keyword.material, Except.toOption]
  by_cases hmaterial : name = Keyword.material
  · subst hmaterial
    cases v.text? <;>
      simp [Keyword.shape, Keyword.position, Keyword.rotation, Keyword.material, Except.toOption]
  · simp [hshape, hposition, hrotation, hmaterial, Except.toOption]

end Pending

end Script

namespace CameraBlock

open Script Statement

/-- The camera after a statement that may set one of its parts. -/
def set (c : CameraBlock Single) (s : Statement) : CameraBlock Single :=
  { name := c.name
    position := (vector? Keyword.position s).getD c.position
    rotation := (vector? Keyword.rotation s).getD c.rotation }

/-- The camera after some statements. -/
def setAll (c : CameraBlock Single) (ss : List Statement) : CameraBlock Single :=
  { name := c.name
    position := (last? (vector? Keyword.position) ss).getD c.position
    rotation := (last? (vector? Keyword.rotation) ss).getD c.rotation }

theorem setAll_cons (c : CameraBlock Single) (s : Statement) (ss : List Statement) :
    c.setAll (s :: ss) = (c.set s).setAll ss := by
  simp only [setAll, set, last?_cons, Option.getD_or]

/-- The reader sets the part of a camera that an attribute is about. -/
theorem set_attribute (c : CameraBlock Single) (line : Nat) (name : String) (v : Value) :
    c.set (.attribute name v) = (Reading.cameraAttribute line name v c).toOption.getD c := by
  unfold set Reading.cameraAttribute
  simp only [vector?_attribute]
  by_cases hposition : name = Keyword.position
  · subst hposition
    cases Reading.vector? v <;> simp [Keyword.position, Keyword.rotation, Except.toOption]
  by_cases hrotation : name = Keyword.rotation
  · subst hrotation
    cases Reading.vector? v <;> simp [Keyword.position, Keyword.rotation, Except.toOption]
  · simp [hposition, hrotation, Except.toOption]

/-- The camera, if it has a name. -/
def finish? (c : CameraBlock Single) : Option (CameraBlock Single) :=
  if c.name = "" then none else some c

end CameraBlock

namespace Script

/-! ### Objects that are still read -/

/-- The block that comes of an object if some more statements follow before the next object. -/
def Current.block? : Current → List Statement → Option (Block Single)
  | nothing, _ => none
  | other _, _ => none
  | camera c, ss => (c.setAll ss).finish?.map .camera
  | design p, ss =>
    if ss.any (·.isCommit) then (p.setAll (ss.takeWhile (!·.isCommit))).finish?.map .design
    else none

/-- The camera of a group is one of which only the name is known at first. -/
theorem Group.camera?_eq (g : Group) :
    g.camera? = (CameraBlock.setAll ⟨g.name, 0, 0⟩ g.body).finish? := rfl

/-- The design block of a group is one of which only the name is known at first. -/
theorem Group.design?_eq (g : Group) : g.design? =
    if g.body.any (·.isCommit) then
      ((Pending.named g.name).setAll (g.body.takeWhile (!·.isCommit))).finish?
    else none := by
  unfold design? committed?
  split
  · generalize g.body.takeWhile (!·.isCommit) = ss
    by_cases hname : g.name = ""
    · simp [Pending.finish?, Pending.setAll, Pending.named, hname]
    · have hempty : g.name.isEmpty = false := by simpa using hname
      cases hshape : last? Statement.shape? ss <;>
        cases hmaterial : last? Statement.material? ss <;>
        simp [Pending.finish?, Pending.setAll, Pending.named, hname, hempty, hshape, hmaterial]
  · rfl

namespace Reading

/-- All blocks to be expected of a reading if some more statements follow. -/
def outcome (r : Reading) (ss : List Statement) : List (Block Single) :=
  r.blocks.toList ++ (r.current.block? (ss.takeWhile (!·.isCreate))).toList ++
    (groups ss).filterMap Group.block?

/-- At the end of a script there are the blocks that are to be expected. -/
theorem outcome_nil (r : Reading) : r.outcome [] = r.close.blocks.toList := by
  unfold outcome close
  cases r.current with
  | nothing => simp [Current.block?, groups]
  | other type => simp [Current.block?, groups]
  | design p => simp [Current.block?, groups, note]
  | camera c =>
    by_cases hname : c.name = ""
    · simp [Current.block?, CameraBlock.finish?, CameraBlock.setAll, groups, note, hname]
    · simp [Current.block?, CameraBlock.finish?, CameraBlock.setAll, groups, push, hname]

/-! ### One statement -/

/-- A new object comes to what its group says. -/
private theorem block?_create (r : Reading) (line : Nat) (type name : String)
    (body : List Statement) :
    (r.create line type name).current.block? body = Group.block? ⟨type, name, body⟩ := by
  unfold create Group.block?
  by_cases hdesign : type = Keyword.designBlock
  · subst hdesign
    simp only [↓reduceIte, show Keyword.designBlock ≠ Keyword.camera by decide, Group.design?_eq,
      Current.block?]
    split <;> rfl
  by_cases hcamera : type = Keyword.camera
  · subst hcamera
    simp only [↓reduceIte, if_neg hdesign, Group.camera?_eq, Current.block?]
  · simp only [if_neg hdesign, if_neg hcamera, Current.block?]

/-- Creating a block finishes the one before. -/
private theorem blocks_create (r : Reading) (line : Nat) (type name : String) :
    (r.create line type name).blocks = r.close.blocks := by
  unfold create
  dsimp only
  split
  · rfl
  split <;> rfl

/-- A new object ends the one before it, and its group is the first of those that follow. -/
private theorem outcome_create (r : Reading) (line : Nat) (type name : String)
    (ss : List Statement) :
    (r.create line type name).outcome ss = r.outcome (.create type name :: ss) := by
  -- with nothing more to come, the object that was read comes to what it is
  have hclose : r.close.blocks.toList = r.blocks.toList ++ (r.current.block? []).toList := by
    rw [← outcome_nil, outcome]
    simp [groups]
  have hgroups : groups (.create type name :: ss) =
      ⟨type, name, ss.takeWhile (!·.isCreate)⟩ :: groups ss := rfl
  unfold outcome
  rw [block?_create, blocks_create, hclose, hgroups,
    List.takeWhile_cons_of_neg (by simp [Statement.isCreate])]
  cases hblock : Group.block? ⟨type, name, ss.takeWhile (!·.isCreate)⟩ with
  | none => simp [hblock]
  | some b => simp [hblock]

/-- An attribute sets a part of the current object, or nothing. -/
private theorem outcome_setAttribute (r : Reading) (line : Nat) (name : String) (v : Value)
    (ss : List Statement) :
    (r.setAttribute line name v).outcome ss = r.outcome (.attribute name v :: ss) := by
  have hgroups : groups (.attribute name v :: ss) = groups ss := rfl
  unfold outcome
  rw [hgroups, List.takeWhile_cons_of_pos (by rfl)]
  generalize ss.takeWhile (!·.isCreate) = body
  unfold setAttribute
  cases hc : r.current with
  | nothing => simp only [note, hc, Current.block?]
  | other type => simp only [note, hc, Current.block?]
  | design p =>
    have hany : (Statement.attribute name v :: body).any (·.isCommit) = body.any (·.isCommit) := rfl
    simp only [Current.block?, hany]
    rw [List.takeWhile_cons_of_pos (by rfl), Pending.setAll_cons, Pending.set_attribute p line]
    cases designAttribute line name v p with
    | ok q => rfl
    | error n => simp only [note, hc, Except.toOption, Option.getD_none]
  | camera c =>
    simp only [Current.block?]
    -- an attribute that is refused leaves the camera as it was
    rw [CameraBlock.setAll_cons, CameraBlock.set_attribute c line]
    cases cameraAttribute line name v c with
    | ok d => rfl
    | error n => simp only [note, hc, Except.toOption, Option.getD_none]

/-- The first commit of a design block decides whether it comes to anything; all else that commands do
is nothing. -/
private theorem outcome_runCommand (r : Reading) (line : Nat) (name : String) (v : Value)
    (ss : List Statement) :
    (r.runCommand line name).outcome ss = r.outcome (.command name v :: ss) := by
  have hgroups : groups (.command name v :: ss) = groups ss := rfl
  unfold outcome
  rw [hgroups, List.takeWhile_cons_of_pos (by rfl)]
  generalize ss.takeWhile (!·.isCreate) = body
  unfold runCommand
  split
  · -- a commit decides on the design with what was set before it
    rename_i hcommit
    subst hcommit
    cases hc : r.current with
    | nothing => simp only [note, hc, Current.block?]
    | other type => simp only [note, hc, Current.block?]
    | camera c => simp only [note, hc, Current.block?]; rfl
    | design p =>
      have hfirst : (Current.design p).block? (.command Keyword.commit v :: body) =
          p.finish?.map .design := by
        simp [Current.block?, Statement.isCommit, Pending.setAll]
      rw [hfirst]
      cases hfinish : p.finish? with
      | none => simp [hfinish, note, Current.block?]
      | some b => simp [hfinish, push, Current.block?]
  · rename_i hcommit
    -- any other command is passed over
    have hother : (Statement.command name v).isCommit = false := decide_eq_false hcommit
    cases hc : r.current with
    | nothing => simp only [note, hc, Current.block?]
    | other type => simp only [note, hc, Current.block?]
    | camera c => simp only [note, hc, Current.block?]; rfl
    | design p =>
      simp only [note, hc, Current.block?, List.any_cons, hother, Bool.false_or]
      rw [List.takeWhile_cons_of_pos (by rw [hother]; rfl), Pending.setAll_cons]
      rfl

/-- A statement that is read keeps what is to be expected in the end. -/
theorem outcome_step (r : Reading) (line : Nat) (s : Statement) (ss : List Statement) :
    (r.step line s).outcome ss = r.outcome (s :: ss) := by
  cases s with
  | create type name => exact r.outcome_create line type name ss
  | «attribute» name v => exact r.outcome_setAttribute line name v ss
  | command name v => exact r.outcome_runCommand line name v ss

end Reading

/-! ### Whole scripts -/

/-- The statements of some lines; lines with a fault have none. -/
def statements (ls : List (List Char)) : List Statement :=
  ls.filterMap fun line => (Statement.ofLine? line).toOption.join

/-- A lenient reader passes over faults, and what is to be expected after the statements of all lines is
what it has in the end. -/
theorem readLines_lenient_groups (r : Reading) (n : Nat) (ls : List (List Char)) :
    (readLines .lenient r n ls).1 = none ∧
      (readLines .lenient r n ls).2.close.blocks.toList = r.outcome (statements ls) := by
  -- along the lines the expected blocks stay the same
  induction ls generalizing r n with
  | nil => exact ⟨rfl, r.outcome_nil.symm⟩
  | cons line rest ih =>
    unfold readLines statements
    cases hline : Statement.ofLine? line with
    | error fault =>
      rw [List.filterMap_cons_none (by rw [hline]; rfl)]
      exact ih _ _
    | ok s? =>
      cases s? with
      | none =>
        rw [List.filterMap_cons_none (by rw [hline]; rfl)]
        exact ih _ _
      | some s =>
        rw [List.filterMap_cons_some (by rw [hline]; rfl), ← r.outcome_step n]
        exact ih _ _

/-- A lenient reader reads every text, and has in the end what is to be expected at its start. -/
theorem read_lenient_outcome (text : String) : (read .lenient text).result =
    .ok ⟨Reading.start.outcome (statements (Text.lines text.toList))⟩ := by
  obtain ⟨hfault, hblocks⟩ := readLines_lenient_groups .start 1 (Text.lines text.toList)
  have hread : readLines .lenient .start 1 (Text.lines text.toList) = (none, _) :=
    Prod.ext hfault rfl
  unfold read
  rw [hread]
  dsimp only
  rw [hblocks]

/-- A lenient reader gives the blocks of all objects, in order.  A design block is among them exactly if
it has a name and a commit, and a shape and a material before the first commit. -/
theorem read_lenient_groups (text : String) :
    (read .lenient text).result =
      .ok ⟨(groups (statements (Text.lines text.toList))).filterMap Group.block?⟩ ∧
    ∀ g : Group, g.design?.isSome = true ↔
      g.name ≠ "" ∧ ∃ ss, g.committed? = some ss ∧
        (∃ xs, .attribute Keyword.shape (.numbers xs) ∈ ss ∧ 1 ≤ xs.length ∧ xs.length ≤ 3) ∧
        ∃ m, .attribute Keyword.material (.text m) ∈ ss := by
  refine ⟨?_, Group.isSome_design?⟩
  rw [read_lenient_outcome]
  simp [Reading.outcome, Reading.start, Current.block?]

end Script

end Scenery
