import Mathlib.Data.List.Infix
import Scenery.Proofs.Mesh.Corners
import Scenery.Proofs.Mesh.Valid

/-!
# Meshes of Wavefront texts

A text is read line by line into a mesh that grows.  The mesh has the points, the texture coordinates
and the faces of the lines in their order, and each face refers to what stands before its line; so
whatever follows, its indices stay in range.

* `exists_step_iff`                 the lines that can be read
* `Describes`                       a mesh has what some lines bring
* `Describes.readLines`             the mesh that is read has what all lines bring
* `Describes.exists_readLines_iff`  all lines can be read if none of them has a fault
* `exists_ofText_iff`               the texts that can be read
* `ofText_describes`                reading fails only for a fault of a line or for want of faces
-/

namespace Scenery.Wavefront

/-! ### Lines -/

/-- A line by its words. -/
abbrev Row := List (List Char)

/-- The lines of a text. -/
def rows (text : String) : List Row := (Text.lines text.toList).map Text.words

/-- The words of a line behind the first one, if that is the given word. -/
def argsOf? (word : List Char) : Row → Option Row
  | first :: args => if first = word then some args else none
  | [] => none

/-- The lines that start with a word, without it. -/
def linesOf (word : List Char) (rows : List Row) : List Row := rows.filterMap (argsOf? word)

/-- The face lines without their first words, each with the lines before it. -/
def faceLines (rows : List Row) : List (List Row × Row) :=
  (rows.inits.zip rows).filterMap fun (before, row) => (argsOf? ['f'] row).map (before, ·)

/-- The first words are these numbers. -/
def Brings (args : Row) (xs : List Single) : Prop :=
  List.Forall₂ (fun token x => Single.ofText? token = some x) (args.take xs.length) xs

/-- There are fewer words, or one of the first words is no number. -/
def LacksNumbers (args : Row) (count : Nat) : Prop :=
  args.length < count ∨ ∃ token ∈ args.take count, Single.ofText? token = none

/-- The line has a fault where it stands behind so many points and texture coordinates. -/
inductive IsMalformed (points uvs : Nat) : Row → Prop where
  | point {args : Row} (h : LacksNumbers args 3) : IsMalformed points uvs (['v'] :: args)
  | uv {args : Row} (h : LacksNumbers args 2) : IsMalformed points uvs (['v', 't'] :: args)
  | fewCorners {args : Row} (h : args.length < 3) : IsMalformed points uvs (['f'] :: args)
  | pointIndex {args : Row} {word : List Char} (hmem : word ∈ args)
    (h : IsBadIndex (pointToken word) points) : IsMalformed points uvs (['f'] :: args)
  | uvIndex {args : Row} {word token : List Char} (hmem : word ∈ args)
    (htoken : uvToken? word = some token) (h : IsBadIndex token uvs) :
    IsMalformed points uvs (['f'] :: args)

/-! ### One line -/

variable {m m' : Mesh Single} {args row : Row}

/-- A line brings so many numbers if it does not lack them. -/
private theorem exists_brings_iff {count : Nat} :
    (∃ xs, xs.length = count ∧ Brings args xs) ↔ ¬LacksNumbers args count := by
  have hnumbers : (∃ xs, List.Forall₂ (fun token x => Single.ofText? token = some x)
      (args.take count) xs) ↔ ∀ token ∈ args.take count, Single.ofText? token ≠ none := by
    simp only [exists_forall₂, Option.ne_none_iff_exists']
  unfold Brings LacksNumbers
  rw [not_or, Nat.not_lt, not_exists]
  simp only [not_and, ← hnumbers]
  constructor
  · rintro ⟨xs, rfl, hxs⟩
    have hlen := hxs.length_eq
    rw [List.length_take] at hlen
    exact ⟨by omega, xs, hxs⟩
  · rintro ⟨hcount, xs, hxs⟩
    have hlen := hxs.length_eq
    rw [List.length_take, Nat.min_eq_left hcount] at hlen
    exact ⟨xs, hlen.symm, by rwa [← hlen]⟩

/-- A number of a line is read as the text of a number is. -/
private theorem number_eq_ok {c : Component} {token : List Char} {x : Single} :
    number c token = .ok x ↔ Single.ofText? token = some x := by
  unfold number
  cases Single.ofText? token <;> simp

/-- A line with a point adds the point that its numbers bring. -/
private theorem step_point_eq_ok : step m (['v'] :: args) = .ok m' ↔
    ∃ p, Brings args p.toList ∧ m' = { m with positions := m.positions.push p } := by
  unfold Brings Vec3.toList
  match args with
  | [] => simp [step]
  | [x] => simp [step]
  | [x, y] => simp [step]
  | x :: y :: z :: more =>
    simp only [step, bind_eq_ok, number_eq_ok, List.length_cons, List.length_nil, List.take_succ_cons,
      List.take_zero, List.forall₂_cons, List.forall₂_nil_left_iff, and_true]
    constructor
    · rintro ⟨px, hx, py, hy, pz, hz, ⟨⟩⟩
      exact ⟨⟨px, py, pz⟩, ⟨hx, hy, hz⟩, rfl⟩
    · rintro ⟨p, ⟨hx, hy, hz⟩, rfl⟩
      exact ⟨p.x, hx, p.y, hy, p.z, hz, rfl⟩

/-- A line with texture coordinates adds those that its numbers bring. -/
private theorem step_uv_eq_ok : step m (['v', 't'] :: args) = .ok m' ↔
    ∃ uv : Vec2 Single, Brings args uv.toList ∧ m' = { m with uvs := m.uvs.push uv } := by
  unfold Brings Vec2.toList
  match args with
  | [] => simp [step]
  | [u] => simp [step]
  | u :: v :: more =>
    simp only [step, bind_eq_ok, number_eq_ok, List.length_cons, List.length_nil, List.take_succ_cons,
      List.take_zero, List.forall₂_cons, List.forall₂_nil_left_iff, and_true]
    constructor
    · rintro ⟨x, hx, y, hy, ⟨⟩⟩
      exact ⟨⟨x, y⟩, ⟨hx, hy⟩, rfl⟩
    · rintro ⟨uv, ⟨hx, hy⟩, rfl⟩
      exact ⟨uv.x, hx, uv.y, hy, rfl⟩

/-- A line with a face adds the face that its words describe by the points and texture coordinates
so far. -/
private theorem step_face_eq_ok : step m (['f'] :: args) = .ok m' ↔ 3 ≤ args.length ∧
    ∃ f, face m.positions.size m.uvs.size args = .ok f ∧
      m' = { m with faces := m.faces.push f } := by
  show (if args.length < 3 then _ else _) = _ ↔ _
  split
  · simp only [reduceCtorEq, false_iff]
    omega
  · simp only [bind_eq_ok]
    constructor
    · rintro ⟨f, hf, ⟨⟩⟩
      exact ⟨by omega, f, hf, rfl⟩
    · rintro ⟨-, f, hf, rfl⟩
      exact ⟨f, hf, rfl⟩

/-- A line with a point is well-formed unless it lacks one of three numbers. -/
private theorem exists_step_point_iff :
    (∃ m', step m (['v'] :: args) = .ok m') ↔ ¬LacksNumbers args 3 := by
  simp only [step_point_eq_ok, ← exists_brings_iff]
  constructor
  · rintro ⟨_, p, hp, -⟩
    exact ⟨p.toList, rfl, hp⟩
  · rintro ⟨xs, hlen, hxs⟩
    obtain ⟨x, y, z, rfl⟩ := List.length_eq_three.1 hlen
    exact ⟨_, ⟨x, y, z⟩, hxs, rfl⟩

/-- A line with texture coordinates is well-formed unless it lacks one of two numbers. -/
private theorem exists_step_uv_iff :
    (∃ m', step m (['v', 't'] :: args) = .ok m') ↔ ¬LacksNumbers args 2 := by
  simp only [step_uv_eq_ok, ← exists_brings_iff]
  constructor
  · rintro ⟨_, uv, huv, -⟩
    exact ⟨uv.toList, rfl, huv⟩
  · rintro ⟨xs, hlen, hxs⟩
    obtain ⟨x, y, rfl⟩ := List.length_eq_two.1 hlen
    exact ⟨_, ⟨x, y⟩, hxs, rfl⟩

/-- A line with a face is well-formed if it has three corners at least and each of them can be read.
-/
private theorem exists_step_face_iff : (∃ m', step m (['f'] :: args) = .ok m') ↔
    3 ≤ args.length ∧ ∃ f, face m.positions.size m.uvs.size args = .ok f := by
  simp only [step_face_eq_ok]
  constructor
  · rintro ⟨_, hthree, f, hf, -⟩
    exact ⟨hthree, f, hf⟩
  · rintro ⟨hthree, f, hf⟩
    exact ⟨_, hthree, f, hf, rfl⟩

/-- A line is about a point, a texture coordinate or a face, or it is passed over. -/
theorem row_cases (row : Row) : (∃ args, row = ['v'] :: args) ∨
    (∃ args, row = ['v', 't'] :: args) ∨ (∃ args, row = ['f'] :: args) ∨
      (∀ m, step m row = .ok m) ∧
        argsOf? ['v'] row = none ∧ argsOf? ['v', 't'] row = none ∧ argsOf? ['f'] row = none := by
  cases row with
  | nil => exact .inr (.inr (.inr ⟨fun _ => rfl, rfl, rfl, rfl⟩))
  | cons first args =>
    by_cases hpoint : first = ['v']
    · exact .inl ⟨args, by rw [hpoint]⟩
    by_cases huv : first = ['v', 't']
    · exact .inr (.inl ⟨args, by rw [huv]⟩)
    by_cases hface : first = ['f']
    · exact .inr (.inr (.inl ⟨args, by rw [hface]⟩))
    -- the first word is none of the three, so the line is passed over
    refine .inr (.inr (.inr ⟨fun m => ?_, if_neg hpoint, if_neg huv, if_neg hface⟩))
    unfold step
    split
    · rename_i heq
      exact absurd (List.cons.inj heq).1 hpoint
    · rename_i heq
      exact absurd (List.cons.inj heq).1 huv
    · rename_i heq
      exact absurd (List.cons.inj heq).1 hface
    · rfl

/-- A line can be read exactly if it has no fault. -/
theorem exists_step_iff :
    (∃ m', step m row = .ok m') ↔ ¬IsMalformed m.positions.size m.uvs.size row := by
  rcases row_cases row with ⟨args, rfl⟩ | ⟨args, rfl⟩ | ⟨args, rfl⟩ | ⟨hstep, hpoint, huv, hface⟩
  · rw [exists_step_point_iff, not_iff_not]
    exact ⟨.point, fun h => by cases h; assumption⟩
  · rw [exists_step_uv_iff, not_iff_not]
    exact ⟨.uv, fun h => by cases h; assumption⟩
  · rw [exists_step_face_iff, exists_face_iff]
    constructor
    · rintro ⟨hthree, hcorners⟩ (_ | _ | h | ⟨hmem, h⟩ | ⟨hmem, htoken, h⟩)
      · omega
      · exact (hcorners _ hmem).1 h
      · exact (hcorners _ hmem).2 _ htoken h
    · intro h
      exact ⟨Nat.not_lt.1 fun hlt => h (.fewCorners hlt), fun word hmem =>
        ⟨fun hbad => h (.pointIndex hmem hbad), fun token htoken hbad => h (.uvIndex hmem htoken hbad)⟩⟩
  · refine iff_of_true ⟨m, hstep m⟩ fun h => ?_
    -- a line with a fault is about something
    cases h <;> simp [argsOf?] at hpoint huv hface

/-! ### All lines -/

/-- The mesh has the points, the texture coordinates and the faces of some lines, in their order; each
face refers to the points and the texture coordinates of the lines before its own. -/
structure Describes (rows : List Row) (m : Mesh Single) : Prop where
  points : List.Forall₂ (fun args (p : Vec3 Single) => Brings args p.toList) (linesOf ['v'] rows)
    m.positions.toList
  uvs : List.Forall₂ (fun args (uv : Vec2 Single) => Brings args uv.toList)
    (linesOf ['v', 't'] rows) m.uvs.toList
  faces : List.Forall₂ (fun line f => IsFace (linesOf ['v'] line.1).length
    (linesOf ['v', 't'] line.1).length line.2 f) (faceLines rows) m.faces.toList

/-- The last row adds to the lines of its kind. -/
private theorem linesOf_snoc (word : List Char) (rows : List Row) (row : Row) :
    linesOf word (rows ++ [row]) = linesOf word rows ++ (argsOf? word row).toList := by
  unfold linesOf
  rw [List.filterMap_append]
  cases hargs : argsOf? word row <;> simp [hargs]

/-- The last row comes with all rows before it. -/
private theorem inits_zip_snoc (rows : List Row) (row : Row) :
    (rows ++ [row]).inits.zip (rows ++ [row]) = rows.inits.zip rows ++ [(rows, row)] := by
  induction rows with
  | nil => rfl
  | cons first rows ih =>
    rw [List.cons_append, List.inits_cons, List.zip_cons_cons, List.zip_map_left, ih, List.inits_cons,
      List.zip_cons_cons, List.zip_map_left, List.map_append]
    rfl

/-- A face in the last row is read with all rows before it. -/
private theorem faceLines_snoc (rows : List Row) (row : Row) : faceLines (rows ++ [row]) =
    faceLines rows ++ ((argsOf? ['f'] row).map (rows, ·)).toList := by
  unfold faceLines
  rw [inits_zip_snoc, List.filterMap_append]
  cases hargs : argsOf? ['f'] row <;> simp [hargs]

/-- These are the face lines. -/
private theorem map_snd_faceLines (rows : List Row) :
    (faceLines rows).map Prod.snd = linesOf ['f'] rows := by
  induction rows using List.reverseRecOn with
  | nil => rfl
  | append_singleton rows row ih =>
    rw [faceLines_snoc, linesOf_snoc, List.map_append, ih]
    cases argsOf? ['f'] row <;> rfl

namespace Describes

variable {before : List Row}

theorem nil : Describes [] .empty := ⟨.nil, .nil, .nil⟩

/-- There are as many points as lines with points. -/
theorem size_positions (h : Describes before m) :
    m.positions.size = (linesOf ['v'] before).length := by
  rw [h.points.length_eq, Array.length_toList]

theorem size_uvs (h : Describes before m) : m.uvs.size = (linesOf ['v', 't'] before).length := by
  rw [h.uvs.length_eq, Array.length_toList]

/-- The mesh has faces exactly if there are face lines. -/
theorem isEmpty_faces_iff (h : Describes before m) :
    m.faces.isEmpty = false ↔ linesOf ['f'] before ≠ [] := by
  rw [← map_snd_faceLines, Ne, List.map_eq_nil_iff, ← List.length_eq_zero_iff, h.faces.length_eq]
  simp

/-- A line that is read adds to the mesh what it brings. -/
theorem step (h : Describes before m) (hstep : Wavefront.step m row = .ok m') :
    Describes (before ++ [row]) m' := by
  obtain ⟨hpoints, huvs, hfaces⟩ := id h
  -- only the list that the line is about becomes longer
  rcases row_cases row with ⟨args, rfl⟩ | ⟨args, rfl⟩ | ⟨args, rfl⟩ | ⟨hsame, hpoint, huv, hface⟩
  · obtain ⟨p, hp, rfl⟩ := step_point_eq_ok.1 hstep
    constructor <;> simp only [linesOf_snoc, faceLines_snoc]
    · rw [Array.toList_push]
      exact List.rel_append hpoints (.cons hp .nil)
    · simpa [argsOf?] using huvs
    · simpa [argsOf?] using hfaces
  · obtain ⟨uv, huv, rfl⟩ := step_uv_eq_ok.1 hstep
    constructor <;> simp only [linesOf_snoc, faceLines_snoc]
    · simpa [argsOf?] using hpoints
    · rw [Array.toList_push]
      exact List.rel_append huvs (.cons huv .nil)
    · simpa [argsOf?] using hfaces
  · obtain ⟨hthree, f, hf, rfl⟩ := step_face_eq_ok.1 hstep
    have hface := isFace_of_face hthree hf
    rw [h.size_positions, h.size_uvs] at hface
    constructor <;> simp only [linesOf_snoc, faceLines_snoc]
    · simpa [argsOf?] using hpoints
    · simpa [argsOf?] using huvs
    · rw [Array.toList_push]
      exact List.rel_append hfaces (.cons hface .nil)
  · -- a line of another kind adds to none of the lists
    rw [hsame] at hstep
    cases hstep
    constructor <;> simp only [linesOf_snoc, faceLines_snoc, hpoint, huv, hface]
    · simpa using hpoints
    · simpa using huvs
    · simpa using hfaces

/-- The mesh that is read has what all lines bring. -/
theorem readLines (h : Describes before m) {n : Nat} {rest : List (List Char)}
    (hrun : Wavefront.readLines m n (rest.map .ok) = .ok m') :
    Describes (before ++ rest.map Text.words) m' := by
  induction rest generalizing before m n with
  | nil =>
    cases hrun
    rwa [List.map_nil, List.append_nil]
  | cons line rest ih =>
    rw [List.map_cons, Wavefront.readLines] at hrun
    cases hstep : Wavefront.step m (Text.words line) with
    | error e =>
      rw [hstep] at hrun
      cases hrun
    | ok next =>
      rw [hstep] at hrun
      have hall := ih (h.step hstep) hrun
      rwa [List.append_assoc] at hall

/-- All lines can be read exactly if none of them has a fault where it stands. -/
theorem exists_readLines_iff (h : Describes before m) {n : Nat} {rest : List (List Char)} :
    (∃ m', Wavefront.readLines m n (rest.map .ok) = .ok m') ↔
      ∀ front row back, rest.map Text.words = front ++ row :: back →
        ¬IsMalformed (linesOf ['v'] (before ++ front)).length
          (linesOf ['v', 't'] (before ++ front)).length row := by
  induction rest generalizing before m n with
  | nil => simp [Wavefront.readLines]
  | cons line rest ih =>
    -- the line in question is the first one or one of the rest
    have hsplit : (∀ front row back, (line :: rest).map Text.words = front ++ row :: back →
        ¬IsMalformed (linesOf ['v'] (before ++ front)).length
          (linesOf ['v', 't'] (before ++ front)).length row) ↔
        ¬IsMalformed m.positions.size m.uvs.size (Text.words line) ∧
        ∀ front row back, rest.map Text.words = front ++ row :: back →
          ¬IsMalformed (linesOf ['v'] (before ++ [Text.words line] ++ front)).length
            (linesOf ['v', 't'] (before ++ [Text.words line] ++ front)).length row := by
      rw [h.size_positions, h.size_uvs, List.map_cons, forall_split_cons, List.append_nil]
      simp only [List.append_assoc, List.singleton_append]
    have hstep : (∃ m', Wavefront.step m (Text.words line) = .ok m') ↔ _ := exists_step_iff
    rw [hsplit, ← hstep, List.map_cons, Wavefront.readLines]
    cases hline : Wavefront.step m (Text.words line) with
    | error e => simp
    | ok next => simpa using ih (h.step hline)

end Describes

/-! ### The mesh of a text -/

namespace Describes

variable {rows : List Row}

/-- Before a face there are at most as many lines of a kind as there are in all. -/
private theorem length_linesOf_le (word : List Char) {line : List Row × Row}
    (hline : line ∈ faceLines rows) : (linesOf word line.1).length ≤ (linesOf word rows).length := by
  obtain ⟨⟨before, row⟩, hmem, hargs⟩ := List.mem_filterMap.1 hline
  obtain ⟨args, -, rfl⟩ := Option.map_eq_some_iff.1 hargs
  have hbefore : before <+: rows := (List.mem_inits _ _).1 (List.of_mem_zip hmem).1
  exact (hbefore.sublist.filterMap _).length_le

/-- The line of a face stands behind no more points and texture coordinates than the mesh has. -/
theorem exists_isFace (h : Describes rows m) {f : Face} (hf : f ∈ m.faces) :
    ∃ points uvs corners, IsFace points uvs corners f ∧ points ≤ m.positions.size ∧
      uvs ≤ m.uvs.size := by
  obtain ⟨k, hk, rfl⟩ := List.getElem_of_mem (Array.mem_toList_iff.2 hf)
  have hline : k < (faceLines rows).length := by rwa [h.faces.length_eq]
  have hmem : (faceLines rows)[k] ∈ faceLines rows := List.getElem_mem hline
  refine ⟨_, _, _, h.faces.get hline hk, ?_, ?_⟩
  · rw [h.size_positions]
    exact length_linesOf_le _ hmem
  · rw [h.size_uvs]
    exact length_linesOf_le _ hmem

/-- Every face that was read has three corners at least. -/
theorem three_le (h : Describes rows m) : ∀ f ∈ m.faces, 3 ≤ f.positions.length := by
  intro f hf
  obtain ⟨_, _, corners, hface, -, -⟩ := h.exists_isFace hf
  have hlen := hface.positions.length_eq
  have hthree := hface.three_le
  omega

/-- Whatever follows a face, its indices stay in range. -/
theorem validate (h : Describes rows m) : m.validate = .ok () := by
  rw [Mesh.validate_eq_ok]
  intro f hf
  obtain ⟨points, uvs, corners, hface, hpoints, huvs⟩ := h.exists_isFace hf
  obtain ⟨hpositions, hcoordinates⟩ := hface.isWithin
  refine ⟨fun i hi => Nat.lt_of_lt_of_le (hpositions i hi) hpoints, ?_⟩
  exact hcoordinates.imp_right fun ⟨hlen, hall⟩ =>
    ⟨hlen, fun i hi => Nat.lt_of_lt_of_le (hall i hi) huvs⟩

end Describes

/-- The reader of lines finds no mesh invalid: that is left to a check of the whole. -/
private theorem readLines_ne_invalidMesh (m : Mesh Single) (n : Nat)
    (lines : List (Except FileError (List Char))) (e : MeshError) :
    readLines m n lines ≠ .error (.invalidMesh e) := by
  induction lines generalizing m n with
  | nil => simp [readLines]
  | cons line rest ih =>
    cases line with
    | error e => simp [readLines]
    | ok line =>
      rw [readLines]
      cases step m (Text.words line) with
      | error fault => simp
      | ok next => exact ih next (n + 1)

/-- The last check of a mesh never refuses it. -/
theorem ofText_eq (text : String) : ofText text =
    readLines .empty 1 ((Text.lines text.toList).map .ok) >>= fun m =>
      if m.faces.isEmpty then .error .noFaces else .ok m := by
  unfold ofText ofLines
  cases hread : readLines .empty 1 ((Text.lines text.toList).map .ok) with
  | error e => rfl
  | ok m =>
    have hvalid := (Describes.nil.readLines hread).validate
    simp only [bind, Except.bind, hvalid]

/-- A text gives the mesh that its lines give, if that has a face. -/
private theorem ofText_eq_ok {text : String} : ofText text = .ok m ↔
    readLines .empty 1 ((Text.lines text.toList).map .ok) = .ok m ∧ m.faces.isEmpty = false := by
  rw [ofText_eq, bind_eq_ok]
  constructor
  · rintro ⟨m₁, hread, hfaces⟩
    split at hfaces
    · cases hfaces
    · rename_i hsome
      cases hfaces
      exact ⟨hread, eq_false_of_ne_true hsome⟩
  · rintro ⟨hread, hsome⟩
    exact ⟨m, hread, if_neg (ne_true_of_eq_false hsome)⟩

/-- A text can be read exactly if none of its lines has a fault where it stands and one is a face
line. -/
theorem exists_ofText_iff {text : String} : (∃ m, ofText text = .ok m) ↔
    (∀ before row after, rows text = before ++ row :: after →
      ¬IsMalformed (linesOf ['v'] before).length (linesOf ['v', 't'] before).length row) ∧
    linesOf ['f'] (rows text) ≠ [] := by
  have hreadable : (∃ m, readLines .empty 1 ((Text.lines text.toList).map .ok) = .ok m) ↔ _ :=
    Describes.nil.exists_readLines_iff
  simp only [List.nil_append] at hreadable
  have hfaces {m : Mesh Single} (hread : readLines .empty 1 ((Text.lines text.toList).map .ok) = .ok m) :
      m.faces.isEmpty = false ↔ linesOf ['f'] (rows text) ≠ [] :=
    (Describes.nil.readLines hread).isEmpty_faces_iff
  simp only [ofText_eq_ok]
  constructor
  · rintro ⟨m, hread, hsome⟩
    exact ⟨hreadable.1 ⟨m, hread⟩, (hfaces hread).1 hsome⟩
  · rintro ⟨hsound, hsome⟩
    obtain ⟨m, hread⟩ := hreadable.2 hsound
    exact ⟨m, hread, (hfaces hread).2 hsome⟩

/-- A mesh that was read from a text is never invalid: each index was checked on its way in. -/
private theorem ofText_ne_invalidMesh (text : String) (e : MeshError) :
    ofText text ≠ .error (.invalidMesh e) := by
  have hread := readLines_ne_invalidMesh .empty 1 ((Text.lines text.toList).map .ok) e
  rw [ofText_eq]
  cases hmesh : readLines .empty 1 ((Text.lines text.toList).map .ok) with
  | error fault => rwa [hmesh] at hread
  | ok m =>
    show (if m.faces.isEmpty then _ else _) ≠ _
    split <;> nofun

/-- Reading a text fails exactly if a line has a fault where it stands or there is no face line.  The
mesh has what the lines bring; it is never refused in the end, and each of its faces has a geometry. -/
theorem ofText_describes (text : String) :
    ((∃ e, ofText text = .error e) ↔
      (∃ before row after, rows text = before ++ row :: after ∧
        IsMalformed (linesOf ['v'] before).length (linesOf ['v', 't'] before).length row) ∨
      linesOf ['f'] (rows text) = []) ∧
    (∀ e, ofText text ≠ .error (.invalidMesh e)) ∧
    ∀ m, ofText text = .ok m → Describes (rows text) m ∧ 0 < m.faceCount ∧
      (∀ f ∈ m.faces, 3 ≤ f.positions.length) ∧ m.validate = .ok () ∧
      ∀ n < m.faceCount, ∃ g, m.faceGeometry n = .ok g := by
  refine ⟨?_, ofText_ne_invalidMesh text, ?_⟩
  · have hfails : (∃ e, ofText text = .error e) ↔ ¬∃ m, ofText text = .ok m := by
      cases ofText text <;> simp
    rw [hfails, exists_ofText_iff, not_and_or, not_ne_iff]
    simp only [not_forall, not_not, exists_prop]
  · intro m hm
    obtain ⟨hread, hsome⟩ := ofText_eq_ok.1 hm
    have hdescribes : Describes (rows text) m := Describes.nil.readLines hread
    -- a mesh without faces is refused at the end
    have hcount : 0 < m.faceCount := by
      rw [Mesh.faceCount, Nat.pos_iff_ne_zero]
      exact fun hzero => ne_true_of_eq_false hsome (Array.isEmpty_iff_size_eq_zero.2 hzero)
    refine ⟨hdescribes, hcount, hdescribes.three_le, hdescribes.validate, fun n hn => ?_⟩
    exact Mesh.exists_faceGeometry hdescribes.validate (Array.getElem?_eq_getElem hn)
      (hdescribes.three_le _ (Array.getElem_mem hn))

end Scenery.Wavefront
