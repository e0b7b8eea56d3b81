import Scenery.Proofs.Mesh.IndexArithmetic
import Scenery.Proofs.Mesh.Wavefront

/-!
# Breakdowns over indices

A face line is read corner by corner, up to the first token that means no place.  On a machine that
looks at its results the program breaks down if that token stands for the least integer, and on any
other machine, or line, there is a face whose indices are in range, or an error.

* `faceBy`                       the face of a line, with the places that a machine finds
* `faceBy_eq_overflow`           the lines over which the program breaks down
* `exists_ofText_overflow_iff`   the texts over which it does
* `overflows_only_least`         indices, face lines and texts without a breakdown
-/

namespace Scenery.Wavefront

/-! ### Corners -/

section Corners

variable {κ κ' : Type} {find : List Char → κ → Except Fault Nat}
  {find' : List Char → κ' → Except Fault Nat} {points uvs : κ} {points' uvs' : κ'}
  {word : List Char} {args : Row}

/-- A corner, with the places that `find` gives for its tokens. -/
def cornerBy (find : List Char → κ → Except Fault Nat) (points uvs : κ) (word : List Char) :
    Except Fault (Nat × Option Nat) := do
  let p ← find (pointToken word) points
  match uvToken? word with
  | none => return (p, none)
  | some token => return (p, some (← find token uvs))

/-- The face of a line by its words behind the first one, with the places that `find` gives. -/
def faceBy (find : List Char → κ → Except Fault Nat) (points uvs : κ) (args : Row) :
    Except Fault Face :=
  if args.length < 3 then .error .faceTooShort
  else do
    let corners ← args.mapM (cornerBy find points uvs)
    let uvs := corners.filterMap Prod.snd
    return ⟨corners.map Prod.fst, if uvs.length = corners.length then uvs else []⟩

/-- A corner can be read if all of its tokens can. -/
private theorem exists_cornerBy_iff : (∃ c, cornerBy find points uvs word = .ok c) ↔
    (∃ i, find (pointToken word) points = .ok i) ∧
      ∀ token, uvToken? word = some token → ∃ i, find token uvs = .ok i := by
  unfold cornerBy
  simp only [bind_eq_ok]
  cases uvToken? word with
  | none =>
    constructor
    · rintro ⟨c, i, hi, -⟩
      exact ⟨⟨i, hi⟩, nofun⟩
    · rintro ⟨⟨i, hi⟩, -⟩
      exact ⟨_, i, hi, rfl⟩
  | some token =>
    simp only [bind_eq_ok, Option.some.injEq, forall_eq']
    constructor
    · rintro ⟨c, i, hi, j, hj, -⟩
      exact ⟨⟨i, hi⟩, j, hj⟩
    · rintro ⟨⟨i, hi⟩, j, hj⟩
      exact ⟨_, i, hi, j, hj, rfl⟩

/-- A corner fails with the first of its tokens that does. -/
private theorem cornerBy_eq_error {e : Fault} : cornerBy find points uvs word = .error e ↔
    find (pointToken word) points = .error e ∨ (∃ i, find (pointToken word) points = .ok i) ∧
      ∃ token, uvToken? word = some token ∧ find token uvs = .error e := by
  unfold cornerBy
  rw [bind_eq_error]
  cases uvToken? word with
  | none => simp [pure, Except.pure]
  | some token => simp [bind_eq_error, pure, Except.pure]

/-- A line fails with the first of its corners that does. -/
private theorem faceBy_eq_error {e : Fault} : faceBy find points uvs args = .error e ↔
    args.length < 3 ∧ e = .faceTooShort ∨ 3 ≤ args.length ∧
      ∃ front word back, args = front ++ word :: back ∧
        (∀ w ∈ front, ∃ c, cornerBy find points uvs w = .ok c) ∧
        cornerBy find points uvs word = .error e := by
  rw [← mapM_eq_error]
  unfold faceBy
  split
  · rename_i hfew
    have hnot : ¬3 ≤ args.length := by omega
    simp [hfew, hnot, eq_comm]
  · rename_i hthree
    have hle : 3 ≤ args.length := by omega
    simp [bind_eq_error, hthree, hle, pure, Except.pure]

/-- Places that are found in another way make the same face. -/
private theorem faceBy_of_find
    (hpoints : ∀ token i, find token points = .ok i → find' token points' = .ok i)
    (huvs : ∀ token i, find token uvs = .ok i → find' token uvs' = .ok i) {f : Face}
    (h : faceBy find points uvs args = .ok f) : faceBy find' points' uvs' args = .ok f := by
  -- a corner asks for places only, so it is found wherever they are
  have hcorner (word : List Char) (c : Nat × Option Nat)
      (hc : cornerBy find points uvs word = .ok c) : cornerBy find' points' uvs' word = .ok c := by
    unfold cornerBy at hc ⊢
    obtain ⟨i, hi, hc⟩ := bind_eq_ok.1 hc
    refine bind_eq_ok.2 ⟨i, hpoints _ i hi, ?_⟩
    cases htoken : uvToken? word with
    | none => rwa [htoken] at hc
    | some token =>
      rw [htoken] at hc
      obtain ⟨j, hj, hc⟩ := bind_eq_ok.1 hc
      exact bind_eq_ok.2 ⟨j, huvs _ j hj, hc⟩
  unfold faceBy at h ⊢
  split at h
  · cases h
  · rename_i hthree
    obtain ⟨corners, hcorners, hf⟩ := bind_eq_ok.1 h
    rw [if_neg hthree]
    exact bind_eq_ok.2 ⟨corners, mapM_eq_ok.2 ((mapM_eq_ok.1 hcorners).imp hcorner), hf⟩

end Corners

/-! ### Face lines -/

/-- A machine finds the place that the token means among so many. -/
def IsFound (token : List Char) (count : Nat) : Prop := ¬IsLeast token ∧ ¬IsBadIndex token count

/-- A machine finds the places that the tokens of the corner mean. -/
def IsFoundCorner (points uvs : Nat) (word : List Char) : Prop :=
  IsFound (pointToken word) points ∧ ∀ token, uvToken? word = some token → IsFound token uvs

/-- A token of the corner stands for the least integer, behind those that a machine finds. -/
def BreaksCorner (points : Nat) (word : List Char) : Prop :=
  IsLeast (pointToken word) ∨
    IsFound (pointToken word) points ∧ ∃ token, uvToken? word = some token ∧ IsLeast token

/-- A token of the face line stands for the least integer, behind those that a machine finds. -/
def ReachesLeast (points uvs : Nat) (args : Row) : Prop :=
  3 ≤ args.length ∧ ∃ front word back, args = front ++ word :: back ∧
    (∀ w ∈ front, IsFoundCorner points uvs w) ∧ BreaksCorner points word

variable {w : Nat} {o : Overflow} {points uvs count : BitVec w} {token word : List Char}
  {args : Row}

/-- No place is reported as an overflow unless the token is the least integer. -/
private theorem place_ne_overflow {n : Nat} (h : ¬IsLeast token) :
    place token n ≠ .error .overflow := by
  unfold place
  unfold IsLeast at h
  cases htoken : integer? token with
  | none => simp
  | some i =>
    have hi : i ≠ leastInteger := fun heq => h (by rw [htoken, heq])
    dsimp only
    split
    · simp [hi]
    · simp

/-- Locating a token breaks down exactly at the least integer, and with overflow checks only. -/
theorem locateToken_eq_overflow :
    locateToken o token count = .error .overflow ↔ o = .stops ∧ IsLeast token := by
  by_cases h : IsLeast token
  · rw [locateToken_of_least h]
    cases o <;> simp [h]
  · rw [locateToken_of_not_least h]
    exact iff_of_false (place_ne_overflow h) fun hboth => h hboth.2

/-- A token is located exactly if it refers to something; the way in which overflows are handled
does not matter to that. -/
theorem exists_locateToken_iff :
    (∃ i, locateToken o token count = .ok i) ↔ IsFound token count.toNat := by
  unfold IsFound
  by_cases h : IsLeast token
  · rw [locateToken_of_least h]
    simp [h]
  · rw [locateToken_of_not_least h, exists_place_iff]
    simp [h]

/-- What a machine finds is the place that the token means. -/
theorem place_of_locateToken {i : Nat} (h : locateToken o token count = .ok i) :
    place token count.toNat = .ok i := by
  have hfound := exists_locateToken_iff.1 ⟨i, h⟩
  rwa [← locateToken_of_not_least hfound.1]

/-- A corner is read exactly if each of its tokens refers to something. -/
private theorem exists_cornerBy_locateToken_iff :
    (∃ c, cornerBy (locateToken o) points uvs word = .ok c) ↔
      IsFoundCorner points.toNat uvs.toNat word := by
  simp only [exists_cornerBy_iff, exists_locateToken_iff, IsFoundCorner]

/-- Reading a corner breaks down if one of its tokens does, and the point comes first. -/
private theorem cornerBy_eq_overflow : cornerBy (locateToken o) points uvs word = .error .overflow ↔
    o = .stops ∧ BreaksCorner points.toNat word := by
  simp only [cornerBy_eq_error, locateToken_eq_overflow, exists_locateToken_iff, BreaksCorner]
  grind

/-- The program breaks down over a face line exactly on a machine that looks at its results, if the
line reaches the least integer. -/
theorem faceBy_eq_overflow : faceBy (locateToken o) points uvs args = .error .overflow ↔
    o = .stops ∧ ReachesLeast points.toNat uvs.toNat args := by
  simp only [faceBy_eq_error, cornerBy_eq_overflow, exists_cornerBy_locateToken_iff, ReachesLeast]
  grind

/-- The corner that is read without regard to overflows is one of the same reader. -/
private theorem corner_eq_cornerBy (points uvs : Nat) (word : List Char) :
    corner points uvs word = cornerBy place points uvs word := by
  unfold corner
  rw [cornerTokens_eq]
  rfl

/-- The program finds places in its own way. -/
private theorem step_face_eq (m : Mesh Single) (args : Row) : step m (['f'] :: args) =
    (faceBy place m.positions.size m.uvs.size args).map
      fun f => { m with faces := m.faces.push f } := by
  have hcorner : corner m.positions.size m.uvs.size = cornerBy place m.positions.size m.uvs.size :=
    funext (corner_eq_cornerBy _ _)
  show (if args.length < 3 then _ else _) = _
  unfold faceBy face
  rw [hcorner]
  split
  · rfl
  · cases args.mapM (cornerBy place m.positions.size m.uvs.size) <;> rfl

/-- The face that a machine makes of a line is that of its corners. -/
private theorem isFace_of_faceBy {f : Face} (h : faceBy (locateToken o) points uvs args = .ok f) :
    IsFace points.toNat uvs.toNat args f := by
  have hplace :=
    faceBy_of_find (fun _ _ => place_of_locateToken) (fun _ _ => place_of_locateToken) h
  unfold faceBy at hplace
  split at hplace
  · cases hplace
  · rename_i hthree
    refine isFace_of_face (Nat.not_lt.1 hthree) ?_
    unfold face
    rwa [funext (corner_eq_cornerBy _ _)]

/-- A face line gives a face, with places in range, or an error. -/
def IsSettled (o : Overflow) (points uvs : BitVec w) (args : Row) : Prop :=
  (∃ f, faceBy (locateToken o) points uvs args = .ok f ∧ IsFace points.toNat uvs.toNat args f) ∨
    ∃ e, e ≠ .overflow ∧ faceBy (locateToken o) points uvs args = .error e

/-- A face is settled one way or the other unless the checks meet the least integer. -/
theorem isSettled_iff : IsSettled o points uvs args ↔
    ¬(o = .stops ∧ ReachesLeast points.toNat uvs.toNat args) := by
  rw [← faceBy_eq_overflow]
  constructor
  · rintro (⟨f, hf, -⟩ | ⟨e, hne, he⟩) hover
    · rw [hover] at hf
      cases hf
    · rw [hover] at he
      exact hne (Except.error.inj he).symm
  · intro h
    cases hface : faceBy (locateToken o) points uvs args with
    | ok f => exact .inl ⟨f, hface, isFace_of_faceBy hface⟩
    | error e =>
      refine .inr ⟨e, ?_, hface⟩
      rintro rfl
      exact h hface

/-! ### Texts -/

variable {m m' : Mesh Single}

/-- A count below the bound is the same number as a word. -/
private theorem toNat_ofNat {n : Nat} (h : n < leastInteger.natAbs) :
    (BitVec.ofNat 64 n).toNat = n := by
  rw [BitVec.toNat_ofNat]
  apply Nat.mod_eq_of_lt
  unfold leastInteger at h
  omega

/-- No list is as long as the least integer counts back, so the program finds the places of a
machine that looks at its results. -/
private theorem place_eq_locateToken {n : Nat} (h : n < leastInteger.natAbs) (token : List Char) :
    place token n = locateToken .stops token (BitVec.ofNat 64 n) := by
  by_cases hleast : IsLeast token
  · have hnone : resolve? leastInteger n = none := resolve?_eq_none.2 (.inr h)
    rw [locateToken_of_least hleast]
    unfold place
    rw [hleast]
    dsimp only
    rw [hnone, if_pos rfl]
  · rw [locateToken_of_not_least hleast, toNat_ofNat h]

/-- With counts that fit into words, both readers of a face agree, overflow included. -/
private theorem faceBy_place {n k : Nat} (hn : n < leastInteger.natAbs)
    (hk : k < leastInteger.natAbs) (args : Row) : faceBy place n k args =
      faceBy (locateToken .stops) (BitVec.ofNat 64 n) (BitVec.ofNat 64 k) args := by
  have hcorner : cornerBy place n k =
      cornerBy (locateToken .stops) (BitVec.ofNat 64 n) (BitVec.ofNat 64 k) := by
    funext word
    unfold cornerBy
    simp only [place_eq_locateToken hn, place_eq_locateToken hk]
  unfold faceBy
  rw [hcorner]

/-- A number that cannot be read is no overflow. -/
private theorem number_fails (c : Component) (token : List Char) :
    FailsWith (· ≠ .overflow) (number c token) := by
  unfold number
  split
  · exact .ok _
  · exact .error nofun

/-- A line with a point does not overflow. -/
private theorem step_point_fails (m : Mesh Single) (args : Row) :
    FailsWith (· ≠ .overflow) (step m (['v'] :: args)) := by
  match args with
  | [] | [_] | [_, _] => exact .error nofun
  | x :: y :: z :: _ =>
    exact (number_fails _ x).bind fun _ => (number_fails _ y).bind fun _ =>
      (number_fails _ z).bind fun _ => .ok _

/-- A line with texture coordinates does not overflow. -/
private theorem step_uv_fails (m : Mesh Single) (args : Row) :
    FailsWith (· ≠ .overflow) (step m (['v', 't'] :: args)) := by
  match args with
  | [] | [_] => exact .error nofun
  | u :: v :: _ =>
    exact (number_fails _ u).bind fun _ => (number_fails _ v).bind fun _ => .ok _

/-- Only face lines break the program down. -/
private theorem step_eq_overflow {row : Row} (hpoints : m.positions.size < leastInteger.natAbs)
    (huvs : m.uvs.size < leastInteger.natAbs) : step m row = .error .overflow ↔
      ∃ args, row = ['f'] :: args ∧ ReachesLeast m.positions.size m.uvs.size args := by
  rcases row_cases row with ⟨args, rfl⟩ | ⟨args, rfl⟩ | ⟨args, rfl⟩ | ⟨hstep, -, -, hface⟩
  · exact iff_of_false (fun h => step_point_fails m args _ h rfl) (by simp)
  · exact iff_of_false (fun h => step_uv_fails m args _ h rfl) (by simp)
  · have hmap : step m (['f'] :: args) = .error .overflow ↔
        faceBy place m.positions.size m.uvs.size args = .error .overflow := by
      rw [step_face_eq]
      cases faceBy place m.positions.size m.uvs.size args <;> simp [Except.map]
    rw [hmap, faceBy_place hpoints huvs, faceBy_eq_overflow, toNat_ofNat hpoints,
      toNat_ofNat huvs]
    simp
  · refine iff_of_false ?_ ?_
    · rw [hstep]
      nofun
    · rintro ⟨args, rfl, -⟩
      cases hface

/-- Reading fails at the first line that cannot be read. -/
private theorem readLines_eq_error {n : Nat} {lines : List (List Char)} {e : Error} :
    readLines m n (lines.map .ok) = .error e ↔ ∃ front line back, lines = front ++ line :: back ∧
      ∃ m' fault, readLines m n (front.map .ok) = .ok m' ∧
        step m' (Text.words line) = .error fault ∧ e = .line (n + front.length) fault := by
  induction lines generalizing m n with
  | nil => simp [readLines]
  | cons line lines ih =>
    rw [exists_split_cons]
    simp only [List.map_cons, List.map_nil, readLines]
    cases hstep : step m (Text.words line) with
    | error fault => simp [hstep, eq_comm]
    | ok next =>
      have hnumber (front : List (List Char)) :
          n + (line :: front).length = n + 1 + front.length := by
        rw [List.length_cons]
        omega
      simp only [ih, hnumber]
      simp [hstep]

/-- A face line reaches the least integer, and no line before it has a fault. -/
def BreaksDown (rows : List Row) : Prop :=
  ∃ before args after, rows = before ++ (['f'] :: args) :: after ∧
    (∀ front row back, before = front ++ row :: back →
      ¬IsMalformed (linesOf ['v'] front).length (linesOf ['v', 't'] front).length row) ∧
    ReachesLeast (linesOf ['v'] before).length (linesOf ['v', 't'] before).length args

/-- A text fails at a line exactly if the reader of lines does. -/
private theorem ofText_eq_line_iff {text : String} {n : Nat} {fault : Fault} :
    ofText text = .error (.line n fault) ↔
      readLines .empty 1 ((Text.lines text.toList).map .ok) = .error (.line n fault) := by
  rw [ofText_eq, bind_eq_error, or_iff_left]
  rintro ⟨m, -, hfaces⟩
  split at hfaces <;> cases hfaces

/-- The lines before a face line are fewer than the least integer counts back. -/
private theorem step_eq_overflow_of_describes {before : List Row} (h : Describes before m)
    (hlength : before.length < leastInteger.natAbs) {row : Row} : step m row = .error .overflow ↔
      ∃ args, row = ['f'] :: args ∧
        ReachesLeast (linesOf ['v'] before).length (linesOf ['v', 't'] before).length args := by
  have hle (word : List Char) : (linesOf word before).length ≤ before.length :=
    List.length_filterMap_le _ _
  rw [← h.size_positions, ← h.size_uvs]
  refine step_eq_overflow ?_ ?_
  · rw [h.size_positions]
    exact Nat.lt_of_le_of_lt (hle _) hlength
  · rw [h.size_uvs]
    exact Nat.lt_of_le_of_lt (hle _) hlength

/-- The program breaks down exactly over the texts in which a face line reaches the least
integer. -/
theorem exists_ofText_overflow_iff {text : String} (h : (rows text).length < leastInteger.natAbs) :
    (∃ n, ofText text = .error (.line n .overflow)) ↔ BreaksDown (rows text) := by
  simp only [ofText_eq_line_iff, readLines_eq_error]
  constructor
  · rintro ⟨n, front, line, back, hlines, m, fault, hread, hstep, heq⟩
    cases heq
    have hrows : rows text = front.map Text.words ++ Text.words line :: back.map Text.words := by
      rw [rows, hlines, List.map_append, List.map_cons]
    have hlength : (front.map Text.words).length < leastInteger.natAbs := by
      rw [hrows, List.length_append] at h
      omega
    have hdescribes : Describes (front.map Text.words) m := Describes.nil.readLines hread
    -- the mesh so far has no more points than there are lines before
    obtain ⟨args, hline, hleast⟩ := (step_eq_overflow_of_describes hdescribes hlength).1 hstep
    have hsound := Describes.nil.exists_readLines_iff.1 ⟨m, hread⟩
    simp only [List.nil_append] at hsound
    exact ⟨_, args, _, hline ▸ hrows, hsound, hleast⟩
  · rintro ⟨before, args, after, hrows, hsound, hleast⟩
    obtain ⟨front, rest, hlines, rfl, hrest⟩ := List.map_eq_append_iff.1 hrows
    obtain ⟨line, back, rfl, hline, -⟩ := List.map_eq_cons_iff.1 hrest
    have hlength : (front.map Text.words).length < leastInteger.natAbs := by
      rw [hrows, List.length_append] at h
      omega
    have hreadable : (∃ m, readLines .empty 1 (front.map .ok) = .ok m) ↔ _ :=
      Describes.nil.exists_readLines_iff
    simp only [List.nil_append] at hreadable
    -- sound lines are read, so the reader comes to the line that breaks it
    obtain ⟨m, hread⟩ := hreadable.2 hsound
    have hdescribes : Describes (front.map Text.words) m := Describes.nil.readLines hread
    exact ⟨_, front, line, back, hlines, m, .overflow, hread,
      (step_eq_overflow_of_describes hdescribes hlength).2 ⟨args, hline, hleast⟩, rfl⟩

/-- No operation on an index leaves its type unless the index is the least integer.  So each face
line gives a face, with places in range, or an error, on a machine that lets results go around, and
also on one that looks at them if the line does not reach the least integer.  Over the texts with a
line that does, and over no others, the program breaks down. -/
theorem overflows_only_least (o : Overflow) (index : Int64) (count points uvs : BitVec w)
    (args : Row) (text : String) (h : (rows text).length < leastInteger.natAbs) :
    (IsExact index count ↔ index ≠ Int64.minValue) ∧
    (IsSettled o points uvs args ↔ ¬(o = .stops ∧ ReachesLeast points.toNat uvs.toNat args)) ∧
    ((∃ n, ofText text = .error (.line n .overflow)) ↔ BreaksDown (rows text)) :=
  ⟨isExact_iff, isSettled_iff, exists_ofText_overflow_iff h⟩

/-- A triangle whose last corner counts back by the least integer. -/
def leastTriangle : String := "v 0 0 0\nv 1 0 0\nv 0 1 0\nf 1 2 -9223372036854775808\n"

/-- The words of its face line behind the first one. -/
def leastCorners : Row := [['1'], ['2'], "-9223372036854775808".toList]

/-- A triangle with the least integer for an index: without overflow checks its face is settled,
with them the reading breaks down. -/
theorem breaksDown_leastTriangle : (rows leastTriangle).length < leastInteger.natAbs ∧
    IsExact 3 (3 : BitVec 64) ∧ IsSettled .wraps (3 : BitVec 64) 0 leastCorners ∧
    BreaksDown (rows leastTriangle) := by
  have hlength : (rows leastTriangle).length < leastInteger.natAbs := by decide +kernel
  have hread : ofText leastTriangle = .error (.line 4 .overflow) := by decide +kernel
  obtain ⟨hexact, hsettled, hbreaks⟩ :=
    overflows_only_least .wraps 3 (3 : BitVec 64) 3 0 leastCorners leastTriangle hlength
  exact ⟨hlength, hexact.2 (by decide), hsettled.2 nofun, hbreaks.1 ⟨4, hread⟩⟩

/-- Neither does each operation stay in its type, nor does the face line of the triangle give a face
or an error on every machine, nor does the program. -/
theorem not_isSettled_leastTriangle :
    ¬IsExact Int64.minValue (3 : BitVec 64) ∧ ¬(∀ o, IsSettled o (3 : BitVec 64) 0 leastCorners) ∧
    ofText leastTriangle = .error (.line 4 .overflow) := by
  refine ⟨fun h => isExact_iff.1 h rfl, fun h => ?_, by decide +kernel⟩
  have hover : faceBy (locateToken .stops) (3 : BitVec 64) 0 leastCorners = .error .overflow := by
    decide +kernel
  exact isSettled_iff.1 (h .stops) (faceBy_eq_overflow.1 hover)

end Scenery.Wavefront
