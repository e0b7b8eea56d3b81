import Mathlib.Data.List.Forall2
import Scenery.Mesh.Wavefront
import Scenery.Proofs.Except
import Scenery.Proofs.Mesh.Valid

/-!
# Corners of faces

What the tokens of a face line mean.  The parts of a corner stand between slashes: the first one is the
index of its point and the second one, if it is not empty, that of its texture coordinate.  An index
counts from one, or back from the last.

* `place_eq_ok`      the place that an index token means
* `corner_eq_ok`     a corner, by its parts
* `isFace_of_face`   the face of some corners
* `exists_face_iff`  the corners that make a face
-/

namespace Scenery.Wavefront

/-! ### Indices -/

/-- The token means place `i` among so many: the `k`-th place for `k`, and the `k`-th from the end for
`-k`. -/
def Refers (token : List Char) (count i : Nat) : Prop :=
  i < count ∧ ∃ k, integer? token = some k ∧ (0 < k ∧ (i : Int) = k - 1 ∨ k < 0 ∧ (i : Int) = count + k)

/-- The token means no place among so many: it is no integer, or zero, or leads too far. -/
def IsBadIndex (token : List Char) (count : Nat) : Prop :=
  integer? token = none ∨ ∃ k, integer? token = some k ∧ (k = 0 ∨ count < k.natAbs)

/-- The place before the `k`-th for `k`, and the `k`-th from the end for `-k`, if there is one. -/
theorem resolve?_eq_some {k : Int} {count i : Nat} : resolve? k count = some i ↔
    i < count ∧ (0 < k ∧ (i : Int) = k - 1 ∨ k < 0 ∧ (i : Int) = count + k) := by
  unfold resolve?
  dsimp only
  split
  · split
    · rw [Option.some.injEq]
      omega
    · simp only [reduceCtorEq, false_iff]
      omega
  · split
    · rw [Option.some.injEq]
      omega
    · simp only [reduceCtorEq, false_iff]
      omega

/-- Zero means no place, and what leads too far means none either. -/
theorem resolve?_eq_none {k : Int} {count : Nat} :
    resolve? k count = none ↔ k = 0 ∨ count < k.natAbs := by
  unfold resolve?
  dsimp only
  split <;> split <;> simp only [reduceCtorEq, false_iff, true_iff] <;> omega

/-- A token is placed exactly if it refers to one of the elements: forward from one, or back from
the end. -/
theorem place_eq_ok {token : List Char} {count i : Nat} :
    place token count = .ok i ↔ Refers token count i := by
  unfold place Refers
  cases integer? token with
  | none => simp
  | some k =>
    simp only [Option.some.injEq, exists_eq_left', ← resolve?_eq_some]
    cases resolve? k count <;> simp

/-- Every token that is not bad means a place. -/
theorem exists_place_iff {token : List Char} {count : Nat} :
    (∃ i, place token count = .ok i) ↔ ¬IsBadIndex token count := by
  unfold place IsBadIndex
  cases integer? token with
  | none => simp
  | some k =>
    simp only [reduceCtorEq, false_or, Option.some.injEq, exists_eq_left', ← resolve?_eq_none]
    cases resolve? k count <;> simp

/-! ### Parts of corners -/

/-- The token for the point of a corner. -/
def pointToken (word : List Char) : List Char := (word.splitOn '/').headD []

/-- The token for the texture coordinate of a corner, if it names one. -/
def uvToken? (word : List Char) : Option (List Char) := ((word.splitOn '/')[1]?).filter (· ≠ [])

/-- A word without a slash is its only part. -/
private theorem splitOn_of_notMem {word : List Char} (h : '/' ∉ word) : word.splitOn '/' = [word] := by
  induction word with
  | nil => rfl
  | cons c word ih =>
    rw [List.mem_cons, not_or] at h
    have hc : (c == '/') = false := beq_false_of_ne (Ne.symm h.1)
    rw [List.splitOn_cons_eq_if_modifyHead, ih h.2, hc]
    rfl

/-- A word is split at its first slash. -/
private theorem splitOn_append_slash {front : List Char} (h : '/' ∉ front) (rest : List Char) :
    (front ++ '/' :: rest).splitOn '/' = front :: rest.splitOn '/' := by
  rw [List.splitOn_append_cons_self, splitOn_of_notMem h]
  rfl

/-- What stands before the first slash may be read in two pieces. -/
private theorem takeWhile_of_notMem {front : List Char} (h : '/' ∉ front) (rest : List Char) :
    (front ++ rest).takeWhile (· ≠ '/') = front ++ rest.takeWhile (· ≠ '/') := by
  apply List.takeWhile_append_of_pos
  intro c hc
  exact decide_eq_true fun heq => h (heq ▸ hc)

/-- The first part is what stands before the first slash. -/
private theorem head?_splitOn (word : List Char) :
    (word.splitOn '/').head? = some (word.takeWhile (· ≠ '/')) := by
  by_cases h : '/' ∈ word
  · obtain ⟨front, rest, rfl, hfront⟩ := List.eq_append_cons_of_mem h
    rw [splitOn_append_slash hfront, takeWhile_of_notMem hfront]
    simp
  · have htake := takeWhile_of_notMem h []
    rw [List.append_nil] at htake
    rw [splitOn_of_notMem h, htake]
    simp

/-- A corner is looked at in its first two parts. -/
theorem cornerTokens_eq (word : List Char) : cornerTokens word = (pointToken word, uvToken? word) := by
  have hfilter (part : List Char) :
      (if part.isEmpty then none else some part) = (some part).filter (· ≠ []) := by
    cases part <;> rfl
  have hpoint : pointToken word = word.takeWhile (· ≠ '/') := by
    rw [pointToken, List.headD_eq_head?_getD, head?_splitOn]
    rfl
  unfold cornerTokens uvToken?
  rw [hpoint]
  -- the second part starts behind the first slash, if there is one
  by_cases h : '/' ∈ word
  · obtain ⟨front, rest, rfl, hfront⟩ := List.eq_append_cons_of_mem h
    have hdrop : (front ++ '/' :: rest).drop (front.length + 1) = rest := by simp
    rw [takeWhile_of_notMem hfront, splitOn_append_slash hfront, List.getElem?_cons_succ,
      ← List.head?_eq_getElem?, head?_splitOn, ← hfilter]
    simp only [ne_eq, not_true_eq_false, decide_false, Bool.false_eq_true, not_false_eq_true,
      List.takeWhile_cons_of_neg, List.append_nil, hdrop]
  · have htake := takeWhile_of_notMem h []
    rw [List.append_nil] at htake
    have hdrop : word.drop (word.length + 1) = [] := List.drop_of_length_le (Nat.le_succ _)
    rw [htake, splitOn_of_notMem h]
    simp [hdrop]

/-! ### Faces -/

variable {points uvs : Nat}

/-- A corner is read as a point, and as texture coordinates if the word has a second part that is
not empty. -/
theorem corner_eq_ok {word : List Char} {p : Nat} {q : Option Nat} :
    corner points uvs word = .ok (p, q) ↔ Refers (pointToken word) points p ∧
      match uvToken? word with
      | none => q = none
      | some token => ∃ i, Refers token uvs i ∧ q = some i := by
  unfold corner
  rw [cornerTokens_eq]
  simp only [bind_eq_ok, place_eq_ok]
  -- without a second token there is nothing else to look up
  cases uvToken? word with
  | none =>
    constructor
    · rintro ⟨i, hi, ⟨⟩⟩
      exact ⟨hi, rfl⟩
    · rintro ⟨hi, rfl⟩
      exact ⟨p, hi, rfl⟩
  | some token =>
    simp only [bind_eq_ok, place_eq_ok]
    constructor
    · rintro ⟨i, hi, j, hj, ⟨⟩⟩
      exact ⟨hi, j, hj, rfl⟩
    · rintro ⟨hi, j, hj, rfl⟩
      exact ⟨p, hi, j, hj, rfl⟩

/-- A corner can be read if both of its tokens, the second one as far as it is there, mean places. -/
private theorem exists_corner_iff {word : List Char} :
    (∃ c, corner points uvs word = .ok c) ↔ ¬IsBadIndex (pointToken word) points ∧
      ∀ token, uvToken? word = some token → ¬IsBadIndex token uvs := by
  simp only [← exists_place_iff, place_eq_ok, Prod.exists, corner_eq_ok]
  cases uvToken? word with
  | none => simp
  | some token =>
    simp only [Option.some.injEq, forall_eq']
    constructor
    · rintro ⟨i, _, hi, j, hj, rfl⟩
      exact ⟨⟨i, hi⟩, j, hj⟩
    · rintro ⟨⟨i, hi⟩, j, hj⟩
      exact ⟨i, some j, hi, j, hj, rfl⟩

/-- The face of three or more corners: it has the point of each of them, and the texture coordinate of each if
all of them name one. -/
structure IsFace (points uvs : Nat) (corners : List (List Char)) (f : Face) : Prop where
  three_le : 3 ≤ corners.length
  positions : List.Forall₂ (fun word i => Refers (pointToken word) points i) corners f.positions
  uvs : (∀ word ∈ corners, uvToken? word ≠ none) →
    List.Forall₂ (fun word i => ∃ token, uvToken? word = some token ∧ Refers token uvs i) corners f.uvs
  noUvs : (∃ word ∈ corners, uvToken? word = none) → f.uvs = []

variable {words : List (List Char)} {corners : List (Nat × Option Nat)} {f : Face}

/-- A corner has texture coordinates exactly if its word names some. -/
private theorem isSome_snd_iff {word : List Char} {c : Nat × Option Nat}
    (hc : corner points uvs word = .ok c) : c.2.isSome = true ↔ uvToken? word ≠ none := by
  have huv := (corner_eq_ok.1 hc).2
  cases htoken : uvToken? word with
  | none => simp_all
  | some token =>
    rw [htoken] at huv
    obtain ⟨i, -, hi⟩ := huv
    simp [hi]

/-- All corners have texture coordinates exactly if all words name some. -/
private theorem forall_isSome_iff
    (h : List.Forall₂ (fun word c => corner points uvs word = .ok c) words corners) :
    (∀ c ∈ corners, c.2.isSome = true) ↔ ∀ word ∈ words, uvToken? word ≠ none := by
  induction h with
  | nil => simp
  | cons hc _ ih => rw [List.forall_mem_cons, List.forall_mem_cons, isSome_snd_iff hc, ih]

/-- If all corners have a texture coordinate, these are the coordinates in the order of the corners. -/
private theorem forall₂_filterMap
    (h : List.Forall₂ (fun word c => corner points uvs word = .ok c) words corners)
    (hall : ∀ word ∈ words, uvToken? word ≠ none) :
    List.Forall₂ (fun word i => ∃ token, uvToken? word = some token ∧ Refers token uvs i) words
      (corners.filterMap Prod.snd) := by
  induction h with
  | nil => exact .nil
  | @cons word c words corners hc _ ih =>
    obtain ⟨hword, hwords⟩ := List.forall_mem_cons.1 hall
    obtain ⟨token, htoken⟩ := Option.ne_none_iff_exists'.1 hword
    have huv := (corner_eq_ok.1 hc).2
    rw [htoken] at huv
    obtain ⟨i, hi, hsnd⟩ := huv
    rw [List.filterMap_cons_some hsnd]
    exact .cons ⟨token, htoken, hi⟩ (ih hwords)

/-- A face that was read is the one that the words of its line describe. -/
theorem isFace_of_face (hthree : 3 ≤ words.length) (hf : face points uvs words = .ok f) :
    IsFace points uvs words f := by
  unfold face at hf
  obtain ⟨corners, hcorners, ⟨⟩⟩ := bind_eq_ok.1 hf
  rw [mapM_eq_ok] at hcorners
  -- the texture coordinates are kept if there are as many as corners
  have hcount := List.filterMap_length_eq_length (f := Prod.snd) (l := corners)
  constructor
  case three_le => exact hthree
  case positions =>
    rw [List.forall₂_map_right_iff]
    exact hcorners.imp fun word c hc => (corner_eq_ok.1 hc).1
  case uvs =>
    intro hall
    rw [if_pos (hcount.2 ((forall_isSome_iff hcorners).2 hall))]
    exact forall₂_filterMap hcorners hall
  -- with one corner lacking them, there are fewer than corners
  case noUvs =>
    rintro ⟨word, hword, hnone⟩
    refine if_neg fun heq => ?_
    exact (forall_isSome_iff hcorners).1 (hcount.1 heq) word hword hnone

/-- The indices of a face are in range. -/
theorem IsFace.isWithin (h : IsFace points uvs words f) : f.IsWithin points uvs := by
  constructor
  · intro i hi
    obtain ⟨word, hword⟩ := exists_forall₂.1 ⟨_, h.positions.flip⟩ i hi
    exact hword.1
  · by_cases hall : ∀ word ∈ words, uvToken? word ≠ none
    · right
      have huvs := h.uvs hall
      refine ⟨by rw [← huvs.length_eq, ← h.positions.length_eq], ?_⟩
      intro i hi
      obtain ⟨word, token, -, htoken⟩ := exists_forall₂.1 ⟨_, huvs.flip⟩ i hi
      exact htoken.1
    · left
      apply h.noUvs
      simpa using hall

/-- A face can be read if all of its corners can. -/
theorem exists_face_iff : (∃ f, face points uvs words = .ok f) ↔ ∀ word ∈ words,
    ¬IsBadIndex (pointToken word) points ∧
      ∀ token, uvToken? word = some token → ¬IsBadIndex token uvs := by
  unfold face
  simp only [← exists_corner_iff, ← exists_forall₂, bind_eq_ok, mapM_eq_ok]
  constructor
  · rintro ⟨f, corners, hcorners, -⟩
    exact ⟨corners, hcorners⟩
  · rintro ⟨corners, hcorners⟩
    exact ⟨_, corners, hcorners, rfl⟩

end Scenery.Wavefront
