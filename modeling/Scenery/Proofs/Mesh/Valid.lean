import Scenery.Mesh.FaceGeometry

/-!
# Valid meshes

A mesh is valid if its faces refer only to points and texture coordinates that it has.  So in a valid
mesh every face with three vertices has a geometry.

* `Mesh.validate_eq_ok`        what a valid mesh is
* `Mesh.exists_faceGeometry`   the faces that have a geometry
-/

namespace Scenery

/-- The indices of a face lie in range, and it has no texture coordinates or one for each vertex. -/
def Face.IsWithin (f : Face) (positions uvs : Nat) : Prop :=
  (∀ i ∈ f.positions, i < positions) ∧
    (f.uvs = [] ∨ f.uvs.length = f.positions.length ∧ ∀ i ∈ f.uvs, i < uvs)

/-- A face without a fault is one whose indices are all in range. -/
theorem Face.fault?_eq_none {f : Face} {n positions uvs : Nat} :
    f.fault? n positions uvs = none ↔ f.IsWithin positions uvs := by
  unfold fault? IsWithin
  -- the positions are looked at first, and the texture coordinates only if all of them are there
  cases hfind : f.positions.find? (positions ≤ ·) with
  | some i =>
    have hi := List.find?_some hfind
    have hmem := List.mem_of_find?_eq_some hfind
    simp only [reduceCtorEq, false_iff, not_and]
    intro hall
    have hlt := hall i hmem
    rw [decide_eq_true_eq] at hi
    omega
  | none =>
    -- what is left is a check of the texture coordinates
    have hall : ∀ i ∈ f.positions, i < positions := by
      simpa using hfind
    simp only [List.isEmpty_iff]
    constructor
    · intro h
      refine ⟨hall, ?_⟩
      split at h
      · rename_i hempty
        exact .inl hempty
      split at h
      · cases h
      · rename_i hlen
        right
        refine ⟨Decidable.not_not.1 hlen, ?_⟩
        simpa using h
    · intro h
      split
      · rfl
      · rename_i hempty
        obtain ⟨hlen, huvs⟩ := h.2.resolve_left hempty
        rw [if_neg (Decidable.not_not.2 hlen)]
        simpa using huvs

namespace Mesh

variable {α : Type} {m : Mesh α}

/-- There is no first fault exactly if no face has one. -/
private theorem firstFault?_eq_none {positions uvs n : Nat} {fs : List Face} :
    firstFault? positions uvs n fs = none ↔ ∀ f ∈ fs, f.IsWithin positions uvs := by
  induction fs generalizing n with
  | nil => simp [firstFault?]
  | cons f fs ih =>
    rw [firstFault?, Option.or_eq_none_iff, Face.fault?_eq_none, ih, List.forall_mem_cons]

/-- A mesh is valid exactly if all its faces are within it. -/
theorem validate_eq_ok :
    m.validate = .ok () ↔ ∀ f ∈ m.faces, f.IsWithin m.positions.size m.uvs.size := by
  have hfault : m.fault? = none ↔ ∀ f ∈ m.faces, f.IsWithin m.positions.size m.uvs.size := by
    unfold fault?
    rw [firstFault?_eq_none]
    simp only [Array.mem_toList_iff]
  rw [← hfault]
  unfold validate
  cases m.fault? <;> simp

/-- The points of a face within a mesh are there. -/
private theorem exists_facePoints {f : Face} (hf : f.IsWithin m.positions.size m.uvs.size) (n : Nat) :
    ∃ points, m.facePoints n f = .ok points := by
  have hall := hf.1
  unfold facePoints
  -- along the indices, each one finds its point
  generalize f.positions = indices at hall ⊢
  induction indices with
  | nil => exact ⟨[], rfl⟩
  | cons i indices ih =>
    rw [List.forall_mem_cons] at hall
    obtain ⟨points, hpoints⟩ := ih hall.2
    have hi : m.positions[i]? = some m.positions[i] := Array.getElem?_eq_getElem hall.1
    refine ⟨m.positions[i] :: points, ?_⟩
    rw [List.mapM_cons, hi, hpoints]
    rfl

/-! ### Faces with three vertices -/

/-- How many faces there are before the first one with fewer than three vertices. -/
def leadingPolygons (m : Mesh α) : Nat :=
  (m.faces.toList.takeWhile fun f => 3 ≤ f.positions.length).length

theorem leadingPolygons_le (m : Mesh α) : m.leadingPolygons ≤ m.faceCount :=
  (List.takeWhile_sublist _).length_le

/-- The leading polygons end at the first face with fewer than three vertices. -/
private theorem leadingPolygons_eq_findIdx (m : Mesh α) :
    m.leadingPolygons = m.faces.toList.findIdx fun f => !decide (3 ≤ f.positions.length) := by
  have hle : m.faces.toList.findIdx (fun f => !decide (3 ≤ f.positions.length)) ≤
      m.faces.toList.length := List.findIdx_le_length
  rw [leadingPolygons, List.takeWhile_eq_take_findIdx_not, List.length_take]
  exact Nat.min_eq_left hle

/-- The leading faces have at least three vertices. -/
theorem three_le_of_lt_leadingPolygons {n : Nat} (h : n < m.leadingPolygons) :
    ∃ f, m.faces[n]? = some f ∧ 3 ≤ f.positions.length := by
  have hn : n < m.faces.size := Nat.lt_of_lt_of_le h m.leadingPolygons_le
  rw [leadingPolygons_eq_findIdx] at h
  have hface := List.not_of_lt_findIdx h
  refine ⟨m.faces[n], Array.getElem?_eq_getElem hn, ?_⟩
  simpa using hface

/-- The face behind the leading ones has fewer. -/
theorem lt_three_of_leadingPolygons (h : m.leadingPolygons < m.faceCount) :
    ∃ f, m.faces[m.leadingPolygons]? = some f ∧ f.positions.length < 3 := by
  refine ⟨m.faces[m.leadingPolygons], Array.getElem?_eq_getElem h, ?_⟩
  have hidx := leadingPolygons_eq_findIdx m
  have hlt : m.faces.toList.findIdx (fun f => !decide (3 ≤ f.positions.length)) <
      m.faces.toList.length := by
    rw [← hidx]
    exact h
  have hface := List.findIdx_getElem (w := hlt)
  simp only [← hidx, Array.getElem_toList, Bool.not_eq_true', decide_eq_false_iff_not] at hface
  exact Nat.not_le.1 hface

variable [Scalar α]

/-- In a valid mesh a face with three vertices has a geometry. -/
theorem exists_faceGeometry (hm : m.validate = .ok ()) {n : Nat} {f : Face} (hf : m.faces[n]? = some f)
    (hthree : 3 ≤ f.positions.length) : ∃ g, m.faceGeometry n = .ok g := by
  have hwithin := validate_eq_ok.1 hm f (Array.mem_of_getElem? hf)
  obtain ⟨points, hpoints⟩ := exists_facePoints hwithin n
  unfold faceGeometry
  rw [hf]
  simp only [if_neg (Nat.not_lt.2 hthree), hpoints]
  exact ⟨_, rfl⟩

/-- A face with fewer vertices has none. -/
theorem faceGeometry_of_lt {n : Nat} {f : Face} (hf : m.faces[n]? = some f)
    (hfew : f.positions.length < 3) :
    m.faceGeometry n = .error (.tooFewVertices n f.positions.length) := by
  unfold faceGeometry
  rw [hf]
  simp only [if_pos hfew]

end Mesh

end Scenery
