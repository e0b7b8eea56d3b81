import Scenery.Mesh.FaceGeometry
import Scenery.Proofs.Except
import Scenery.Proofs.Mesh.Valid

/-!
# Queries of faces

The geometry of a face is asked for on any mesh, valid or not.  It looks at the first, the second and
the last corner, and where there are texture coordinates, at those of the same corners.  Written with
indexings that may find nothing, it still gives the same result: it never looks for a corner that is
not there.  Texture coordinates cannot make it fail, and those of no use count as none.

* `Mesh.indexedGeometry?`         the geometry of a face, by indexings that may find nothing
* `Mesh.exists_faceGeometry_iff`  the faces that have a geometry
* `Mesh.HasUselessUvs`            the texture coordinates that count as none
* `Mesh.answers_faceGeometry`     what a query of a face gives, on any mesh
-/

namespace Scenery

variable {α : Type} [Scalar α]

/-! ### Indexings -/

namespace Polygon

/-- The vector area, seen from the first corner, if there is one. -/
def indexedArea? (points : List (Vec3 α)) : Option (Vec3 α) := do
  let origin ← points[0]?
  let next := points.drop 1 ++ points.take 1
  return Vec3.sum ((points.zip next).map fun (a, b) => (a - origin).cross (b - origin)) *
    (Scalar.half : α)

/-- The frame of the texture coordinates of so many corners, if the first, the second and the last
corner have some. -/
def indexedFrame? (count : Nat) (edgeNext edgeLast : Vec3 α) (uvs : List (Vec2 α)) :
    Option (Option (Vec3 α × Vec3 α)) := do
  let first ← uvs[0]?
  let second ← uvs[1]?
  let last ← uvs[count - 1]?
  return uvFrame? edgeNext edgeLast (second - first) (last - first)

/-- The geometry of a polygon, if every corner that is looked at is there. -/
def indexedGeometry? (points : List (Vec3 α)) (uvs : Option (List (Vec2 α))) :
    Option (FaceGeometry α) := do
  let origin ← points[0]?
  let area ← indexedArea? points
  let normal := (area.unit? leastLength).getD 0
  let second ← points[1]?
  let last ← points[points.length - 1]?
  let frame ← match uvs with
    | none => some none
    | some uvs => indexedFrame? points.length (second - origin) (last - origin) uvs
  let (tangent, handedness) := tangentFrame (second - origin) normal frame
  return { area := area.norm
           centroid := Vec3.sum points / (Scalar.ofNat points.length : α)
           normal
           tangent
           binormal := normal.cross tangent * handedness }

/-- Texture coordinates that hardly change count as none. -/
theorem geometry_of_unchanging (points : List (Vec3 α)) {us : List (Vec2 α)} {a b c : Vec2 α}
    (ha : us.head? = some a) (hb : us[1]? = some b) (hc : us.getLast? = some c)
    (hdet : Scalar.lt (Scalar.abs ((b - a).x * (c - a).y - (c - a).x * (b - a).y)) leastLength = true) :
    geometry points (some us) = geometry points none := by
  have hframe : ∀ edgeNext edgeLast : Vec3 α, uvFrame? edgeNext edgeLast (b - a) (c - a) = none := by
    intro edgeNext edgeLast
    unfold uvFrame?
    dsimp only
    rw [if_pos hdet]
  unfold geometry
  simp only [Option.bind_some, Option.bind_none, List.headD_eq_head?_getD, List.getD_eq_getElem?_getD,
    List.getLastD_eq_getLast?, ha, hb, hc, Option.getD_some, hframe]

/-- With three corners, and texture coordinates for all of them or none, every indexing finds what it
looks for. -/
theorem indexedGeometry?_eq {points : List (Vec3 α)} {uvs : Option (List (Vec2 α))}
    (hpoints : 3 ≤ points.length) (huvs : ∀ us, uvs = some us → us.length = points.length) :
    indexedGeometry? points uvs = some (geometry points uvs) := by
  obtain ⟨p, q, r, rest, rfl⟩ : ∃ p q r rest, points = p :: q :: r :: rest := by
    match points, hpoints with
    | p :: q :: r :: rest, _ => exact ⟨p, q, r, rest, rfl⟩
  -- the last point is read by its index, which is in range
  have hlast : (p :: q :: r :: rest)[(p :: q :: r :: rest).length - 1]? =
      some ((p :: q :: r :: rest).getLastD 0) := by
    rw [← List.getLast?_eq_getElem?, List.getLastD_eq_getLast?, List.getLast?_cons]
    rfl
  cases uvs with
  | none =>
    unfold indexedGeometry? indexedArea?
    rw [hlast]
    rfl
  | some us =>
    obtain ⟨u, v, w, more, rfl⟩ : ∃ u v w more, us = u :: v :: w :: more := by
      have hlength := huvs us rfl
      match us, hlength with
      | u :: v :: w :: more, _ => exact ⟨u, v, w, more, rfl⟩
    -- and so are the last texture coordinates, as there are as many as points
    have hlastUv : (u :: v :: w :: more)[(p :: q :: r :: rest).length - 1]? =
        some ((u :: v :: w :: more).getLastD ⟨0, 0⟩) := by
      rw [← huvs _ rfl, ← List.getLast?_eq_getElem?, List.getLastD_eq_getLast?, List.getLast?_cons]
      rfl
    unfold indexedGeometry? indexedArea?
    rw [hlast]
    simp only [indexedFrame?, hlastUv]
    rfl

end Polygon

namespace Mesh

variable {m : Mesh α} {n : Nat}

/-- The geometry of the face with number `n`, if every corner that is looked at is there. -/
def indexedGeometry? (m : Mesh α) (n : Nat) : Option (Except FaceError (FaceGeometry α)) :=
  match m.faces[n]? with
  | none => some (.error (.noFace n m.faces.size))
  | some f =>
    if f.positions.length < 3 then some (.error (.tooFewVertices n f.positions.length))
    else
      match m.facePoints n f with
      | .error e => some (.error e)
      | .ok points => (Polygon.indexedGeometry? points (m.faceUvs? f)).map .ok

omit [Scalar α] in
private theorem length_facePoints {f : Face} {points : List (Vec3 α)}
    (h : m.facePoints n f = .ok points) : points.length = f.positions.length :=
  (mapM_eq_ok.1 h).length_eq.symm

omit [Scalar α] in
/-- The points of a face are there exactly if all its indices have one. -/
private theorem exists_facePoints_iff {f : Face} :
    (∃ points, m.facePoints n f = .ok points) ↔ ∀ i ∈ f.positions, i < m.positions.size := by
  unfold facePoints
  simp only [mapM_eq_ok, exists_forall₂]
  refine forall_congr' fun i => imp_congr_right fun _ => ?_
  cases hi : m.positions[i]? with
  | none => simpa using hi
  | some p => simpa using (Array.getElem?_eq_some_iff.1 hi).1

omit [Scalar α] in
/-- A face has texture coordinates if it has an index for each vertex, and they are the ones at these
indices. -/
private theorem faceUvs?_eq_some {f : Face} {us : List (Vec2 α)} (h : m.faceUvs? f = some us) :
    f.uvs.length = f.positions.length ∧ List.Forall₂ (fun i u => m.uvs[i]? = some u) f.uvs us := by
  unfold faceUvs? at h
  by_cases hlength : f.uvs.length ≠ f.positions.length
  · rw [if_pos hlength] at h
    cases h
  · rw [if_neg hlength] at h
    exact ⟨Decidable.not_not.1 hlength, mapM_eq_some.1 h⟩

/-- No query of a face looks for a corner that is not there. -/
private theorem indexedGeometry?_eq (m : Mesh α) (n : Nat) :
    m.indexedGeometry? n = some (m.faceGeometry n) := by
  unfold indexedGeometry? faceGeometry
  cases m.faces[n]? with
  | none => rfl
  | some f =>
    dsimp only
    by_cases hfew : f.positions.length < 3
    · rw [if_pos hfew, if_pos hfew]
    · rw [if_neg hfew, if_neg hfew]
      cases hpoints : m.facePoints n f with
      | error e => rfl
      | ok points =>
        have hlength := length_facePoints hpoints
        have hthree : 3 ≤ points.length := by omega
        have huvs : ∀ us, m.faceUvs? f = some us → us.length = points.length := by
          intro us hus
          obtain ⟨hcount, hall⟩ := faceUvs?_eq_some hus
          rw [← hall.length_eq, hcount, hlength]
        dsimp only
        rw [Polygon.indexedGeometry?_eq hthree huvs]
        rfl

/-! ### Faces that have a geometry -/

/-- A face has a geometry exactly if it is there, with at least three vertices and a point for each of
them. -/
theorem exists_faceGeometry_iff (m : Mesh α) (n : Nat) : (∃ g, m.faceGeometry n = .ok g) ↔
    ∃ f, m.faces[n]? = some f ∧ 3 ≤ f.positions.length ∧ ∀ i ∈ f.positions, i < m.positions.size := by
  unfold faceGeometry
  cases m.faces[n]? with
  | none => simp
  | some f =>
    simp only [Option.some.injEq, exists_eq_left']
    by_cases hfew : f.positions.length < 3
    · rw [if_pos hfew]
      simp only [reduceCtorEq, exists_false, false_iff, not_and]
      omega
    · rw [if_neg hfew]
      -- with three corners only the points can be missing
      have hthree : 3 ≤ f.positions.length := by omega
      have hpoints := exists_facePoints_iff (m := m) (n := n) (f := f)
      simp only [hthree, true_and, ← hpoints, map_eq_ok]
      constructor
      · intro hg
        obtain ⟨g, points, hg, -⟩ := hg
        exact ⟨points, hg⟩
      · intro hp
        obtain ⟨points, hp⟩ := hp
        exact ⟨_, points, hp, rfl⟩

/-! ### Texture coordinates of no use -/

/-- The texture coordinates of a face are of no use: there is not one for each vertex, one of them is
not in the mesh, or they hardly change from the first vertex to the second and the last. -/
inductive HasUselessUvs (m : Mesh α) (f : Face) : Prop where
  | count (hcount : f.uvs.length ≠ f.positions.length)
  | range {i : Nat} (hi : i ∈ f.uvs) (hrange : m.uvs.size ≤ i)
  | unchanging {i j k : Nat} {a b c : Vec2 α} (hi : f.uvs.head? = some i) (hj : f.uvs[1]? = some j)
    (hk : f.uvs.getLast? = some k) (ha : m.uvs[i]? = some a) (hb : m.uvs[j]? = some b)
    (hc : m.uvs[k]? = some c)
    (hdet : Scalar.lt (Scalar.abs ((b - a).x * (c - a).y - (c - a).x * (b - a).y))
      (Scalar.ofDecimal 1 8) = true)

/-- The mesh in which the face with number `n` has no texture coordinates. -/
def withoutUvs (m : Mesh α) (n : Nat) : Mesh α :=
  { m with faces := m.faces.modify n fun f => { f with uvs := [] } }

omit [Scalar α] in
/-- Only one face loses its texture coordinates. -/
private theorem getElem?_withoutUvs (m : Mesh α) (n : Nat) : (m.withoutUvs n).faces[n]? =
    (m.faces[n]?).map fun f => { f with uvs := [] } := by
  simp [withoutUvs, Array.getElem?_modify]

/-- Texture coordinates that give no directions are as good as none. -/
private theorem geometry_of_useless {f : Face} (h : m.HasUselessUvs f) (points : List (Vec3 α)) :
    Polygon.geometry points (m.faceUvs? f) = Polygon.geometry points none := by
  cases hus : m.faceUvs? f with
  | none => rfl
  | some us =>
    obtain ⟨hlength, hall⟩ := faceUvs?_eq_some hus
    cases h with
    | count hcount => exact absurd hlength hcount
    | @range i hi hrange =>
      obtain ⟨u, -, hu⟩ := exists_mem_of_forall₂ hall hi
      rw [Array.getElem?_eq_none hrange] at hu
      cases hu
    -- the three corners that decide have their coordinates in the list as in the mesh
    | @unchanging i j k a b c hi hj hk ha hb hc hdet =>
      have hat : ∀ {l x : Nat} {u : Vec2 α}, f.uvs[l]? = some x → m.uvs[x]? = some u →
          us[l]? = some u := by
        intro l x u hx hu
        obtain ⟨u', hu', hxu⟩ := exists_getElem?_of_forall₂ hall hx
        rw [hxu] at hu
        rw [hu', hu]
      rw [List.head?_eq_getElem?] at hi
      rw [List.getLast?_eq_getElem?] at hk
      apply Polygon.geometry_of_unchanging points _ (hat hj hb) _ hdet
      · rw [List.head?_eq_getElem?]
        exact hat hi ha
      · rw [List.getLast?_eq_getElem?, ← hall.length_eq]
        exact hat hk hc

/-- A face whose texture coordinates are of no use has the geometry of the face without them. -/
theorem faceGeometry_of_useless {f : Face} (hf : m.faces[n]? = some f) (h : m.HasUselessUvs f) :
    m.faceGeometry n = (m.withoutUvs n).faceGeometry n := by
  unfold faceGeometry
  rw [getElem?_withoutUvs, hf]
  dsimp only [Option.map_some]
  by_cases hfew : f.positions.length < 3
  · rw [if_pos hfew, if_pos hfew]
  · rw [if_neg hfew, if_neg hfew]
    have hnone : (m.withoutUvs n).faceUvs? { f with uvs := [] } = none := by
      have hne : ([] : List Nat).length ≠ f.positions.length := by
        rw [List.length_nil]
        omega
      unfold faceUvs?
      rw [if_pos hne]
    rw [hnone]
    simp only [geometry_of_useless h]
    rfl

/-! ### Any mesh -/

/-- What a query of the face with number `n` gives. -/
structure AnswersQuery (m : Mesh α) (n : Nat) : Prop where
  /-- Every indexing finds what it looks for. -/
  indexed : m.indexedGeometry? n = some (m.faceGeometry n)
  exists_iff : (∃ g, m.faceGeometry n = .ok g) ↔
    ∃ f, m.faces[n]? = some f ∧ 3 ≤ f.positions.length ∧ ∀ i ∈ f.positions, i < m.positions.size
  useless : ∀ f, m.faces[n]? = some f → m.HasUselessUvs f →
    m.faceGeometry n = (m.withoutUvs n).faceGeometry n
  /-- In a valid mesh only faces with fewer than three vertices have no geometry. -/
  valid : m.validate = .ok () → ∀ f, m.faces[n]? = some f →
    ((∃ e, m.faceGeometry n = .error e) ↔ f.positions.length < 3)

/-- On any mesh, valid or not, the geometry of any face can be asked for: it is there exactly for faces
with three vertices and a point for each of them, and texture coordinates of no use count as none. -/
theorem answers_faceGeometry (m : Mesh α) (n : Nat) : m.AnswersQuery n where
  indexed := indexedGeometry?_eq m n
  exists_iff := exists_faceGeometry_iff m n
  useless := fun _ hf h => faceGeometry_of_useless hf h
  valid := by
    intro hm f hf
    constructor
    · intro he
      obtain ⟨e, he⟩ := he
      by_contra hthree
      obtain ⟨g, hg⟩ := exists_faceGeometry hm hf (Nat.not_lt.1 hthree)
      rw [hg] at he
      cases he
    · intro hfew
      exact ⟨_, faceGeometry_of_lt hf hfew⟩

end Mesh

end Scenery
