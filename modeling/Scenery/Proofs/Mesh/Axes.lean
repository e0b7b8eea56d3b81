import Scenery.Proofs.Geometry.Vector
import Scenery.Proofs.Except
import Scenery.Mesh.FaceGeometry

/-!
# The axes of a face

In exact arithmetic a face that has a normal has three axes of unit length at right angles to each
other, whichever of the four sources the tangent comes from: the texture coordinates, the first edge,
the axis X or the axis Y.  Texture coordinates that are mirrored turn the binormal around, so that it
never points against the direction in which the second one grows.

* `IsTangent`               what every source of the tangent gives
* `uvFrame?_eq_some`        what the directions of texture coordinates are
* `isTangent_tangentFrame`  the tangent of a polygon with a normal
* `isOrthonormal_geometry`  the axes of a polygon with a normal
-/

namespace Scenery

/-- The axes of a face are of unit length and at right angles to each other. -/
structure FaceGeometry.IsOrthonormal (g : FaceGeometry ℝ) : Prop where
  normal : g.normal.norm = 1
  tangent : g.tangent.norm = 1
  binormal : g.binormal.norm = 1
  normal_tangent : g.normal.dot g.tangent = 0
  normal_binormal : g.normal.dot g.binormal = 0
  tangent_binormal : g.tangent.dot g.binormal = 0

namespace Polygon

theorem leastLength_eq : (leastLength : ℝ) = 1 / 10 ^ 8 := by
  show ((1 : ℕ) : ℝ) / 10 ^ 8 = 1 / 10 ^ 8
  rw [Nat.cast_one]

/-- The least length is positive, so a vector that has a direction is not zero. -/
theorem leastLength_pos : (0 : ℝ) < leastLength := by
  rw [leastLength_eq]
  norm_num

/-! ### Tangents -/

/-- A unit vector at right angles to a normal. -/
structure IsTangent (normal tangent : Vec3 ℝ) : Prop where
  norm : tangent.norm = 1
  dot : normal.dot tangent = 0

variable {n : Vec3 ℝ}

/-- Without its part along the normal, a vector is at right angles to it. -/
private theorem dot_sub_along (hn : n.norm = 1) (v : Vec3 ℝ) : n.dot (v - n * n.dot v) = 0 := by
  rw [Vec3.norm_eq_one] at hn
  rw [Vec3.dot_sub, Vec3.dot_mul, hn, one_mul, sub_self]

/-- What is left of a vector after its part along the normal is taken away is a tangent. -/
theorem isTangent_orthogonal? {v t : Vec3 ℝ} (hn : n.norm = 1) (h : orthogonal? v n = some t) :
    IsTangent n t := by
  have hnorm := Vec3.norm_of_unit? leastLength_pos.le h
  obtain ⟨-, rfl⟩ := Vec3.unit?_eq_some.1 h
  refine ⟨hnorm, ?_⟩
  rw [Vec3.div_eq_mul, Vec3.dot_mul, dot_sub_along hn, zero_mul]

/-- A unit vector that is not close to the normal has a part at right angles to it. -/
private theorem exists_orthogonal? {axis : Vec3 ℝ} (hn : n.norm = 1) (haxis : axis.norm = 1)
    (hfar : n.dot axis * n.dot axis ≤ 81 / 100) : ∃ t, orthogonal? axis n = some t := by
  refine ⟨_, Vec3.unit?_eq_some.2 ⟨?_, rfl⟩⟩
  have hsq : (axis - n * n.dot axis).dot (axis - n * n.dot axis) =
      1 - n.dot axis * n.dot axis := by
    rw [Vec3.norm_eq_one] at haxis
    rw [Vec3.dot_sub, Vec3.dot_mul, Vec3.dot_comm _ n, dot_sub_along hn, zero_mul, sub_zero,
      Vec3.dot_comm _ axis, Vec3.dot_sub, Vec3.dot_mul, haxis, Vec3.dot_comm axis n]
  show leastLength < √((axis - n * n.dot axis).dot (axis - n * n.dot axis))
  rw [hsq, leastLength_eq]
  apply Real.lt_sqrt_of_sq_lt
  norm_num
  linarith

/-- X is not close to a normal whose first component is small, and Y is not close to any other. -/
private theorem exists_orthogonal?_axis (hn : n.norm = 1) :
    ∃ t, orthogonal? (if Scalar.lt (Scalar.abs n.x) (Scalar.ofDecimal 9 1) then Vec3.unitX
      else Vec3.unitY) n = some t := by
  have hx : Scalar.lt (Scalar.abs n.x) (Scalar.ofDecimal 9 1) = true ↔ |n.x| < 9 / 10 := by
    rw [Scalar.lt_real]
    show |n.x| < (9 : ℕ) / 10 ^ 1 ↔ _
    norm_num
  have hsum : n.x * n.x + n.y * n.y + n.z * n.z = 1 := Vec3.norm_eq_one.1 hn
  split
  · rename_i h
    rw [hx] at h
    apply exists_orthogonal? hn
    · rw [Vec3.norm_eq_one]
      simp [Vec3.dot, Vec3.unitX]
    · -- the first axis is far enough from the normal
      have hdot : n.dot Vec3.unitX = n.x := by simp [Vec3.dot, Vec3.unitX]
      rw [hdot, ← abs_mul_abs_self]
      nlinarith [abs_nonneg n.x]
  · rename_i h
    rw [hx, not_lt] at h
    apply exists_orthogonal? hn
    · rw [Vec3.norm_eq_one]
      simp [Vec3.dot, Vec3.unitY]
    · have hdot : n.dot Vec3.unitY = n.y := by simp [Vec3.dot, Vec3.unitY]
      -- the normal is near the first axis, which leaves little of it along the second
      have hlarge : 81 / 100 ≤ n.x * n.x := by
        rw [← abs_mul_abs_self]
        nlinarith
      rw [hdot]
      nlinarith [mul_self_nonneg n.z]

/-- Where the edge gives no tangent, one of the two axes does. -/
theorem isTangent_edgeTangent (hn : n.norm = 1) (edge : Vec3 ℝ) :
    IsTangent n (edgeTangent edge n) := by
  unfold edgeTangent
  split
  · rename_i t h
    exact isTangent_orthogonal? hn h
  · have hne : ¬ n.eq 0 = true := by
      rw [Vec3.eq_real]
      rintro rfl
      rw [Vec3.norm_zero] at hn
      exact zero_ne_one hn
    obtain ⟨t, ht⟩ := exists_orthogonal?_axis hn
    rw [if_neg hne]
    dsimp only
    rw [ht]
    exact isTangent_orthogonal? hn ht

/-- Whichever source it comes from, the tangent is at right angles to the normal. -/
theorem isTangent_tangentFrame (hn : n.norm = 1) (edge : Vec3 ℝ)
    (frame : Option (Vec3 ℝ × Vec3 ℝ)) : IsTangent n (tangentFrame edge n frame).1 := by
  match frame with
  | none => exact isTangent_edgeTangent hn edge
  | some (along, _) =>
    simp only [tangentFrame]
    cases h : orthogonal? along n with
    | none => exact isTangent_edgeTangent hn edge
    | some t => exact isTangent_orthogonal? hn h

/-! ### The binormal -/

/-- The handedness is a sign. -/
theorem tangentFrame_handedness (edge n : Vec3 ℝ) (frame : Option (Vec3 ℝ × Vec3 ℝ)) :
    (tangentFrame edge n frame).2 = 1 ∨ (tangentFrame edge n frame).2 = -1 := by
  match frame with
  | none => exact .inl rfl
  | some _ =>
    simp only [tangentFrame]
    split
    · exact .inr rfl
    · exact .inl rfl

/-- With its sign, the binormal does not point against the second texture coordinate. -/
theorem dot_across_nonneg (edge n along across : Vec3 ℝ) :
    0 ≤ (n.cross (tangentFrame edge n (some (along, across))).1 *
      (tangentFrame edge n (some (along, across))).2).dot across := by
  rw [Vec3.mul_dot]
  simp only [tangentFrame]
  split
  · rename_i h
    rw [Scalar.lt_real] at h
    linarith
  · rename_i h
    rw [Scalar.lt_real, not_lt] at h
    linarith

/-- The directions in which the two texture coordinates grow: steps along them make up the edges from
the first corner to the next and to the last one.  They are taken if the coordinates of the three
corners lie on no line. -/
structure UvDirections (edgeNext edgeLast : Vec3 ℝ) (uvNext uvLast : Vec2 ℝ) (along across : Vec3 ℝ) :
    Prop where
  changes : leastLength ≤ |uvNext.x * uvLast.y - uvLast.x * uvNext.y|
  next : edgeNext = along * uvNext.x + across * uvNext.y
  last : edgeLast = along * uvLast.x + across * uvLast.y

/-- Two equations in two unknowns are solved by their determinant. -/
private theorem solution_iff {a b c d p q u v : ℝ} (hdet : a * d - c * b ≠ 0) :
    (p * d - q * b) * (1 / (a * d - c * b)) = u ∧ (q * a - p * c) * (1 / (a * d - c * b)) = v ↔
      p = u * a + v * b ∧ q = u * c + v * d := by
  rw [mul_one_div, mul_one_div, div_eq_iff hdet, div_eq_iff hdet]
  constructor
  · rintro ⟨hu, hv⟩
    constructor
    · apply mul_right_cancel₀ hdet
      linear_combination a * hu + b * hv
    · apply mul_right_cancel₀ hdet
      linear_combination c * hu + d * hv
  · rintro ⟨rfl, rfl⟩
    constructor <;> ring

/-- Texture coordinates give two directions exactly if they solve the equations for the two edges.
-/
theorem uvFrame?_eq_some {edgeNext edgeLast along across : Vec3 ℝ} {uvNext uvLast : Vec2 ℝ} :
    uvFrame? edgeNext edgeLast uvNext uvLast = some (along, across) ↔
      UvDirections edgeNext edgeLast uvNext uvLast along across := by
  have hless : Scalar.lt (Scalar.abs (uvNext.x * uvLast.y - uvLast.x * uvNext.y)) leastLength = true ↔
      |uvNext.x * uvLast.y - uvLast.x * uvNext.y| < leastLength :=
    Scalar.lt_real _ _
  unfold uvFrame?
  dsimp only
  split
  · rename_i h
    rw [hless] at h
    simp only [reduceCtorEq, false_iff]
    intro huv
    exact h.not_ge huv.changes
  · rename_i h
    rw [hless, not_lt] at h
    -- the two equations of each component have one solution
    have hdet : uvNext.x * uvLast.y - uvLast.x * uvNext.y ≠ 0 := by
      rw [← abs_pos]
      exact leastLength_pos.trans_le h
    rw [Option.some.injEq, Prod.mk.injEq]
    constructor
    · intro ⟨halong, hacross⟩
      have hx := (solution_iff hdet).1 ⟨congrArg Vec3.x halong, congrArg Vec3.x hacross⟩
      have hy := (solution_iff hdet).1 ⟨congrArg Vec3.y halong, congrArg Vec3.y hacross⟩
      have hz := (solution_iff hdet).1 ⟨congrArg Vec3.z halong, congrArg Vec3.z hacross⟩
      exact ⟨h, Vec3.ext hx.1 hy.1 hz.1, Vec3.ext hx.2 hy.2 hz.2⟩
    · intro huv
      have hx := (solution_iff hdet).2 ⟨congrArg Vec3.x huv.next, congrArg Vec3.x huv.last⟩
      have hy := (solution_iff hdet).2 ⟨congrArg Vec3.y huv.next, congrArg Vec3.y huv.last⟩
      have hz := (solution_iff hdet).2 ⟨congrArg Vec3.z huv.next, congrArg Vec3.z huv.last⟩
      exact ⟨Vec3.ext hx.1 hy.1 hz.1, Vec3.ext hx.2 hy.2 hz.2⟩

/-! ### Polygons and faces -/

variable {points : List (Vec3 ℝ)} {uvs : Option (List (Vec2 ℝ))}

/-- A normal that is not zero has length one. -/
theorem norm_geometry_normal (hn : (geometry points uvs).normal ≠ 0) :
    (geometry points uvs).normal.norm = 1 := by
  have hnormal : (geometry points uvs).normal = ((vectorArea points).unit? leastLength).getD 0 := rfl
  rw [hnormal] at hn ⊢
  cases h : (vectorArea points).unit? leastLength with
  | none =>
    rw [h] at hn
    exact absurd rfl hn
  | some normal => exact Vec3.norm_of_unit? leastLength_pos.le h

/-- With a normal, the tangent of a geometry is one. -/
theorem isTangent_geometry (hn : (geometry points uvs).normal ≠ 0) :
    IsTangent (geometry points uvs).normal (geometry points uvs).tangent :=
  isTangent_tangentFrame (norm_geometry_normal hn) _ _

/-- The binormal is the cross product of the other two axes, or the opposite one. -/
theorem geometry_binormal (points : List (Vec3 ℝ)) (uvs : Option (List (Vec2 ℝ))) :
    (geometry points uvs).binormal = (geometry points uvs).normal.cross (geometry points uvs).tangent ∨
      (geometry points uvs).binormal =
        -(geometry points uvs).normal.cross (geometry points uvs).tangent := by
  obtain ⟨edge, frame, htangent, hbinormal⟩ : ∃ edge frame, (geometry points uvs).tangent =
      (tangentFrame edge (geometry points uvs).normal frame).1 ∧ (geometry points uvs).binormal =
      (geometry points uvs).normal.cross (geometry points uvs).tangent *
        (tangentFrame edge (geometry points uvs).normal frame).2 := ⟨_, _, rfl, rfl⟩
  rcases tangentFrame_handedness edge (geometry points uvs).normal frame with h | h
  · left
    rw [hbinormal, h, Vec3.mul_one_real]
  · right
    rw [hbinormal, h, Vec3.mul_neg_one_real]

/-- A polygon that has a normal has three axes of unit length at right angles to each other. -/
theorem isOrthonormal_geometry (hn : (geometry points uvs).normal ≠ 0) :
    (geometry points uvs).IsOrthonormal := by
  have hnormal := norm_geometry_normal hn
  obtain ⟨htangent, hdot⟩ := isTangent_geometry hn
  have hcross := Vec3.norm_cross_of_orthogonal hnormal htangent hdot
  rcases geometry_binormal points uvs with h | h
  · refine ⟨hnormal, htangent, ?_, hdot, ?_, ?_⟩ <;> rw [h]
    · exact hcross
    · exact Vec3.dot_cross_left ..
    · exact Vec3.dot_cross_right ..
  · refine ⟨hnormal, htangent, ?_, hdot, ?_, ?_⟩ <;> rw [h]
    · rw [Vec3.norm_neg, hcross]
    · rw [Vec3.dot_neg, Vec3.dot_cross_left, neg_zero]
    · rw [Vec3.dot_neg, Vec3.dot_cross_right, neg_zero]

/-- The binormal of a polygon does not point against the direction of its second texture coordinate. -/
theorem geometry_binormal_dot_nonneg {us : List (Vec2 ℝ)} {along across : Vec3 ℝ}
    (h : UvDirections (points.getD 1 0 - points.headD 0) (points.getLastD 0 - points.headD 0)
      (us.getD 1 ⟨0, 0⟩ - us.headD ⟨0, 0⟩) (us.getLastD ⟨0, 0⟩ - us.headD ⟨0, 0⟩) along across) :
    0 ≤ (geometry points (some us)).binormal.dot across := by
  have hnonneg := dot_across_nonneg (points.getD 1 0 - points.headD 0)
    (geometry points (some us)).normal along across
  rw [← uvFrame?_eq_some.2 h] at hnonneg
  exact hnonneg

end Polygon

namespace Mesh

variable {m : Mesh ℝ} {n : Nat} {g : FaceGeometry ℝ}

/-- The directions in which the texture coordinates of the face with number `n` grow at its first corner,
if each corner has some and they can be used. -/
def HasUvDirections (m : Mesh ℝ) (n : Nat) (along across : Vec3 ℝ) : Prop :=
  ∃ f points us, m.faces[n]? = some f ∧ m.facePoints n f = .ok points ∧ m.faceUvs? f = some us ∧
    Polygon.UvDirections (points.getD 1 0 - points.headD 0) (points.getLastD 0 - points.headD 0)
      (us.getD 1 ⟨0, 0⟩ - us.headD ⟨0, 0⟩) (us.getLastD ⟨0, 0⟩ - us.headD ⟨0, 0⟩) along across

/-- The geometry of a face is that of the polygon of its points. -/
theorem exists_geometry_of_face (hg : m.faceGeometry n = .ok g) : ∃ f points, m.faces[n]? = some f ∧
    m.facePoints n f = .ok points ∧ Polygon.geometry points (m.faceUvs? f) = g := by
  unfold faceGeometry at hg
  cases hf : m.faces[n]? with
  | none =>
    rw [hf] at hg
    cases hg
  | some f =>
    rw [hf] at hg
    dsimp only at hg
    split at hg
    · cases hg
    · obtain ⟨points, hpoints, hgeometry⟩ := map_eq_ok.1 hg
      exact ⟨f, points, rfl, hpoints, hgeometry⟩

/-- With a normal, the three axes of a face are orthonormal. -/
theorem isOrthonormal_of_face (hg : m.faceGeometry n = .ok g) (hn : g.normal ≠ 0) :
    g.IsOrthonormal := by
  obtain ⟨f, points, -, -, rfl⟩ := exists_geometry_of_face hg
  exact Polygon.isOrthonormal_geometry hn

/-- The binormal of a face points the way in which the second texture coordinate grows. -/
theorem binormal_dot_nonneg_of_face (hg : m.faceGeometry n = .ok g) {along across : Vec3 ℝ}
    (h : m.HasUvDirections n along across) : 0 ≤ g.binormal.dot across := by
  obtain ⟨f, points, hf, hpoints, rfl⟩ := exists_geometry_of_face hg
  obtain ⟨f', points', us, hf', hpoints', hus, huv⟩ := h
  -- the face and its points are the same ones
  rw [hf, Option.some.injEq] at hf'
  subst hf'
  rw [hpoints, Except.ok.injEq] at hpoints'
  subst hpoints'
  rw [hus]
  exact Polygon.geometry_binormal_dot_nonneg huv

end Mesh

end Scenery
