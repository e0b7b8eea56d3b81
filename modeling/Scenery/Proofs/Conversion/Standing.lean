import Scenery.Proofs.Geometry.Rotation
import Scenery.Proofs.Mesh.Axes
import Scenery.Conversion.Frame

/-!
# Boxes that stand on faces

In exact arithmetic the axes of a face that has a normal make a rotation, also where reflected texture
coordinates make them left-handed, and its angles turn Y to the normal and Z to the tangent.

* `FaceFrame.axes_eq`           the axes, whichever way the binormal points
* `FaceFrame.StandsOn`          a frame that stands on a face
* `Mesh.standsOn_faceGeometry`  the frame of a face stands on it
-/

namespace Scenery

namespace Mat3

/-- The volume that three columns span. -/
theorem det_ofColumns (a b c : Vec3 ℝ) : (ofColumns a b c).det = a.dot (b.cross c) := by
  simp only [det, ofColumns, Vec3.dot, Vec3.cross]
  ring

/-- Two unit vectors at a right angle and their cross product make a rotation. -/
theorem isRotation_ofColumns {n t : Vec3 ℝ} (hn : n.norm = 1) (ht : t.norm = 1) (h : n.dot t = 0) :
    (ofColumns (n.cross t) n t).IsRotation := by
  have hcross := Vec3.norm_cross_of_orthogonal hn ht h
  rw [Vec3.norm_eq_one] at hn ht hcross
  have hrows : (ofColumns (n.cross t) n t).transpose.IsRotation := by
    refine IsRotation.of_rows (a := (ofColumns (n.cross t) n t).transpose) hcross hn ht ?_ ?_ h ?_
    · exact (Vec3.dot_comm ..).trans (Vec3.dot_cross_left n t)
    · exact (Vec3.dot_comm ..).trans (Vec3.dot_cross_right n t)
    · rw [← det_entries, entries_transpose, Matrix.det_transpose, det_entries, det_ofColumns, hcross]
  exact hrows.transpose

/-- The second column is the image of the second axis. -/
theorem apply_unitY (m : Mat3 ℝ) : m.apply Vec3.unitY = m.columns.y := by
  ext <;> simp [apply, columns, Vec3.unitY]

/-- The third column is the image of the third axis. -/
theorem apply_unitZ (m : Mat3 ℝ) : m.apply ⟨0, 0, 1⟩ = m.columns.z := by
  ext <;> simp [apply, columns]

end Mat3

namespace FaceFrame

variable {f : FaceFrame ℝ}

/-- Whichever way the binormal points, the axes are right-handed and keep the normal and the tangent. -/
theorem axes_eq (hn : f.normal.norm = 1) (ht : Polygon.IsTangent f.normal f.tangent)
    (hb : f.binormal = f.normal.cross f.tangent ∨ f.binormal = -f.normal.cross f.tangent) :
    f.axes = Mat3.ofColumns (f.normal.cross f.tangent) f.normal f.tangent := by
  have hcross := Vec3.norm_eq_one.1 (Vec3.norm_cross_of_orthogonal hn ht.norm ht.dot)
  unfold axes
  dsimp only
  rw [Mat3.det_ofColumns]
  rcases hb with h | h
  · have hright : ¬ Scalar.lt (f.binormal.dot (f.normal.cross f.tangent)) 0 = true := by
      rw [Scalar.lt_real, h, hcross, not_lt]
      exact zero_le_one
    rw [if_neg hright, h]
  · have hleft : Scalar.lt (f.binormal.dot (f.normal.cross f.tangent)) 0 = true := by
      rw [Scalar.lt_real, h, Vec3.dot_comm, Vec3.dot_neg, hcross]
      exact neg_one_lt_zero
    rw [if_pos hleft, h, neg_neg]

/-- The angles of a frame turn to its axes where these make a rotation. -/
theorem rotationOf_angles (h : f.axes.IsRotation) : Transform.rotationOf f.angles = f.axes := by
  show Transform.rotationOf (Transform.anglesOf f.axes.closestRotation) = f.axes
  rw [h.closestRotation, Transform.rotationOf_anglesOf h]

/-- A frame with the normal and the tangent of a face as its second and third axes stands on the face:
its angles turn Y to the normal and Z to the tangent. -/
structure StandsOn (f : FaceFrame ℝ) (g : FaceGeometry ℝ) : Prop where
  rotation : f.axes.IsRotation
  normal : f.axes.columns.y = g.normal
  tangent : f.axes.columns.z = g.tangent
  up : (Transform.rotationOf f.angles).apply Vec3.unitY = g.normal
  ahead : (Transform.rotationOf f.angles).apply ⟨0, 0, 1⟩ = g.tangent

/-- With a normal, the frame of a geometry stands on it. -/
theorem standsOn_geometry {points : List (Vec3 ℝ)} {uvs : Option (List (Vec2 ℝ))}
    (hn : (Polygon.geometry points uvs).normal ≠ 0) :
    (ofGeometry (Polygon.geometry points uvs)).StandsOn (Polygon.geometry points uvs) := by
  have hnormal := Polygon.norm_geometry_normal hn
  have htangent := Polygon.isTangent_geometry hn
  have haxes := axes_eq (f := ofGeometry (Polygon.geometry points uvs)) hnormal htangent
    (Polygon.geometry_binormal points uvs)
  have hrotation := Mat3.isRotation_ofColumns hnormal htangent.norm htangent.dot
  have hturn := rotationOf_angles (haxes ▸ hrotation)
  refine ⟨haxes ▸ hrotation, ?_, ?_, ?_, ?_⟩
  · rw [haxes]
    rfl
  · rw [haxes]
    rfl
  · rw [hturn, Mat3.apply_unitY, haxes]
    rfl
  · rw [hturn, Mat3.apply_unitZ, haxes]
    rfl

end FaceFrame

namespace Mesh

/-- The axes of a face that has a normal are of unit length and at right angles to each other, its
binormal does not point against the direction of the second texture coordinate, and its frame stands on
it. -/
theorem standsOn_faceGeometry {m : Mesh ℝ} {n : Nat} {g : FaceGeometry ℝ}
    (hg : m.faceGeometry n = .ok g) (hn : g.normal ≠ 0) :
    g.IsOrthonormal ∧
      (∀ along across, m.HasUvDirections n along across → 0 ≤ g.binormal.dot across) ∧
      (FaceFrame.ofGeometry g).StandsOn g := by
  refine ⟨isOrthonormal_of_face hg hn, fun _ _ h => binormal_dot_nonneg_of_face hg h, ?_⟩
  obtain ⟨f, points, -, -, rfl⟩ := exists_geometry_of_face hg
  exact FaceFrame.standsOn_geometry hn

/-- A unit square with mirrored texture coordinates. -/
noncomputable def mirroredSquare : Mesh ℝ where
  positions := #[⟨0, 0, 0⟩, ⟨1, 0, 0⟩, ⟨1, 1, 0⟩, ⟨0, 1, 0⟩]
  uvs := #[⟨0, 0⟩, ⟨1, 0⟩, ⟨1, -1⟩, ⟨0, -1⟩]
  faces := #[⟨[0, 1, 2, 3], [0, 1, 2, 3]⟩]

/-- A square whose texture coordinates are mirrored: the frame stands on it, and the binormal points
the way in which the second coordinate grows. -/
theorem standsOn_mirroredSquare : ∃ g, mirroredSquare.faceGeometry 0 = .ok g ∧ g.normal ≠ 0 ∧
    mirroredSquare.HasUvDirections 0 ⟨1, 0, 0⟩ ⟨0, -1, 0⟩ ∧ g.IsOrthonormal ∧
    0 ≤ g.binormal.dot ⟨0, -1, 0⟩ ∧ (FaceFrame.ofGeometry g).StandsOn g := by
  have hg : mirroredSquare.faceGeometry 0 = .ok (Polygon.geometry
      [⟨0, 0, 0⟩, ⟨1, 0, 0⟩, ⟨1, 1, 0⟩, ⟨0, 1, 0⟩]
      (some [⟨0, 0⟩, ⟨1, 0⟩, ⟨1, -1⟩, ⟨0, -1⟩])) := rfl
  -- the square has the area one and lies in the plane of the first two axes
  have harea : Polygon.vectorArea [⟨0, 0, 0⟩, ⟨1, 0, 0⟩, ⟨1, 1, 0⟩, ⟨0, 1, 0⟩] =
      (⟨0, 0, 1⟩ : Vec3 ℝ) := by
    ext <;> norm_num [Polygon.vectorArea, Vec3.sum, Vec3.cross, Scalar.half, Scalar.ofDecimal]
  have hunit : (⟨0, 0, 1⟩ : Vec3 ℝ).unit? Polygon.leastLength = some ⟨0, 0, 1⟩ := by
    have hnorm : (⟨0, 0, 1⟩ : Vec3 ℝ).norm = 1 := by
      simp [Vec3.norm_eq_one, Vec3.dot]
    rw [Vec3.unit?_eq_some, hnorm, Vec3.div_one_real, Polygon.leastLength_eq]
    exact ⟨by norm_num, rfl⟩
  have hn : (Polygon.geometry [⟨0, 0, 0⟩, ⟨1, 0, 0⟩, ⟨1, 1, 0⟩, ⟨0, 1, 0⟩]
      (some [⟨0, 0⟩, ⟨1, 0⟩, ⟨1, -1⟩, ⟨0, -1⟩])).normal ≠ (0 : Vec3 ℝ) := by
    show ((Polygon.vectorArea _).unit? _).getD 0 ≠ 0
    rw [harea, hunit]
    intro h
    exact one_ne_zero (congrArg Vec3.z h)
  -- the second texture coordinate shrinks upwards
  have huv : mirroredSquare.HasUvDirections 0 ⟨1, 0, 0⟩ ⟨0, -1, 0⟩ := by
    refine ⟨⟨[0, 1, 2, 3], [0, 1, 2, 3]⟩, _, _, rfl, rfl, rfl, ?_, ?_, ?_⟩
    · rw [Polygon.leastLength_eq]
      norm_num [mirroredSquare]
    · ext <;> simp [mirroredSquare]
    · ext <;> simp [mirroredSquare]
  obtain ⟨horthonormal, hbinormal, hstands⟩ := standsOn_faceGeometry hg hn
  exact ⟨_, hg, hn, huv, horthonormal, hbinormal _ _ huv, hstands⟩

end Mesh

end Scenery
