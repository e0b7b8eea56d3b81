import Scenery.Proofs.Geometry.Vector

/-!
# Rotations in exact arithmetic

Euler angles give every rotation, and finding them and the closest rotation is exact: the rotation
closest to a rotation is itself, and the angles that are found for it give it back, also where the
second angle is a right angle.

* `isRotation_ofEuler`            Euler angles give rotations
* `IsRotation.ofEuler_toEuler`    the angles of a rotation give it back
* `IsRotation.closestRotation`    a rotation is the closest rotation to itself
* `Transform.rotationOf_anglesOf`   the angles of a rotation in degrees give it back
-/

namespace Scenery

namespace Mat3

/-! ### Turns about the axes -/

/-- The turn about X. -/
noncomputable def aboutX (angle : ℝ) : Mat3 ℝ :=
  ⟨1, 0, 0, 0, Real.cos angle, -Real.sin angle, 0, Real.sin angle, Real.cos angle⟩

/-- The turn about Y. -/
noncomputable def aboutY (angle : ℝ) : Mat3 ℝ :=
  ⟨Real.cos angle, 0, Real.sin angle, 0, 1, 0, -Real.sin angle, 0, Real.cos angle⟩

/-- The turn about Z. -/
noncomputable def aboutZ (angle : ℝ) : Mat3 ℝ :=
  ⟨Real.cos angle, -Real.sin angle, 0, Real.sin angle, Real.cos angle, 0, 0, 0, 1⟩

/-- The matrix of Euler angles turns about X, then about Y, then about Z. -/
theorem ofEuler_eq (angles : Vec3 ℝ) :
    ofEuler angles = aboutZ angles.z * (aboutY angles.y * aboutX angles.x) := by
  apply entries_injective
  rw [entries_mul, entries_mul]
  ext i j
  fin_cases i <;> fin_cases j <;>
    simp [entries, ofEuler, aboutX, aboutY, aboutZ, Scalar.sin, Scalar.cos, Matrix.mul_apply,
      Fin.sum_univ_three] <;>
    ring

private theorem isRotation_aboutX (angle : ℝ) : (aboutX angle).IsRotation := by
  have h := Real.sin_sq_add_cos_sq angle
  apply IsRotation.of_rows <;> simp [aboutX, det] <;> linarith

private theorem isRotation_aboutY (angle : ℝ) : (aboutY angle).IsRotation := by
  have h := Real.sin_sq_add_cos_sq angle
  apply IsRotation.of_rows <;> simp [aboutY, det] <;> linarith

private theorem isRotation_aboutZ (angle : ℝ) : (aboutZ angle).IsRotation := by
  have h := Real.sin_sq_add_cos_sq angle
  apply IsRotation.of_rows <;> simp [aboutZ, det] <;> linarith

/-- Any three angles give a rotation. -/
theorem isRotation_ofEuler (angles : Vec3 ℝ) : (ofEuler angles).IsRotation := by
  rw [ofEuler_eq]
  exact (isRotation_aboutZ _).mul ((isRotation_aboutY _).mul (isRotation_aboutX _))

/-! ### The closest rotation -/

/-- Axes at right angles need no turn. -/
private theorem orthogonalize_of_dot {a b : Axis ℝ} (h : a.image.dot b.image = 0) :
    orthogonalize a b = (a, b) := by
  unfold orthogonalize
  dsimp only
  rw [if_pos (by rw [Scalar.eq_real, h])]

/-- Axes in the order of their lengths stay in it. -/
private theorem ordered_of_le {a b : Axis ℝ} (h : b.image.dot b.image ≤ a.image.dot a.image) :
    ordered a b = (a, b) := by
  unfold ordered
  rw [if_neg (by rw [Scalar.lt_real]; exact not_lt.2 h)]

/-- Axes at right angles to each other stay through any number of rounds. -/
private theorem repeat_sweep {a b c : Axis ℝ} (hab : a.image.dot b.image = 0)
    (hac : a.image.dot c.image = 0) (hbc : b.image.dot c.image = 0) (n : Nat) :
    Nat.repeat sweep n (a, b, c) = (a, b, c) := by
  have hsweep : sweep (a, b, c) = (a, b, c) := by
    simp only [sweep, orthogonalize_of_dot hab, orthogonalize_of_dot hac, orthogonalize_of_dot hbc]
  induction n with
  | zero => rfl
  | succ n ih => rw [Nat.repeat, ih, hsweep]

/-- Axes of one length are taken in the order they are in. -/
private theorem longest_of_eq {a b c : Axis ℝ} (hab : a.image.dot a.image = b.image.dot b.image)
    (hbc : b.image.dot b.image = c.image.dot c.image) : longest a b c = (a, b) := by
  simp only [longest, ordered_of_le hab.ge, ordered_of_le hbc.ge]

namespace IsRotation

variable {r : Mat3 ℝ}

/-- The third column is at right angles to the first two, on the side that makes no reflection. -/
private theorem cross_columns (hr : r.IsRotation) : r.columns.x.cross r.columns.y = r.columns.z := by
  have h13 : r.m21 * r.m32 - r.m22 * r.m31 = r.m13 := congrArg m13 hr.cofactors
  have h23 : r.m12 * r.m31 - r.m11 * r.m32 = r.m23 := congrArg m23 hr.cofactors
  have h33 : r.m11 * r.m22 - r.m12 * r.m21 = r.m33 := congrArg m33 hr.cofactors
  ext
  · show r.m21 * r.m32 - r.m31 * r.m22 = r.m13
    linear_combination h13
  · show r.m31 * r.m12 - r.m11 * r.m32 = r.m23
    linear_combination h23
  · show r.m11 * r.m22 - r.m21 * r.m12 = r.m33
    linear_combination h33

/-- The rotation nearest to a rotation is itself. -/
private theorem polarRotation (hr : r.IsRotation) : r.polarRotation = r := by
  have hx : r.columns.x.dot r.columns.x = 1 := congrArg m11 hr.transpose_mul
  have hy : r.columns.y.dot r.columns.y = 1 := congrArg m22 hr.transpose_mul
  have hz : r.columns.z.dot r.columns.z = 1 := congrArg m33 hr.transpose_mul
  have hxy : r.columns.x.dot r.columns.y = 0 := congrArg m12 hr.transpose_mul
  have hxz : r.columns.x.dot r.columns.z = 0 := congrArg m13 hr.transpose_mul
  have hyz : r.columns.y.dot r.columns.z = 0 := congrArg m23 hr.transpose_mul
  have hnone : r.columns.y - r.columns.x * (0 : ℝ) = r.columns.y := by
    rw [Vec3.mul_zero_real, sub_zero]
  have hsource : ofColumns (⟨1, 0, 0⟩ : Vec3 ℝ) ⟨0, 1, 0⟩ (Vec3.cross ⟨1, 0, 0⟩ ⟨0, 1, 0⟩) = 1 := by
    ext <;> simp [ofColumns, Vec3.cross] <;> rfl
  unfold Mat3.polarRotation
  dsimp only
  -- the columns are at right angles already, so no round turns them
  rw [repeat_sweep hxy hxz hyz]
  dsimp only
  rw [longest_of_eq (hx.trans hy.symm) (hy.trans hz.symm)]
  dsimp only
  -- two of them are kept, and the third one is completed to what it was
  rw [Vec3.norm_eq_one.2 hx, Vec3.div_one_real, hxy, hnone, Vec3.norm_eq_one.2 hy, Vec3.div_one_real,
    hr.cross_columns, hsource]
  exact mul_one r

/-- A rotation is the closest rotation to itself.  Nothing else is used of the way in which the closest
rotation is found, so the theory holds for any other way with this property. -/
theorem closestRotation (hr : r.IsRotation) : r.closestRotation = r := by
  have hfinite : r.toList.all Scalar.isFinite = true := List.all_eq_true.2 fun _ _ => rfl
  have hx : r.columns.x.norm = 1 := Vec3.norm_eq_one.2 (congrArg m11 hr.transpose_mul)
  have hy : r.columns.y.norm = 1 := Vec3.norm_eq_one.2 (congrArg m22 hr.transpose_mul)
  have hz : r.columns.z.norm = 1 := Vec3.norm_eq_one.2 (congrArg m33 hr.transpose_mul)
  have hgap : ¬ Scalar.le (1 : ℝ) Scalar.epsilon = true := by
    rw [Scalar.le_real]
    show ¬ (1 : ℝ) ≤ 1 / 2 ^ 23
    norm_num
  have hvolume : ¬ Scalar.le (1 : ℝ) degenerateVolume = true := by
    rw [Scalar.le_real]
    show ¬ (1 : ℝ) ≤ (1 : ℕ) / 10 ^ 6
    norm_num
  have habs : Scalar.abs (1 : ℝ) = 1 := abs_one
  unfold Mat3.closestRotation
  rw [hfinite]
  simp [hx, hy, hz, hr.det, habs, hgap, hvolume, hr.polarRotation]

end IsRotation

/-! ### Euler angles -/

/-- The angle of a vector of length one has the vector's parts as sine and cosine. -/
private theorem sin_cos_atan2 {s c : ℝ} (h : s * s + c * c = 1) :
    Real.sin (Scalar.atan2 s c) = s ∧ Real.cos (Scalar.atan2 s c) = c := by
  have hnorm : ‖(⟨c, s⟩ : ℂ)‖ = 1 := by
    rw [Complex.norm_def, Complex.normSq_mk, add_comm, h, Real.sqrt_one]
  have hne : (⟨c, s⟩ : ℂ) ≠ 0 := by
    rw [← norm_ne_zero_iff, hnorm]
    exact one_ne_zero
  show Real.sin (Complex.arg ⟨c, s⟩) = s ∧ Real.cos (Complex.arg ⟨c, s⟩) = c
  rw [Complex.sin_arg, Complex.cos_arg hne, hnorm, div_one, div_one]
  exact ⟨rfl, rfl⟩

/-- The angle of a vector of any length has the vector's parts as sine and cosine, scaled. -/
private theorem sin_cos_atan2_div {s c d : ℝ} (hd : d ≠ 0) (h : s * s + c * c = d * d) :
    Real.sin (Scalar.atan2 (s / d) (c / d)) * d = s ∧
      Real.cos (Scalar.atan2 (s / d) (c / d)) * d = c := by
  have hunit : s / d * (s / d) + c / d * (c / d) = 1 := by
    rw [div_mul_div_comm, div_mul_div_comm, ← add_div, h, div_self (mul_ne_zero hd hd)]
  obtain ⟨hsin, hcos⟩ := sin_cos_atan2 hunit
  rw [hsin, hcos, div_mul_cancel₀ _ hd, div_mul_cancel₀ _ hd]
  exact ⟨rfl, rfl⟩

/-- The second angle is not a right angle where its sine is not one. -/
private theorem sin_cos_neg_arcsin {x : ℝ} (h : |x| < 1) :
    Real.sin (-Real.arcsin x) = -x ∧
      Real.cos (-Real.arcsin x) * Real.cos (-Real.arcsin x) = 1 - x * x ∧
      Real.cos (-Real.arcsin x) ≠ 0 := by
  obtain ⟨hleft, hright⟩ := abs_lt.1 h
  have hsin : Real.sin (-Real.arcsin x) = -x := by
    rw [Real.sin_neg, Real.sin_arcsin hleft.le hright.le]
  have hcos : Real.cos (-Real.arcsin x) * Real.cos (-Real.arcsin x) = 1 - x * x := by
    have hone := Real.sin_sq_add_cos_sq (-Real.arcsin x)
    rw [hsin] at hone
    linear_combination hone
  refine ⟨hsin, hcos, ?_⟩
  intro hzero
  rw [hzero] at hcos
  nlinarith

namespace IsRotation

variable {r : Mat3 ℝ}

/-- The first column of a rotation has length one. -/
private theorem firstColumn (hr : r.IsRotation) :
    r.m11 * r.m11 + r.m21 * r.m21 + r.m31 * r.m31 = 1 :=
  congrArg m11 hr.transpose_mul

/-- The last row of a rotation has length one. -/
private theorem lastRow (hr : r.IsRotation) :
    r.m31 * r.m31 + r.m32 * r.m32 + r.m33 * r.m33 = 1 :=
  congrArg m33 hr.mul_transpose

/-- The outer entries of a rotation, its first column and its last row, give the inner ones. -/
private theorem inner (hr : r.IsRotation) :
    r.m12 * (r.m32 * r.m32 + r.m33 * r.m33) = -(r.m11 * r.m31 * r.m32) - r.m21 * r.m33 ∧
    r.m13 * (r.m32 * r.m32 + r.m33 * r.m33) = r.m21 * r.m32 - r.m11 * r.m31 * r.m33 ∧
    r.m22 * (r.m32 * r.m32 + r.m33 * r.m33) = r.m11 * r.m33 - r.m21 * r.m31 * r.m32 ∧
    r.m23 * (r.m32 * r.m32 + r.m33 * r.m33) = -(r.m21 * r.m31 * r.m33) - r.m11 * r.m32 := by
  have h13 : r.m11 * r.m31 + r.m12 * r.m32 + r.m13 * r.m33 = 0 := congrArg m13 hr.mul_transpose
  have h23 : r.m21 * r.m31 + r.m22 * r.m32 + r.m23 * r.m33 = 0 := congrArg m23 hr.mul_transpose
  have h11 : r.m22 * r.m33 - r.m23 * r.m32 = r.m11 := congrArg m11 hr.cofactors
  have h21 : r.m13 * r.m32 - r.m12 * r.m33 = r.m21 := congrArg m21 hr.cofactors
  constructor
  · linear_combination r.m32 * h13 - r.m33 * h21
  constructor
  · linear_combination r.m33 * h13 + r.m32 * h21
  constructor
  · linear_combination r.m32 * h23 + r.m33 * h11
  · linear_combination r.m33 * h23 - r.m32 * h11

/-- Where the first column is not the axis of the last row, the two determine a rotation. -/
private theorem eq_of_outer {a b : Mat3 ℝ} (ha : a.IsRotation) (hb : b.IsRotation)
    (h11 : a.m11 = b.m11) (h21 : a.m21 = b.m21) (h31 : a.m31 = b.m31) (h32 : a.m32 = b.m32)
    (h33 : a.m33 = b.m33) (hne : b.m32 * b.m32 + b.m33 * b.m33 ≠ 0) : a = b := by
  obtain ⟨ha12, ha13, ha22, ha23⟩ := ha.inner
  obtain ⟨hb12, hb13, hb22, hb23⟩ := hb.inner
  rw [h11, h21, h31, h32, h33] at ha12 ha13 ha22 ha23
  ext
  · exact h11
  · exact mul_right_cancel₀ hne (ha12.trans hb12.symm)
  · exact mul_right_cancel₀ hne (ha13.trans hb13.symm)
  · exact h21
  · exact mul_right_cancel₀ hne (ha22.trans hb22.symm)
  · exact mul_right_cancel₀ hne (ha23.trans hb23.symm)
  · exact h31
  · exact h32
  · exact h33

/-- Where the first column is the axis of the last row, the rest of the two is zero. -/
private theorem upright (hr : r.IsRotation) (h : r.m31 * r.m31 = 1) :
    r = ⟨0, r.m12, r.m13, 0, -(r.m13 * r.m31), r.m12 * r.m31, r.m31, 0, 0⟩ := by
  have hrow := hr.lastRow
  have hcolumn := hr.firstColumn
  have h22 : r.m11 * r.m33 - r.m13 * r.m31 = r.m22 := congrArg m22 hr.cofactors
  have h23 : r.m12 * r.m31 - r.m11 * r.m32 = r.m23 := congrArg m23 hr.cofactors
  obtain ⟨h11, h21⟩ : r.m11 = 0 ∧ r.m21 = 0 := by
    apply mul_self_add_mul_self_eq_zero.1
    linarith
  obtain ⟨h32, h33⟩ : r.m32 = 0 ∧ r.m33 = 0 := by
    apply mul_self_add_mul_self_eq_zero.1
    linarith
  rw [h11, zero_mul, zero_sub] at h22
  rw [h11, zero_mul, sub_zero] at h23
  exact Mat3.ext h11 rfl rfl h21 h22.symm h23.symm rfl h32 h33

/-- Where the first column is the axis of the last row, two angles give a rotation. -/
private theorem ofEuler_of_upright (hr : r.IsRotation) (h : r.m31 * r.m31 = 1) {x y : ℝ}
    (h12 : Real.sin y * Real.sin x = r.m12) (h13 : Real.sin y * Real.cos x = r.m13)
    (h31 : -Real.sin y = r.m31) : ofEuler ⟨x, y, 0⟩ = r := by
  have hofEuler : (ofEuler ⟨x, y, 0⟩).m12 = r.m12 ∧ (ofEuler ⟨x, y, 0⟩).m13 = r.m13 := by
    simp [ofEuler, Scalar.sin, Scalar.cos, h12, h13]
  have h31' : (ofEuler ⟨x, y, 0⟩).m31 = r.m31 := h31
  rw [(isRotation_ofEuler _).upright (by rw [h31', h]), hr.upright h, hofEuler.1, hofEuler.2, h31']

/-- Where the second angle is not a right angle, the other two are read off the first column and the last
row. -/
private theorem ofEuler_toEuler_of_lt (hr : r.IsRotation) (hlt : |r.m31| < 1) :
    ofEuler r.toEuler = r := by
  have hrow := hr.lastRow
  have hcolumn := hr.firstColumn
  have hangles : r.toEuler = ⟨Scalar.atan2 (r.m32 / Real.cos (-Real.arcsin r.m31))
      (r.m33 / Real.cos (-Real.arcsin r.m31)), -Real.arcsin r.m31,
      Scalar.atan2 (r.m21 / Real.cos (-Real.arcsin r.m31))
      (r.m11 / Real.cos (-Real.arcsin r.m31))⟩ :=
    if_pos ((Scalar.lt_real _ _).2 hlt)
  obtain ⟨hsin, hcos, hne⟩ := sin_cos_neg_arcsin hlt
  rw [hangles]
  generalize -Real.arcsin r.m31 = y at hsin hcos hne
  -- the other two angles come from quotients by the cosine, which is not zero here
  obtain ⟨hsx, hcx⟩ := sin_cos_atan2_div hne (s := r.m32) (c := r.m33) (by linarith)
  obtain ⟨hsz, hcz⟩ := sin_cos_atan2_div hne (s := r.m21) (c := r.m11) (by linarith)
  -- a rotation is told by its first column and its last row
  apply eq_of_outer (isRotation_ofEuler _) hr
  · exact hcz
  · exact hsz
  · show -Real.sin y = r.m31
    rw [hsin, neg_neg]
  · exact (mul_comm ..).trans hsx
  · exact (mul_comm ..).trans hcx
  · have hpos := mul_self_pos.2 hne
    linarith

/-- Where the second angle is a right angle, the third is taken as zero. -/
private theorem ofEuler_toEuler_of_le (hr : r.IsRotation) (hle : 1 ≤ |r.m31|) :
    ofEuler r.toEuler = r := by
  have hrow := hr.lastRow
  have hfirst : r.m11 * r.m11 + r.m12 * r.m12 + r.m13 * r.m13 = 1 := congrArg m11 hr.mul_transpose
  -- a row of length one has no room for another entry
  have hone : r.m31 * r.m31 = 1 := by
    apply le_antisymm
    · nlinarith
    · rw [← abs_mul_abs_self]
      nlinarith
  -- so the first row gives the cosine and the sine of the one angle that is left
  rw [congrArg m11 (hr.upright hone), mul_zero, zero_add] at hfirst
  have hnot : ¬ Scalar.lt (Scalar.abs r.m31) 1 = true := by
    rw [Scalar.lt_real]
    exact not_lt.2 hle
  have htwo : (Scalar.pi : ℝ) / Scalar.ofNat 2 = Real.pi / 2 := by
    rw [Scalar.ofNat_real]
    rfl
  rcases mul_self_eq_one_iff.1 hone with h | h
  · obtain ⟨hsin, hcos⟩ := sin_cos_atan2 (s := r.m12) (c := -r.m13) (by linarith)
    have hangles : r.toEuler = ⟨-Scalar.atan2 r.m12 (-r.m13), -(Real.pi / 2), 0⟩ := by
      unfold toEuler
      rw [if_neg hnot, if_neg (by rw [Scalar.le_real, h]; norm_num), htwo]
    rw [hangles]
    apply hr.ofEuler_of_upright hone
    · rw [Real.sin_neg, Real.sin_neg, Real.sin_pi_div_two, hsin, neg_mul_neg, one_mul]
    · rw [Real.sin_neg, Real.cos_neg, Real.sin_pi_div_two, hcos, neg_mul_neg, one_mul]
    · rw [Real.sin_neg, Real.sin_pi_div_two, neg_neg, h]
  · obtain ⟨hsin, hcos⟩ := sin_cos_atan2 (s := r.m12) (c := r.m13) (by linarith)
    have hangles : r.toEuler = ⟨Scalar.atan2 r.m12 r.m13, Real.pi / 2, 0⟩ := by
      unfold toEuler
      rw [if_neg hnot, if_pos (by rw [Scalar.le_real, h]), htwo]
    rw [hangles]
    apply hr.ofEuler_of_upright hone
    · rw [Real.sin_pi_div_two, hsin, one_mul]
    · rw [Real.sin_pi_div_two, hcos, one_mul]
    · rw [Real.sin_pi_div_two, h]

/-- The Euler angles of a rotation give it back. -/
theorem ofEuler_toEuler (hr : r.IsRotation) : ofEuler r.toEuler = r := by
  by_cases hlt : |r.m31| < 1
  · exact hr.ofEuler_toEuler_of_lt hlt
  · exact hr.ofEuler_toEuler_of_le (not_lt.1 hlt)

end IsRotation

end Mat3

/-! ### Transforms -/

namespace Transform

/-- The angles of a transform give a rotation, whatever they are. -/
theorem isRotation_rotationOf (degrees : Vec3 ℝ) : (rotationOf degrees).IsRotation :=
  Mat3.isRotation_ofEuler _

/-- The angles of a rotation in degrees give it back. -/
theorem rotationOf_anglesOf {r : Mat3 ℝ} (hr : r.IsRotation) : rotationOf (anglesOf r) = r := by
  have hturn (x : ℝ) : Angle.toRadians (Angle.toDegrees x) = x := by
    show x * (Scalar.ofNat 180 / Real.pi) * (Real.pi / Scalar.ofNat 180) = x
    have hpi := Real.pi_ne_zero
    rw [Scalar.ofNat_real]
    field_simp
  calc rotationOf (anglesOf r)
      = Mat3.ofEuler r.toEuler := by
        simp only [rotationOf, anglesOf, Vec3.map, hturn]
    _ = r := hr.ofEuler_toEuler

/-- The matrix of a transform is its rotation with its position. -/
theorem toMatrix_eq (t : Transform ℝ) :
    t.toMatrix = Mat4.ofParts (rotationOf t.rotation) t.position := by
  unfold toMatrix moveMatrix
  rw [Mat4.ofParts_mul, one_mul, Mat3.apply_zero, zero_add]

end Transform

end Scenery
