import Scenery.Proofs.Geometry.Exact

/-!
# Vectors in exact arithmetic

Over the real numbers the operations on vectors have the laws of a vector space with a scalar product
and a cross product.

* `norm_cross_of_orthogonal`  the cross product of unit vectors at a right angle is a unit vector
* `unit?_eq_some`             the unit vector along a vector
-/

namespace Scenery

@[simp] theorem Vec2.sub_x (v w : Vec2 ℝ) : (v - w).x = v.x - w.x := rfl
@[simp] theorem Vec2.sub_y (v w : Vec2 ℝ) : (v - w).y = v.y - w.y := rfl

namespace Vec3

/-! ### Sums and multiples -/

@[simp] theorem zero_x : (0 : Vec3 ℝ).x = 0 := rfl
@[simp] theorem zero_y : (0 : Vec3 ℝ).y = 0 := rfl
@[simp] theorem zero_z : (0 : Vec3 ℝ).z = 0 := rfl

@[simp] theorem add_x (v w : Vec3 ℝ) : (v + w).x = v.x + w.x := rfl
@[simp] theorem add_y (v w : Vec3 ℝ) : (v + w).y = v.y + w.y := rfl
@[simp] theorem add_z (v w : Vec3 ℝ) : (v + w).z = v.z + w.z := rfl

@[simp] theorem sub_x (v w : Vec3 ℝ) : (v - w).x = v.x - w.x := rfl
@[simp] theorem sub_y (v w : Vec3 ℝ) : (v - w).y = v.y - w.y := rfl
@[simp] theorem sub_z (v w : Vec3 ℝ) : (v - w).z = v.z - w.z := rfl

@[simp] theorem mul_x (v : Vec3 ℝ) (s : ℝ) : (v * s).x = v.x * s := rfl
@[simp] theorem mul_y (v : Vec3 ℝ) (s : ℝ) : (v * s).y = v.y * s := rfl
@[simp] theorem mul_z (v : Vec3 ℝ) (s : ℝ) : (v * s).z = v.z * s := rfl

theorem zero_mul_real (s : ℝ) : (0 : Vec3 ℝ) * s = 0 :=
  Vec3.ext (zero_mul _) (zero_mul _) (zero_mul _)

theorem mul_one_real (v : Vec3 ℝ) : v * (1 : ℝ) = v :=
  Vec3.ext (mul_one _) (mul_one _) (mul_one _)

theorem mul_neg_one_real (v : Vec3 ℝ) : v * (-1 : ℝ) = -v :=
  Vec3.ext (mul_neg_one _) (mul_neg_one _) (mul_neg_one _)

theorem add_mul_real (v w : Vec3 ℝ) (s : ℝ) : (v + w) * s = v * s + w * s :=
  Vec3.ext (add_mul ..) (add_mul ..) (add_mul ..)

theorem neg_mul_real (v : Vec3 ℝ) (s : ℝ) : -v * s = -(v * s) :=
  Vec3.ext (neg_mul ..) (neg_mul ..) (neg_mul ..)

theorem neg_div_real (v : Vec3 ℝ) (s : ℝ) : -v / s = -(v / s) :=
  Vec3.ext (neg_div ..) (neg_div ..) (neg_div ..)

/-- To divide is to scale by the inverse. -/
theorem div_eq_mul (v : Vec3 ℝ) (s : ℝ) : v / s = v * s⁻¹ :=
  Vec3.ext (div_eq_mul_inv ..) (div_eq_mul_inv ..) (div_eq_mul_inv ..)

/-- The sum that is taken from the left is the sum of the list. -/
theorem sum_eq (vs : List (Vec3 ℝ)) : Vec3.sum vs = vs.sum :=
  List.sum_eq_foldl.symm

/-- Vectors that are compared number by number are equal. -/
theorem eq_real {v w : Vec3 ℝ} : v.eq w = true ↔ v = w := by
  simp only [Vec3.eq, Bool.and_eq_true, Scalar.eq_real, Vec3.ext_iff, and_assoc]

/-! ### Products -/

theorem dot_comm (v w : Vec3 ℝ) : v.dot w = w.dot v := by
  simp only [dot]
  ring

theorem dot_sub (u v w : Vec3 ℝ) : u.dot (v - w) = u.dot v - u.dot w := by
  simp only [dot, sub_x, sub_y, sub_z]
  ring

theorem dot_mul (v w : Vec3 ℝ) (s : ℝ) : v.dot (w * s) = v.dot w * s := by
  simp only [dot, mul_x, mul_y, mul_z]
  ring

theorem dot_neg (v w : Vec3 ℝ) : v.dot (-w) = -v.dot w := by
  simp only [dot, neg_x, neg_y, neg_z]
  ring

theorem mul_dot (v w : Vec3 ℝ) (s : ℝ) : (v * s).dot w = v.dot w * s := by
  rw [dot_comm, dot_mul, dot_comm]

/-- A square is not negative. -/
theorem dot_self_nonneg (v : Vec3 ℝ) : 0 ≤ v.dot v :=
  add_nonneg (add_nonneg (mul_self_nonneg _) (mul_self_nonneg _)) (mul_self_nonneg _)

/-- The cross product is at right angles to its first factor. -/
theorem dot_cross_left (v w : Vec3 ℝ) : v.dot (v.cross w) = 0 := by
  simp only [dot, cross]
  ring

/-- The cross product is at right angles to its second factor. -/
theorem dot_cross_right (v w : Vec3 ℝ) : w.dot (v.cross w) = 0 := by
  simp only [dot, cross]
  ring

/-- The square of the cross product, by which it is short where the vectors are nearly parallel. -/
theorem cross_dot_cross (v w : Vec3 ℝ) :
    (v.cross w).dot (v.cross w) = v.dot v * w.dot w - v.dot w * v.dot w := by
  simp only [dot, cross]
  ring

theorem neg_cross (v w : Vec3 ℝ) : -v.cross w = w.cross v := by
  ext <;> simp only [cross, neg_x, neg_y, neg_z] <;> ring

theorem cross_self (v : Vec3 ℝ) : v.cross v = 0 := by
  ext <;> simp only [cross, zero_x, zero_y, zero_z] <;> ring

theorem zero_cross (v : Vec3 ℝ) : (0 : Vec3 ℝ).cross v = 0 := by
  ext <;> simp only [cross, zero_x, zero_y, zero_z] <;> ring

theorem cross_zero (v : Vec3 ℝ) : v.cross 0 = 0 := by
  rw [← neg_cross, zero_cross, neg_zero]

/-- The cross product of vectors that are seen from a point. -/
theorem cross_sub_sub (v w o : Vec3 ℝ) :
    (v - o).cross (w - o) = v.cross w + (o.cross v - o.cross w) := by
  ext <;> simp only [cross, add_x, add_y, add_z, sub_x, sub_y, sub_z] <;> ring

/-! ### Lengths -/

/-- A vector has length one exactly if its square is one. -/
theorem norm_eq_one {v : Vec3 ℝ} : v.norm = 1 ↔ v.dot v = 1 := by
  show √(v.dot v) = 1 ↔ v.dot v = 1
  rw [Real.sqrt_eq_one]

theorem norm_neg (v : Vec3 ℝ) : (-v).norm = v.norm := by
  simp only [norm, dot, neg_x, neg_y, neg_z, neg_mul_neg]

theorem norm_zero : (0 : Vec3 ℝ).norm = 0 := by
  show √((0 : Vec3 ℝ).dot 0) = 0
  rw [dot, zero_x, zero_y, zero_z, mul_zero, add_zero, add_zero, Real.sqrt_zero]

/-- The cross product of unit vectors at a right angle is a unit vector. -/
theorem norm_cross_of_orthogonal {v w : Vec3 ℝ} (hv : v.norm = 1) (hw : w.norm = 1)
    (h : v.dot w = 0) : (v.cross w).norm = 1 := by
  rw [norm_eq_one] at hv hw ⊢
  rw [cross_dot_cross, hv, hw, h, mul_one, mul_zero, sub_zero]

/-- The unit vector along a vector that is long enough. -/
theorem unit?_eq_some {v u : Vec3 ℝ} {least : ℝ} :
    v.unit? least = some u ↔ least < v.norm ∧ u = v / v.norm := by
  unfold unit?
  split
  · rename_i h
    rw [Scalar.le_real] at h
    simp [h.not_gt]
  · rename_i h
    rw [Scalar.le_real, not_le] at h
    simp [h, eq_comm]

/-- A unit vector has the length one. -/
theorem norm_of_unit? {v u : Vec3 ℝ} {least : ℝ} (hleast : 0 ≤ least) (h : v.unit? least = some u) :
    u.norm = 1 := by
  obtain ⟨hlt, rfl⟩ := unit?_eq_some.1 h
  have hpos : 0 < v.norm := hleast.trans_lt hlt
  have hsq : v.norm * v.norm = v.dot v := Real.mul_self_sqrt (dot_self_nonneg v)
  rw [norm_eq_one, div_eq_mul, mul_dot, dot_mul, ← hsq]
  field_simp

/-- The unit vector along the opposite of a vector is the opposite one. -/
theorem unit?_neg (v : Vec3 ℝ) (least : ℝ) : (-v).unit? least = (v.unit? least).map (- ·) := by
  unfold unit?
  rw [norm_neg]
  split
  · rfl
  · rw [neg_div_real]
    rfl

end Vec3

end Scenery
