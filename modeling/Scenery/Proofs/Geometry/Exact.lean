import Mathlib.Analysis.SpecialFunctions.Complex.Arg
import Mathlib.LinearAlgebra.UnitaryGroup
import Scenery.Geometry.Transform

/-!
# Geometry in exact arithmetic

The real numbers as scalars.  Over them the rotations form a group and placements that turn and move
compose and can be undone, which machine numbers give only up to rounding.

* `instScalarReal`         the real numbers with their functions
* `Mat3.IsRotation`        matrices that turn space
* `Mat4.ofParts_mul`       placements compose
* `Mat4.inverse?_ofParts`  a placement that turns and moves can be undone
-/

namespace Scenery

/-! ### The real numbers -/

open Classical in
/-- Exact arithmetic.  The gap after one is that of single precision, as it decides what counts as
degenerate. -/
noncomputable instance instScalarReal : Scalar ℝ where
  ofDecimal n k := n / 10 ^ k
  pi := Real.pi
  abs := abs
  sqrt := Real.sqrt
  sin := Real.sin
  cos := Real.cos
  asin := Real.arcsin
  atan2 y x := Complex.arg ⟨x, y⟩
  epsilon := 1 / 2 ^ 23
  isFinite _ := true
  eq x y := decide (x = y)
  lt x y := decide (x < y)
  le x y := decide (x ≤ y)

namespace Scalar

theorem eq_real (x y : ℝ) : Scalar.eq x y = true ↔ x = y := by
  simp [Scalar.eq]

theorem lt_real (x y : ℝ) : Scalar.lt x y = true ↔ x < y := by
  simp [Scalar.lt]

theorem le_real (x y : ℝ) : Scalar.le x y = true ↔ x ≤ y := by
  simp [Scalar.le]

theorem ofNat_real (n : Nat) : (Scalar.ofNat n : ℝ) = n := by
  show (n : ℝ) / 10 ^ 0 = n
  rw [pow_zero, div_one]

end Scalar

/-! ### Vectors and matrices -/

attribute [ext] Vec3 Mat3 Mat4

noncomputable instance : AddCommGroup (Vec3 ℝ) where
  add_assoc a b c := Vec3.ext (add_assoc ..) (add_assoc ..) (add_assoc ..)
  zero_add a := Vec3.ext (zero_add _) (zero_add _) (zero_add _)
  add_zero a := Vec3.ext (add_zero _) (add_zero _) (add_zero _)
  neg_add_cancel a := Vec3.ext (neg_add_cancel _) (neg_add_cancel _) (neg_add_cancel _)
  add_comm a b := Vec3.ext (add_comm ..) (add_comm ..) (add_comm ..)
  sub_eq_add_neg a b := Vec3.ext (sub_eq_add_neg ..) (sub_eq_add_neg ..) (sub_eq_add_neg ..)
  nsmul := nsmulRec
  zsmul := zsmulRec

namespace Vec3

theorem neg_x (v : Vec3 ℝ) : (-v).x = -v.x := rfl
theorem neg_y (v : Vec3 ℝ) : (-v).y = -v.y := rfl
theorem neg_z (v : Vec3 ℝ) : (-v).z = -v.z := rfl

theorem mul_zero_real (v : Vec3 ℝ) : v * (0 : ℝ) = 0 :=
  Vec3.ext (mul_zero _) (mul_zero _) (mul_zero _)

theorem div_one_real (v : Vec3 ℝ) : v / (1 : ℝ) = v :=
  Vec3.ext (div_one _) (div_one _) (div_one _)

/-- The components by number. -/
def entries (v : Vec3 ℝ) : Fin 3 → ℝ := ![v.x, v.y, v.z]

/-- A vector is told by its entries. -/
theorem entries_injective : Function.Injective entries := by
  intro a b h
  exact Vec3.ext (congrFun h 0) (congrFun h 1) (congrFun h 2)

end Vec3

namespace Mat3

/-- The entries by row and column. -/
def entries (m : Mat3 ℝ) : Matrix (Fin 3) (Fin 3) ℝ :=
  !![m.m11, m.m12, m.m13; m.m21, m.m22, m.m23; m.m31, m.m32, m.m33]

/-- A matrix is told by its entries. -/
theorem entries_injective : Function.Injective entries := by
  intro a b h
  have hentry (i j : Fin 3) : a.entries i j = b.entries i j := by rw [h]
  exact Mat3.ext (hentry 0 0) (hentry 0 1) (hentry 0 2) (hentry 1 0) (hentry 1 1) (hentry 1 2)
    (hentry 2 0) (hentry 2 1) (hentry 2 2)

@[simp] theorem entries_one : entries 1 = 1 := by
  ext i j
  fin_cases i <;> fin_cases j <;> rfl

@[simp] theorem entries_mul (a b : Mat3 ℝ) : (a * b).entries = a.entries * b.entries := by
  ext i j
  rw [Matrix.mul_apply, Fin.sum_univ_three]
  fin_cases i <;> fin_cases j <;> rfl

@[simp] theorem entries_transpose (a : Mat3 ℝ) : a.transpose.entries = a.entries.transpose := by
  ext i j
  fin_cases i <;> fin_cases j <;> rfl

/-- The volume is the determinant. -/
theorem det_entries (a : Mat3 ℝ) : a.entries.det = a.det := by
  rw [Matrix.det_fin_three]
  show a.m11 * a.m22 * a.m33 - a.m11 * a.m23 * a.m32 - a.m12 * a.m21 * a.m33 +
    a.m12 * a.m23 * a.m31 + a.m13 * a.m21 * a.m32 - a.m13 * a.m22 * a.m31 =
    a.m11 * (a.m22 * a.m33 - a.m32 * a.m23) - a.m12 * (a.m21 * a.m33 - a.m31 * a.m23) +
      a.m13 * (a.m21 * a.m32 - a.m31 * a.m22)
  ring

noncomputable instance : Monoid (Mat3 ℝ) where
  mul_assoc a b c := by
    apply entries_injective
    simp only [entries_mul, mul_assoc]
  one_mul a := by
    apply entries_injective
    rw [entries_mul, entries_one, one_mul]
  mul_one a := by
    apply entries_injective
    rw [entries_mul, entries_one, mul_one]

/-- The transpose of a product is the product of the transposes, the other way around. -/
theorem transpose_mul (a b : Mat3 ℝ) : (a * b).transpose = b.transpose * a.transpose := by
  apply entries_injective
  rw [entries_transpose, entries_mul, entries_mul, entries_transpose, entries_transpose,
    Matrix.transpose_mul]

/-- A matrix is applied as matrices are. -/
private theorem entries_apply (a : Mat3 ℝ) (v : Vec3 ℝ) :
    (a.apply v).entries = a.entries.mulVec v.entries := by
  funext i
  rw [Matrix.mulVec, Matrix.vec3_dotProduct]
  fin_cases i <;> rfl

theorem apply_one (v : Vec3 ℝ) : apply 1 v = v := by
  apply Vec3.entries_injective
  rw [entries_apply, entries_one, Matrix.one_mulVec]

/-- A product is applied one factor after the other. -/
theorem apply_mul (a b : Mat3 ℝ) (v : Vec3 ℝ) : (a * b).apply v = a.apply (b.apply v) := by
  apply Vec3.entries_injective
  simp only [entries_apply, entries_mul, Matrix.mulVec_mulVec]

/-- A matrix is applied to both parts of a sum. -/
theorem apply_add (a : Mat3 ℝ) (v w : Vec3 ℝ) : a.apply (v + w) = a.apply v + a.apply w := by
  have hadd (v w : Vec3 ℝ) : (v + w).entries = v.entries + w.entries := by
    funext i
    fin_cases i <;> rfl
  apply Vec3.entries_injective
  simp only [entries_apply, hadd, Matrix.mulVec_add]

theorem apply_zero (a : Mat3 ℝ) : a.apply 0 = 0 := by
  have h := a.apply_add 0 0
  rwa [add_zero, left_eq_add] at h

theorem apply_neg (a : Mat3 ℝ) (v : Vec3 ℝ) : a.apply (-v) = -a.apply v := by
  apply eq_neg_of_add_eq_zero_left
  rw [← apply_add, neg_add_cancel, apply_zero]

/-! ### Rotations -/

/-- A matrix that turns space: its rows are of unit length and at right angles to each other, and it
is no reflection. -/
structure IsRotation (m : Mat3 ℝ) : Prop where
  mul_transpose : m * m.transpose = 1
  det : m.det = 1

/-- The signed determinants that are left without the row and the column of each entry. -/
def cofactors (m : Mat3 ℝ) : Mat3 ℝ :=
  ⟨m.m22 * m.m33 - m.m23 * m.m32, m.m23 * m.m31 - m.m21 * m.m33, m.m21 * m.m32 - m.m22 * m.m31,
    m.m13 * m.m32 - m.m12 * m.m33, m.m11 * m.m33 - m.m13 * m.m31, m.m12 * m.m31 - m.m11 * m.m32,
    m.m12 * m.m23 - m.m13 * m.m22, m.m13 * m.m21 - m.m11 * m.m23, m.m11 * m.m22 - m.m12 * m.m21⟩

namespace IsRotation

variable {a b : Mat3 ℝ}

/-- Rows of unit length at right angles, entry by entry. -/
theorem of_rows (h11 : a.m11 * a.m11 + a.m12 * a.m12 + a.m13 * a.m13 = 1)
    (h22 : a.m21 * a.m21 + a.m22 * a.m22 + a.m23 * a.m23 = 1)
    (h33 : a.m31 * a.m31 + a.m32 * a.m32 + a.m33 * a.m33 = 1)
    (h12 : a.m11 * a.m21 + a.m12 * a.m22 + a.m13 * a.m23 = 0)
    (h13 : a.m11 * a.m31 + a.m12 * a.m32 + a.m13 * a.m33 = 0)
    (h23 : a.m21 * a.m31 + a.m22 * a.m32 + a.m23 * a.m33 = 0) (hdet : a.det = 1) :
    a.IsRotation where
  mul_transpose := by
    have hsymm : (a * a.transpose).transpose = a * a.transpose := Mat3.transpose_mul ..
    exact Mat3.ext h11 h12 h13 ((congrArg m12 hsymm).trans h12) h22 h23
      ((congrArg m13 hsymm).trans h13) ((congrArg m23 hsymm).trans h23) h33
  det := hdet

theorem one : IsRotation 1 where
  mul_transpose := one_mul 1
  det := by
    rw [← det_entries, entries_one, Matrix.det_one]

/-- One rotation after the other is a rotation. -/
theorem mul (ha : a.IsRotation) (hb : b.IsRotation) : (a * b).IsRotation where
  mul_transpose := by
    rw [Mat3.transpose_mul, mul_assoc, ← mul_assoc b, hb.mul_transpose, one_mul, ha.mul_transpose]
  det := by
    rw [← det_entries, entries_mul, Matrix.det_mul, det_entries, det_entries, ha.det, hb.det, one_mul]

/-- The columns are of unit length and at right angles to each other, too. -/
theorem transpose_mul (ha : a.IsRotation) : a.transpose * a = 1 := by
  have h := congrArg entries ha.mul_transpose
  rw [entries_mul, entries_transpose, entries_one, mul_eq_one_comm] at h
  apply entries_injective
  rw [entries_mul, entries_transpose, entries_one, h]

/-- Turning back and forth again moves nothing. -/
theorem apply_transpose (ha : a.IsRotation) (v : Vec3 ℝ) : a.apply (a.transpose.apply v) = v := by
  rw [← apply_mul, ha.mul_transpose, apply_one]

/-- A rotation is turned back by its transpose, which is a rotation. -/
theorem transpose (ha : a.IsRotation) : a.transpose.IsRotation where
  mul_transpose := ha.transpose_mul
  det := by
    rw [← det_entries, entries_transpose, Matrix.det_transpose, det_entries, ha.det]

/-- Every entry of a rotation is its own cofactor. -/
theorem cofactors (ha : a.IsRotation) : a.cofactors = a := by
  have h := congrArg entries ha.mul_transpose
  rw [entries_mul, entries_one] at h
  have hadjugate : a.entries.adjugate = a.transpose.entries := by
    calc a.entries.adjugate
        = a.entries.adjugate * (a.entries * a.transpose.entries) := by rw [h, mul_one]
      _ = a.transpose.entries := by
          rw [← mul_assoc, Matrix.adjugate_mul, det_entries, ha.det, one_smul, one_mul]
  have htranspose : a.cofactors.transpose.entries = a.entries.adjugate := by
    rw [Matrix.adjugate_fin_three]
    ext i j
    fin_cases i <;> fin_cases j <;> simp [Mat3.cofactors, Mat3.transpose, entries] <;> ring
  exact congrArg Mat3.transpose (entries_injective (htranspose.trans hadjugate))

end IsRotation

end Mat3

/-! ### Placements -/

namespace Mat4

/-- A placement under another one: both turns, and the inner move seen from outside. -/
theorem ofParts_mul (l l' : Mat3 ℝ) (t t' : Vec3 ℝ) :
    ofParts l t * ofParts l' t' = ofParts (l * l') (l.apply t' + t) := by
  show Mat4.mk _ _ _ _ _ _ _ _ _ _ _ _ _ _ _ _ = Mat4.mk _ _ _ _ _ _ _ _ _ _ _ _ _ _ _ _
  simp only [ofParts, mul_zero, zero_mul, mul_one, add_zero, zero_add]
  rfl

variable {r : Mat3 ℝ}

/-- The adjugate of a rotation with a translation, part by part: it is what the inverse is divided
from. -/
private theorem adjugate_ofParts (hr : r.IsRotation) (p : Vec3 ℝ) :
    (ofParts r p).adjugate = ofParts r.transpose (-r.transpose.apply p) := by
  -- what is left without a row and a column of the placement are the cofactors of the turn
  have hcofactors : (ofParts r p).adjugate =
      { ofParts r.cofactors.transpose (-r.cofactors.transpose.apply p) with m44 := r.det } := by
    ext <;>
      simp only [adjugate, minor, negMinor, ofParts, Mat3.transpose, Mat3.apply, Mat3.cofactors,
        Mat3.det, Vec3.neg_x, Vec3.neg_y, Vec3.neg_z] <;>
      ring
  rw [hcofactors, hr.cofactors, hr.det]
  rfl

/-- A matrix of determinant one has its adjugate as inverse. -/
private theorem inverse?_of_adjugate {m a : Mat4 ℝ} (ha : m.adjugate = a)
    (hdet : m.m11 * a.m11 + m.m21 * a.m12 + m.m31 * a.m13 + m.m41 * a.m14 = 1) :
    m.inverse? = some a := by
  subst ha
  unfold inverse?
  dsimp only
  rw [hdet, if_neg (by simp [Scalar.eq_real])]
  simp only [map, div_one, mul_one]

/-- What was turned and moved can be moved back and turned back. -/
theorem inverse?_ofParts (hr : r.IsRotation) (p : Vec3 ℝ) :
    (ofParts r p).inverse? = some (ofParts r.transpose (-r.transpose.apply p)) := by
  apply inverse?_of_adjugate (adjugate_ofParts hr p)
  show r.m11 * r.m11 + r.m21 * r.m21 + r.m31 * r.m31 + 0 * _ = 1
  rw [zero_mul, add_zero]
  exact congrArg Mat3.m11 hr.transpose_mul

/-- A point is turned first and translated then. -/
theorem applyPoint_ofParts (l : Mat3 ℝ) (t v : Vec3 ℝ) :
    (ofParts l t).applyPoint v = l.apply v + t := by
  have hscale : (ofParts l t).m41 * v.x + (ofParts l t).m42 * v.y + (ofParts l t).m43 * v.z +
      (ofParts l t).m44 = 1 := by
    simp [ofParts]
  unfold applyPoint
  dsimp only
  rw [hscale, if_neg (by simp [Scalar.eq_real]), Vec3.div_one_real]
  rfl

end Mat4

end Scenery
