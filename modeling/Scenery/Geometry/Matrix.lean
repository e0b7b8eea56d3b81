import Scenery.Geometry.Vector

/-!
# Matrices

Matrices of three rows, for rotations and axes, and of four rows, for placements in space.  A matrix
is its entries, `mij` in row `i` and column `j`.
-/

namespace Scenery

/-- A matrix of three rows and columns. -/
structure Mat3 (α : Type) where
  (m11 m12 m13 : α)
  (m21 m22 m23 : α)
  (m31 m32 m33 : α)
  deriving DecidableEq, Repr

/-- A matrix of four rows and columns. -/
structure Mat4 (α : Type) where
  (m11 m12 m13 m14 : α)
  (m21 m22 m23 m24 : α)
  (m31 m32 m33 m34 : α)
  (m41 m42 m43 m44 : α)
  deriving DecidableEq, Repr

namespace Mat3

variable {α : Type}

/-- The matrix with the given columns. -/
def ofColumns (a b c : Vec3 α) : Mat3 α :=
  ⟨a.x, b.x, c.x, a.y, b.y, c.y, a.z, b.z, c.z⟩

/-- The columns from left to right. -/
def columns (m : Mat3 α) : Vec3 (Vec3 α) :=
  ⟨⟨m.m11, m.m21, m.m31⟩, ⟨m.m12, m.m22, m.m32⟩, ⟨m.m13, m.m23, m.m33⟩⟩

/-- The entries, row after row. -/
def toList (m : Mat3 α) : List α :=
  [m.m11, m.m12, m.m13, m.m21, m.m22, m.m23, m.m31, m.m32, m.m33]

/-- The matrix with rows and columns exchanged. -/
def transpose (m : Mat3 α) : Mat3 α :=
  ⟨m.m11, m.m21, m.m31, m.m12, m.m22, m.m32, m.m13, m.m23, m.m33⟩

variable [Scalar α]

instance : One (Mat3 α) := ⟨⟨1, 0, 0, 0, 1, 0, 0, 0, 1⟩⟩

instance : Mul (Mat3 α) where
  mul a b :=
    ⟨a.m11 * b.m11 + a.m12 * b.m21 + a.m13 * b.m31,
      a.m11 * b.m12 + a.m12 * b.m22 + a.m13 * b.m32,
      a.m11 * b.m13 + a.m12 * b.m23 + a.m13 * b.m33,
      a.m21 * b.m11 + a.m22 * b.m21 + a.m23 * b.m31,
      a.m21 * b.m12 + a.m22 * b.m22 + a.m23 * b.m32,
      a.m21 * b.m13 + a.m22 * b.m23 + a.m23 * b.m33,
      a.m31 * b.m11 + a.m32 * b.m21 + a.m33 * b.m31,
      a.m31 * b.m12 + a.m32 * b.m22 + a.m33 * b.m32,
      a.m31 * b.m13 + a.m32 * b.m23 + a.m33 * b.m33⟩

/-- The matrix applied to a vector. -/
def apply (m : Mat3 α) (v : Vec3 α) : Vec3 α :=
  ⟨m.m11 * v.x + m.m12 * v.y + m.m13 * v.z,
    m.m21 * v.x + m.m22 * v.y + m.m23 * v.z,
    m.m31 * v.x + m.m32 * v.y + m.m33 * v.z⟩

/-- The determinant, expanded along the first row. -/
def det (m : Mat3 α) : α :=
  m.m11 * (m.m22 * m.m33 - m.m32 * m.m23) - m.m12 * (m.m21 * m.m33 - m.m31 * m.m23) +
    m.m13 * (m.m21 * m.m32 - m.m31 * m.m22)

end Mat3

namespace Mat4

variable {α : Type}

/-- The entries, row after row. -/
def toList (m : Mat4 α) : List α :=
  [m.m11, m.m12, m.m13, m.m14, m.m21, m.m22, m.m23, m.m24,
    m.m31, m.m32, m.m33, m.m34, m.m41, m.m42, m.m43, m.m44]

/-- The upper left block of three rows. -/
def linear (m : Mat4 α) : Mat3 α :=
  ⟨m.m11, m.m12, m.m13, m.m21, m.m22, m.m23, m.m31, m.m32, m.m33⟩

/-- The image of the origin: the upper part of the last column. -/
def origin (m : Mat4 α) : Vec3 α :=
  ⟨m.m14, m.m24, m.m34⟩

variable [Scalar α]

/-- The placement with a linear part and the image of the origin. -/
def ofParts (l : Mat3 α) (t : Vec3 α) : Mat4 α :=
  ⟨l.m11, l.m12, l.m13, t.x, l.m21, l.m22, l.m23, t.y, l.m31, l.m32, l.m33, t.z, 0, 0, 0, 1⟩

instance : One (Mat4 α) := ⟨ofParts 1 0⟩

instance : Mul (Mat4 α) where
  mul a b :=
    ⟨a.m11 * b.m11 + a.m12 * b.m21 + a.m13 * b.m31 + a.m14 * b.m41,
      a.m11 * b.m12 + a.m12 * b.m22 + a.m13 * b.m32 + a.m14 * b.m42,
      a.m11 * b.m13 + a.m12 * b.m23 + a.m13 * b.m33 + a.m14 * b.m43,
      a.m11 * b.m14 + a.m12 * b.m24 + a.m13 * b.m34 + a.m14 * b.m44,
      a.m21 * b.m11 + a.m22 * b.m21 + a.m23 * b.m31 + a.m24 * b.m41,
      a.m21 * b.m12 + a.m22 * b.m22 + a.m23 * b.m32 + a.m24 * b.m42,
      a.m21 * b.m13 + a.m22 * b.m23 + a.m23 * b.m33 + a.m24 * b.m43,
      a.m21 * b.m14 + a.m22 * b.m24 + a.m23 * b.m34 + a.m24 * b.m44,
      a.m31 * b.m11 + a.m32 * b.m21 + a.m33 * b.m31 + a.m34 * b.m41,
      a.m31 * b.m12 + a.m32 * b.m22 + a.m33 * b.m32 + a.m34 * b.m42,
      a.m31 * b.m13 + a.m32 * b.m23 + a.m33 * b.m33 + a.m34 * b.m43,
      a.m31 * b.m14 + a.m32 * b.m24 + a.m33 * b.m34 + a.m34 * b.m44,
      a.m41 * b.m11 + a.m42 * b.m21 + a.m43 * b.m31 + a.m44 * b.m41,
      a.m41 * b.m12 + a.m42 * b.m22 + a.m43 * b.m32 + a.m44 * b.m42,
      a.m41 * b.m13 + a.m42 * b.m23 + a.m43 * b.m33 + a.m44 * b.m43,
      a.m41 * b.m14 + a.m42 * b.m24 + a.m43 * b.m34 + a.m44 * b.m44⟩

/-- The matrix applied to a direction. -/
def applyVector (m : Mat4 α) (v : Vec3 α) : Vec3 α :=
  m.linear.apply v

/-- The matrix applied to a point; the last row scales the result. -/
def applyPoint (m : Mat4 α) (p : Vec3 α) : Vec3 α :=
  let scale := m.m41 * p.x + m.m42 * p.y + m.m43 * p.z + m.m44
  let image := m.linear.apply p + m.origin
  if Scalar.eq scale 0 then image else image / scale

/-- The determinant of the matrix with columns `p`, `q` and `r`, as a sum of six products. -/
def minor (p q r : Vec3 α) : α :=
  p.x * q.y * r.z - p.x * q.z * r.y - q.x * p.y * r.z + q.x * p.z * r.y + r.x * p.y * q.z -
    r.x * p.z * q.y

/-- The negated determinant of the matrix with columns `p`, `q` and `r`, as a sum of six
products. -/
def negMinor (p q r : Vec3 α) : α :=
  -p.x * q.y * r.z + p.x * q.z * r.y + q.x * p.y * r.z - q.x * p.z * r.y - r.x * p.y * q.z +
    r.x * p.z * q.y

/-- The transposed matrix of cofactors: entry `ij` comes from leaving out column `i` and row `j`. -/
def adjugate (m : Mat4 α) : Mat4 α :=
  ⟨minor ⟨m.m22, m.m32, m.m42⟩ ⟨m.m23, m.m33, m.m43⟩ ⟨m.m24, m.m34, m.m44⟩,
    negMinor ⟨m.m12, m.m32, m.m42⟩ ⟨m.m13, m.m33, m.m43⟩ ⟨m.m14, m.m34, m.m44⟩,
    minor ⟨m.m12, m.m22, m.m42⟩ ⟨m.m13, m.m23, m.m43⟩ ⟨m.m14, m.m24, m.m44⟩,
    negMinor ⟨m.m12, m.m22, m.m32⟩ ⟨m.m13, m.m23, m.m33⟩ ⟨m.m14, m.m24, m.m34⟩,
    negMinor ⟨m.m21, m.m31, m.m41⟩ ⟨m.m23, m.m33, m.m43⟩ ⟨m.m24, m.m34, m.m44⟩,
    minor ⟨m.m11, m.m31, m.m41⟩ ⟨m.m13, m.m33, m.m43⟩ ⟨m.m14, m.m34, m.m44⟩,
    negMinor ⟨m.m11, m.m21, m.m41⟩ ⟨m.m13, m.m23, m.m43⟩ ⟨m.m14, m.m24, m.m44⟩,
    minor ⟨m.m11, m.m21, m.m31⟩ ⟨m.m13, m.m23, m.m33⟩ ⟨m.m14, m.m24, m.m34⟩,
    minor ⟨m.m21, m.m31, m.m41⟩ ⟨m.m22, m.m32, m.m42⟩ ⟨m.m24, m.m34, m.m44⟩,
    negMinor ⟨m.m11, m.m31, m.m41⟩ ⟨m.m12, m.m32, m.m42⟩ ⟨m.m14, m.m34, m.m44⟩,
    minor ⟨m.m11, m.m21, m.m41⟩ ⟨m.m12, m.m22, m.m42⟩ ⟨m.m14, m.m24, m.m44⟩,
    negMinor ⟨m.m11, m.m21, m.m31⟩ ⟨m.m12, m.m22, m.m32⟩ ⟨m.m14, m.m24, m.m34⟩,
    negMinor ⟨m.m21, m.m31, m.m41⟩ ⟨m.m22, m.m32, m.m42⟩ ⟨m.m23, m.m33, m.m43⟩,
    minor ⟨m.m11, m.m31, m.m41⟩ ⟨m.m12, m.m32, m.m42⟩ ⟨m.m13, m.m33, m.m43⟩,
    negMinor ⟨m.m11, m.m21, m.m41⟩ ⟨m.m12, m.m22, m.m42⟩ ⟨m.m13, m.m23, m.m43⟩,
    minor ⟨m.m11, m.m21, m.m31⟩ ⟨m.m12, m.m22, m.m32⟩ ⟨m.m13, m.m23, m.m33⟩⟩

/-- A function on every entry. -/
def map (f : α → α) (m : Mat4 α) : Mat4 α :=
  ⟨f m.m11, f m.m12, f m.m13, f m.m14, f m.m21, f m.m22, f m.m23, f m.m24,
    f m.m31, f m.m32, f m.m33, f m.m34, f m.m41, f m.m42, f m.m43, f m.m44⟩

/-- The inverse; none if the determinant is zero. -/
def inverse? (m : Mat4 α) : Option (Mat4 α) :=
  let a := m.adjugate
  let det := m.m11 * a.m11 + m.m21 * a.m12 + m.m31 * a.m13 + m.m41 * a.m14
  if Scalar.eq det 0 then none else some (a.map (· * (1 / det)))

end Mat4

end Scenery
