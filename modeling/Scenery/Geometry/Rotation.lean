import Scenery.Geometry.Angle
import Scenery.Geometry.Matrix

/-!
# Rotations

The rotation of a triple of Euler angles, the Euler angles of a rotation, and the rotation closest
to any matrix.  The angles turn about X first, then about Y, then about Z: `R = Rz * Ry * Rx`.

The closest rotation is the polar factor of the matrix, found by turning its columns pairwise until
they are orthogonal (one-sided Jacobi iteration): the matrix is then `U * S * Vᵀ`, and the rotation
`U * Vᵀ`, with the third column of `U` and of `V` chosen to make each of them a rotation.  As the
columns are taken in the order of their lengths, that flips the shortest axis of a reflection.
-/

namespace Scenery.Mat3

variable {α : Type} [Scalar α]

/-- The rotation by Euler angles in radians. -/
def ofEuler (angles : Vec3 α) : Mat3 α :=
  let (sx, cx) := (Scalar.sin angles.x, Scalar.cos angles.x)
  let (sy, cy) := (Scalar.sin angles.y, Scalar.cos angles.y)
  let (sz, cz) := (Scalar.sin angles.z, Scalar.cos angles.z)
  ⟨cz * cy, cz * sy * sx - sz * cx, cz * sy * cx + sz * sx,
    sz * cy, sz * sy * sx + cz * cx, sz * sy * cx - cz * sx,
    -sy, cy * sx, cy * cx⟩

/-- Euler angles of a rotation in radians.  Where the second angle is a right angle, only the sum or
the difference of the others is determined, and the third is taken as zero. -/
def toEuler (r : Mat3 α) : Vec3 α :=
  if Scalar.lt (Scalar.abs r.m31) 1 then
    let y := -Scalar.asin r.m31
    let c := Scalar.cos y
    ⟨Scalar.atan2 (r.m32 / c) (r.m33 / c), y, Scalar.atan2 (r.m21 / c) (r.m11 / c)⟩
  else if Scalar.le r.m31 (-1) then
    ⟨Scalar.atan2 r.m12 r.m13, Scalar.pi / Scalar.ofNat 2, 0⟩
  else
    ⟨-Scalar.atan2 r.m12 (-r.m13), -(Scalar.pi / Scalar.ofNat 2), 0⟩

/-- A column of a matrix and the column of the turns that led to it. -/
structure Axis (α : Type) where
  image : Vec3 α
  source : Vec3 α

/-- Two axes turned in their plane so that their images become orthogonal. -/
def orthogonalize (a b : Axis α) : Axis α × Axis α :=
  let overlap := a.image.dot b.image
  if Scalar.eq overlap 0 then (a, b)
  else
    let zeta := (b.image.dot b.image - a.image.dot a.image) / (overlap + overlap)
    let size := 1 / (Scalar.abs zeta + Scalar.sqrt (1 + zeta * zeta))
    let tangent := if Scalar.lt zeta 0 then -size else size
    let cosine := 1 / Scalar.sqrt (1 + tangent * tangent)
    let sine := cosine * tangent
    let turn (p q : Vec3 α) : Vec3 α × Vec3 α := (p * cosine - q * sine, p * sine + q * cosine)
    let (ai, bi) := turn a.image b.image
    let (as, bs) := turn a.source b.source
    (⟨ai, as⟩, ⟨bi, bs⟩)

/-- One round of turns, each pair of axes once. -/
def sweep : Axis α × Axis α × Axis α → Axis α × Axis α × Axis α := fun (a, b, c) =>
  let (a, b) := orthogonalize a b
  let (a, c) := orthogonalize a c
  let (b, c) := orthogonalize b c
  (a, b, c)

/-- Rounds of turns after which the images of single-precision columns are orthogonal. -/
def sweeps : Nat := 12

/-- Two axes, the one of longer image first. -/
def ordered (a b : Axis α) : Axis α × Axis α :=
  if Scalar.lt (a.image.dot a.image) (b.image.dot b.image) then (b, a) else (a, b)

/-- The two axes of longest image, the longest first. -/
def longest (a b c : Axis α) : Axis α × Axis α :=
  let (a, b) := ordered a b
  let (b, _) := ordered b c
  ordered a b

/-- The polar factor of a regular matrix, with the shortest axis flipped if that is needed for a
rotation.  It stands for the singular value decomposition of a linear-algebra library, and any accurate
one gives the same rotation where this is determined: for a matrix of positive volume, and for a
reflection with one shortest axis.  Which of several shortest axes of a reflection is flipped is a
choice of this definition.  The theory uses one fact of it, `IsRotation.closestRotation`: a rotation is
the closest rotation to itself. -/
def polarRotation (m : Mat3 α) : Mat3 α :=
  let ⟨p, q, r⟩ := m.columns
  let (a, b, c) := Nat.repeat sweep sweeps (⟨p, ⟨1, 0, 0⟩⟩, ⟨q, ⟨0, 1, 0⟩⟩, ⟨r, ⟨0, 0, 1⟩⟩)
  let (a, b) := longest a b c
  let u := a.image / a.image.norm
  -- what rounding left of `a` in `b` is taken out before the third axes are completed
  let rest := b.image - u * u.dot b.image
  let v := rest / rest.norm
  let w := u.cross v
  ofColumns u v w * (ofColumns a.source b.source (a.source.cross b.source)).transpose

/-- The relative volume up to which a matrix counts as degenerate. -/
def degenerateVolume : α := Scalar.ofDecimal 1 6

/-- The rotation closest to a matrix; the identity for a matrix that is degenerate or not finite. -/
def closestRotation (m : Mat3 α) : Mat3 α :=
  if !m.toList.all Scalar.isFinite then 1
  else
    -- by Hadamard's inequality the determinant is at most the product of the lengths
    let ⟨p, q, r⟩ := m.columns
    let scale := 1 * p.norm * q.norm * r.norm
    if Scalar.le scale Scalar.epsilon ||
        Scalar.le (Scalar.abs m.det) (degenerateVolume * scale) then 1
    else polarRotation m

end Scenery.Mat3
