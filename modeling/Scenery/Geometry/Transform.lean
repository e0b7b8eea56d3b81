import Scenery.Geometry.Rotation

/-!
# Transforms

A transform places things relative to a parent: it turns them by Euler angles in degrees and then
moves them.  Its matrix form composes; going back from a matrix keeps the closest rotation and drops
scale and shear.
-/

namespace Scenery

/-- Where something is placed, and how it is turned. -/
structure Transform (α : Type) where
  position : Vec3 α
  /-- Euler angles in degrees. -/
  rotation : Vec3 α
  deriving DecidableEq, Repr

namespace Transform

variable {α : Type} [Scalar α]

/-- The transform that changes nothing. -/
def identity : Transform α := ⟨0, 0⟩

/-- The rotation by Euler angles in degrees. -/
def rotationOf (degrees : Vec3 α) : Mat3 α :=
  Mat3.ofEuler (degrees.map Angle.toRadians)

/-- The Euler angles of a rotation in degrees. -/
def anglesOf (rotation : Mat3 α) : Vec3 α :=
  rotation.toEuler.map Angle.toDegrees

/-- The matrix that moves the origin to a point. -/
def moveMatrix (p : Vec3 α) : Mat4 α := Mat4.ofParts 1 p

/-- The matrix of a transform, which turns a point first and moves it then. -/
def toMatrix (t : Transform α) : Mat4 α :=
  moveMatrix t.position * Mat4.ofParts (rotationOf t.rotation) 0

/-- The transform nearest to a matrix. -/
def ofMatrix (m : Mat4 α) : Transform α :=
  ⟨m.origin, anglesOf m.linear.closestRotation⟩

end Transform

end Scenery
