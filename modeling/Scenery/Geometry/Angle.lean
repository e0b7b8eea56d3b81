import Scenery.Geometry.Vector

/-!
# Degrees and radians

Angles are kept in degrees and computed with in radians.
-/

namespace Scenery.Angle

variable {α : Type} [Scalar α]

/-- How many radians a degree has. -/
def radiansPerDegree : α := Scalar.pi / Scalar.ofNat 180

/-- How many degrees a radian has. -/
def degreesPerRadian : α := Scalar.ofNat 180 / Scalar.pi

/-- An angle in radians, of one in degrees. -/
def toRadians (degrees : α) : α := degrees * radiansPerDegree

/-- An angle in degrees, of one in radians. -/
def toDegrees (radians : α) : α := radians * degreesPerRadian

end Scenery.Angle
