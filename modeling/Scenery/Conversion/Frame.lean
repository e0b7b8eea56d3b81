import Scenery.Geometry.Transform
import Scenery.Mesh.FaceGeometry

/-!
# Frames on faces

The axes of a face as the axes of a box that stands on it: X along the binormal, Y along the normal
and Z along the tangent.
-/

namespace Scenery

/-- An origin with three axes. -/
structure FaceFrame (α : Type) where
  binormal : Vec3 α
  normal : Vec3 α
  tangent : Vec3 α
  centroid : Vec3 α
  deriving DecidableEq, Repr

namespace FaceFrame

variable {α : Type}

/-- The frame of a face. -/
def ofGeometry (g : FaceGeometry α) : FaceFrame α :=
  ⟨g.binormal, g.normal, g.tangent, g.centroid⟩

variable [Scalar α]

/-- The axes as columns.  Where they are left-handed, as reflected texture coordinates make them,
the binormal is turned around, which keeps the normal. -/
def axes (f : FaceFrame α) : Mat3 α :=
  let axes := Mat3.ofColumns f.binormal f.normal f.tangent
  if Scalar.lt axes.det 0 then Mat3.ofColumns (-f.binormal) f.normal f.tangent else axes

/-- The placement of the frame. -/
def toMatrix (f : FaceFrame α) : Mat4 α :=
  Mat4.ofParts f.axes f.centroid

/-- The Euler angles of the frame in degrees.  The rotation closest to the axes is taken, as skewed
texture coordinates make them not quite orthogonal. -/
def angles (f : FaceFrame α) : Vec3 α :=
  (Transform.ofMatrix f.toMatrix).rotation

end FaceFrame

end Scenery
