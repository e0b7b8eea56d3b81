import Scenery.Mesh.Basic

/-!
# Geometry of a face

Area, centroid, normal, tangent and binormal of a polygon.  The area is the length of the vector
area, which is right for concave polygons too.  The tangent follows the first texture coordinate at
the first vertex, if the face has usable texture coordinates, and the first edge otherwise.
-/

namespace Scenery

/-- The measures of one face; the axes are taken at its first vertex. -/
structure FaceGeometry (α : Type) where
  area : α
  centroid : Vec3 α
  normal : Vec3 α
  tangent : Vec3 α
  binormal : Vec3 α
  deriving DecidableEq, Repr

/-- Why a face has no geometry. -/
inductive FaceError where
  | noFace (face count : Nat)
  | tooFewVertices (face count : Nat)
  | positionOutOfRange (face index : Nat)
  deriving DecidableEq, Repr

def FaceError.message : FaceError → String
  | noFace i n => "face " ++ toString i ++ " out of range (" ++ toString n ++ " faces)"
  | tooFewVertices i n => "face " ++ toString i ++ " has " ++ toString n ++ " vertices"
  | positionOutOfRange face i => positionOutOfRangeMessage face i

namespace Polygon

variable {α : Type} [Scalar α]

/-- The length up to which a vector counts as zero. -/
def leastLength : α := Scalar.ofDecimal 1 8

/-- Half the sum of the cross products of consecutive corners, seen from the first corner. -/
def vectorArea (points : List (Vec3 α)) : Vec3 α :=
  let origin := points.headD 0
  let next := points.drop 1 ++ points.take 1
  Vec3.sum ((points.zip next).map fun (a, b) => (a - origin).cross (b - origin)) * (Scalar.half : α)

/-- The directions in which the two texture coordinates grow, from two edges and the changes of the
coordinates along them; none if the coordinates hardly change. -/
def uvFrame? (edgeA edgeB : Vec3 α) (uvA uvB : Vec2 α) : Option (Vec3 α × Vec3 α) :=
  let det := uvA.x * uvB.y - uvB.x * uvA.y
  if Scalar.lt (Scalar.abs det) leastLength then none
  else
    let r := 1 / det
    some ((edgeA * uvB.y - edgeB * uvA.y) * r, (edgeB * uvA.x - edgeA * uvB.x) * r)

/-- The unit vector of the part of a vector that is orthogonal to a normal. -/
def orthogonal? (v normal : Vec3 α) : Option (Vec3 α) :=
  (v - normal * normal.dot v).unit? leastLength

/-- The tangent along an edge, or along an axis that is not close to the normal. -/
def edgeTangent (edge normal : Vec3 α) : Vec3 α :=
  match orthogonal? edge normal with
  | some tangent => tangent
  | none =>
    -- the edge has no length or lies along the normal
    if normal.eq 0 then 0
    else
      let axis :=
        if Scalar.lt (Scalar.abs normal.x) (Scalar.ofDecimal 9 1) then Vec3.unitX else Vec3.unitY
      (orthogonal? axis normal).getD 0

/-- The tangent and the handedness, which is minus one where the second texture coordinate grows
against the normal's cross product with the tangent. -/
def tangentFrame (edge normal : Vec3 α) : Option (Vec3 α × Vec3 α) → Vec3 α × α
  | none => (edgeTangent edge normal, 1)
  | some (along, across) =>
    let tangent := (orthogonal? along normal).getD (edgeTangent edge normal)
    (tangent, if Scalar.lt ((normal.cross tangent).dot across) 0 then -1 else 1)

/-- The geometry of the polygon with the given corners, at least three, and with texture coordinates
for all of them or none. -/
def geometry (points : List (Vec3 α)) (uvs : Option (List (Vec2 α))) : FaceGeometry α :=
  let origin := points.headD 0
  let area := vectorArea points
  let normal := (area.unit? leastLength).getD 0
  let edgeNext := points.getD 1 0 - origin
  let edgeLast := points.getLastD 0 - origin
  let frame := uvs.bind fun uvs =>
    let first := uvs.headD ⟨0, 0⟩
    uvFrame? edgeNext edgeLast (uvs.getD 1 ⟨0, 0⟩ - first) (uvs.getLastD ⟨0, 0⟩ - first)
  let (tangent, handedness) := tangentFrame edgeNext normal frame
  { area := area.norm
    centroid := Vec3.sum points / (Scalar.ofNat points.length : α)
    normal
    tangent
    binormal := normal.cross tangent * handedness }

end Polygon

namespace Mesh

variable {α : Type}

/-- The points of a face, or the first index without a point. -/
def facePoints (m : Mesh α) (n : Nat) (f : Face) : Except FaceError (List (Vec3 α)) :=
  f.positions.mapM fun i =>
    match m.positions[i]? with
    | some p => .ok p
    | none => .error (.positionOutOfRange n i)

/-- The texture coordinates of a face, if each vertex has one. -/
def faceUvs? (m : Mesh α) (f : Face) : Option (List (Vec2 α)) :=
  if f.uvs.length ≠ f.positions.length then none else f.uvs.mapM (m.uvs[·]?)

/-- The geometry of the face with number `n`. -/
def faceGeometry [Scalar α] (m : Mesh α) (n : Nat) : Except FaceError (FaceGeometry α) :=
  match m.faces[n]? with
  | none => .error (.noFace n m.faces.size)
  | some f =>
    if f.positions.length < 3 then .error (.tooFewVertices n f.positions.length)
    else (m.facePoints n f).map fun points => Polygon.geometry points (m.faceUvs? f)

end Mesh

end Scenery
