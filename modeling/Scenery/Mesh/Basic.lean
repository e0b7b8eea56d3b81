import Scenery.Geometry.Vector

/-!
# Polygon meshes

A mesh is a list of points, a list of texture coordinates, and faces that refer to both by index.  A
face keeps all its vertices, in winding order, and has either no texture coordinates or one for each
vertex; `validate` checks that and the range of the indices.
-/

namespace Scenery

/-- A polygon, by the indices of its points and of their texture coordinates. -/
structure Face where
  positions : List Nat
  uvs : List Nat
  deriving DecidableEq, Repr

/-- Polygons over shared points. -/
structure Mesh (α : Type) where
  positions : Array (Vec3 α)
  uvs : Array (Vec2 α)
  faces : Array Face
  deriving DecidableEq, Repr

/-- What is wrong with a mesh. -/
inductive MeshError where
  | positionOutOfRange (face index : Nat)
  /-- There are texture coordinates, but not one for each vertex. -/
  | uvCountMismatch (face : Nat)
  | uvOutOfRange (face index : Nat)
  deriving DecidableEq, Repr

/-- The words of a report about a face. -/
def atFace (face : Nat) (what : String) : String :=
  "face " ++ toString face ++ ": " ++ what

/-- The words for a position index without a point. -/
def positionOutOfRangeMessage (face index : Nat) : String :=
  atFace face ("position index " ++ toString index ++ " out of range")

def MeshError.message : MeshError → String
  | positionOutOfRange face i => positionOutOfRangeMessage face i
  | uvCountMismatch face => atFace face "uv count does not match vertex count"
  | uvOutOfRange face i => atFace face ("uv index " ++ toString i ++ " out of range")

/-- The first fault of the face with number `n`, over so many points and texture coordinates. -/
def Face.fault? (f : Face) (n positions uvs : Nat) : Option MeshError :=
  match f.positions.find? (positions ≤ ·) with
  | some i => some (.positionOutOfRange n i)
  | none =>
    if f.uvs.isEmpty then none
    else if f.uvs.length ≠ f.positions.length then some (.uvCountMismatch n)
    else (f.uvs.find? (uvs ≤ ·)).map (.uvOutOfRange n)

namespace Mesh

variable {α : Type}

/-- The mesh without points and faces. -/
def empty : Mesh α := ⟨#[], #[], #[]⟩

/-- The first fault of the faces from number `n` on. -/
def firstFault? (positions uvs : Nat) : Nat → List Face → Option MeshError
  | _, [] => none
  | n, f :: fs => (f.fault? n positions uvs).or (firstFault? positions uvs (n + 1) fs)

/-- The first fault of a mesh. -/
def fault? (m : Mesh α) : Option MeshError :=
  firstFault? m.positions.size m.uvs.size 0 m.faces.toList

/-- Checks that every index of a face has its point or texture coordinate. -/
def validate (m : Mesh α) : Except MeshError Unit :=
  match m.fault? with
  | some e => .error e
  | none => .ok ()

/-- The number of faces. -/
def faceCount (m : Mesh α) : Nat := m.faces.size

end Mesh

end Scenery
