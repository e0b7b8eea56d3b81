import Scenery.Geometry.Vector

/-!
# Documents

A document is a list of blocks: shapes that are placed, named and given a material, and cameras that
are placed and named.
-/

namespace Scenery

/-- The shape of a design block. -/
inductive Shape (α : Type) where
  | sphere (radius : α)
  | capsule (radius halfHeight : α)
  /-- A box by the halves of its width, height and depth. -/
  | box (halfWidth halfHeight halfDepth : α)
  deriving DecidableEq, Repr

namespace Shape

variable {α : Type}

/-- The sizes of a shape in the order in which they are written. -/
def values : Shape α → List α
  | sphere r => [r]
  | capsule r h => [r, h]
  | box x y z => [x, y, z]

/-- The shape with the given sizes; their number tells the kind. -/
def ofValues? : List α → Option (Shape α)
  | [r] => some (sphere r)
  | [r, h] => some (capsule r h)
  | [x, y, z] => some (box x y z)
  | _ => none

/-- The sizes of a shape tell which shape it is. -/
@[simp] theorem ofValues?_values (s : Shape α) : ofValues? s.values = some s := by
  cases s <;> rfl

/-- The kind and the sizes are the same in value. -/
def eq [Scalar α] : Shape α → Shape α → Bool
  | sphere r, sphere r' => Scalar.eq r r'
  | capsule r h, capsule r' h' => Scalar.eq r r' && Scalar.eq h h'
  | box x y z, box x' y' z' => Scalar.eq x x' && Scalar.eq y y' && Scalar.eq z z'
  | _, _ => false

end Shape

/-- A placed shape. -/
structure DesignBlock (α : Type) where
  name : String
  shape : Shape α
  position : Vec3 α
  /-- Euler angles in degrees. -/
  rotation : Vec3 α
  material : String
  deriving DecidableEq, Repr

/-- A placed camera. -/
structure CameraBlock (α : Type) where
  name : String
  position : Vec3 α
  /-- Euler angles in degrees. -/
  rotation : Vec3 α
  deriving DecidableEq, Repr

/-- One object of a document. -/
inductive Block (α : Type) where
  | design (block : DesignBlock α)
  | camera (block : CameraBlock α)
  deriving DecidableEq, Repr

namespace Block

variable {α : Type}

/-- The name of the object. -/
def name : Block α → String
  | design b => b.name
  | camera b => b.name

/-- The design block, if it is one. -/
def design? : Block α → Option (DesignBlock α)
  | design b => some b
  | camera _ => none

/-- The camera, if it is one. -/
def camera? : Block α → Option (CameraBlock α)
  | camera b => some b
  | design _ => none

/-- All parts are the same in value. -/
def eq [Scalar α] : Block α → Block α → Bool
  | design a, design b =>
    a.name == b.name && a.shape.eq b.shape && a.position.eq b.position &&
      a.rotation.eq b.rotation && a.material == b.material
  | camera a, camera b =>
    a.name == b.name && a.position.eq b.position && a.rotation.eq b.rotation
  | _, _ => false

end Block

/-- Blocks in the order in which they are written. -/
structure Document (α : Type) where
  blocks : List (Block α)
  deriving DecidableEq, Repr

namespace Document

variable {α : Type}

/-- The document without blocks. -/
def empty : Document α := ⟨[]⟩

instance : Append (Document α) := ⟨fun a b => ⟨a.blocks ++ b.blocks⟩⟩

/-- The design blocks in their order. -/
def designBlocks (d : Document α) : List (DesignBlock α) :=
  d.blocks.filterMap Block.design?

/-- The cameras in their order. -/
def cameraBlocks (d : Document α) : List (CameraBlock α) :=
  d.blocks.filterMap Block.camera?

/-- The number of blocks. -/
def size (d : Document α) : Nat := d.blocks.length

/-- The same blocks in the same order, their numbers compared by value. -/
def eq [Scalar α] (a b : Document α) : Bool :=
  a.blocks.length == b.blocks.length &&
    (a.blocks.zip b.blocks).all fun (x, y) => x.eq y

@[simp] theorem blocks_append (a b : Document α) : (a ++ b).blocks = a.blocks ++ b.blocks := rfl

end Document

end Scenery
