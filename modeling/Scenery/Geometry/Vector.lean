import Scenery.Scalar

/-!
# Vectors

Vectors of two and three scalars with the operations that faces and transforms need.  Sums are taken
from left to right, which fixes the rounding where the scalars round.
-/

namespace Scenery

/-- A pair of scalars, such as a texture coordinate. -/
structure Vec2 (α : Type) where
  x : α
  y : α
  deriving DecidableEq, Repr

/-- A point or a direction in space. -/
structure Vec3 (α : Type) where
  x : α
  y : α
  z : α
  deriving DecidableEq, Repr

namespace Vec2

variable {α : Type} [Scalar α]

instance : Sub (Vec2 α) := ⟨fun a b => ⟨a.x - b.x, a.y - b.y⟩⟩

/-- The components in order. -/
def toList {β : Type} (a : Vec2 β) : List β := [a.x, a.y]

end Vec2

namespace Vec3

variable {α : Type}

/-- The components in order. -/
def toList (a : Vec3 α) : List α := [a.x, a.y, a.z]

/-- A function on every component. -/
def map {β : Type} (f : α → β) (a : Vec3 α) : Vec3 β := ⟨f a.x, f a.y, f a.z⟩

variable [Scalar α]

instance : Zero (Vec3 α) := ⟨⟨0, 0, 0⟩⟩
instance : Inhabited (Vec3 α) := ⟨0⟩
instance : Add (Vec3 α) := ⟨fun a b => ⟨a.x + b.x, a.y + b.y, a.z + b.z⟩⟩
instance : Sub (Vec3 α) := ⟨fun a b => ⟨a.x - b.x, a.y - b.y, a.z - b.z⟩⟩
instance : Neg (Vec3 α) := ⟨map (- ·)⟩
instance : HMul (Vec3 α) α (Vec3 α) := ⟨fun a s => a.map (· * s)⟩
instance : HDiv (Vec3 α) α (Vec3 α) := ⟨fun a s => a.map (· / s)⟩

/-- The unit vector along X. -/
def unitX : Vec3 α := ⟨1, 0, 0⟩

/-- The unit vector along Y. -/
def unitY : Vec3 α := ⟨0, 1, 0⟩

/-- The scalar product. -/
def dot (a b : Vec3 α) : α :=
  a.x * b.x + a.y * b.y + a.z * b.z

/-- The cross product. -/
def cross (a b : Vec3 α) : Vec3 α :=
  ⟨a.y * b.z - a.z * b.y, a.z * b.x - a.x * b.z, a.x * b.y - a.y * b.x⟩

/-- The length. -/
def norm (a : Vec3 α) : α :=
  Scalar.sqrt (a.dot a)

/-- The unit vector of the same direction; none for a vector no longer than `least`. -/
def unit? (a : Vec3 α) (least : α) : Option (Vec3 α) :=
  if Scalar.le a.norm least then none else some (a / a.norm)

/-- The sum of some vectors, from the first on. -/
def sum (vs : List (Vec3 α)) : Vec3 α :=
  vs.foldl (· + ·) 0

/-- All components are equal in value. -/
def eq (a b : Vec3 α) : Bool :=
  Scalar.eq a.x b.x && Scalar.eq a.y b.y && Scalar.eq a.z b.z

end Vec3

end Scenery
