import Scenery.Scene.Basic

/-!
# World space

A node lies where the transforms above it put it.  The walk upwards follows parents only to earlier
places, and the walk downwards children only to later ones, which is where they are in every scene;
so both walks end.
-/

namespace Scenery.Scene

variable {α : Type}

/-- The matrix followed by the transforms of the node at a place and of all nodes above it. -/
def placeInWorld [Scalar α] (s : Scene α) (i : Nat) (m : Mat4 α) : Mat4 α :=
  match s.nodes[i]? with
  | none => m
  | some n =>
    let m := match n.data with
      | .transform t => t.toMatrix * m
      | _ => m
    match n.parent with
    | none => m
    -- parents come before their children, so the second case does not arise
    | some p => if p < i then placeInWorld s p m else m
termination_by i

/-- The placement of a node in the world. -/
def worldMatrix [Scalar α] (s : Scene α) (h : Handle) : Except Failure (Mat4 α) := do
  let (i, _) ← s.entry h
  return s.placeInWorld i 1

/-- The placement in the world of what is above a node. -/
def parentMatrix [Scalar α] (s : Scene α) (h : Handle) : Except Failure (Mat4 α) := do
  let (_, n) ← s.entry h
  match n.parent with
  | none => return 1
  | some p => return s.placeInWorld p 1

/-- The places of the nodes below the one at a place: each child, followed by those below it. -/
def descendants (s : Scene α) (i : Nat) : List Nat :=
  match s.nodes[i]? with
  | none => []
  | some n =>
    -- children come after their parents, so none is left out
    n.children.flatMap fun j => if i < j ∧ j < s.nodes.size then j :: descendants s j else []
termination_by s.nodes.size - i

/-- There is a camera below a node. -/
def hasCameraBelow (s : Scene α) (h : Handle) : Bool :=
  match s.entry? h with
  | none => false
  | some (i, _) => (s.descendants i).any fun j => (s.nodes[j]?).any (·.kind == .camera)

/-- The cameras without a camera below them. -/
def leafCameras (s : Scene α) : List Handle :=
  (s.nodesOfKind .camera).filter (!s.hasCameraBelow ·)

/-- The geometry of a face of a mesh, in the world.  The area is that of the mesh's own space, as
transforms neither scale nor shear. -/
def faceGeometry [Scalar α] (s : Scene α) (h : Handle) (face : Nat) :
    Except Failure (FaceGeometry α) := do
  let m ← s.mesh h
  match m.faceGeometry face with
  | .error e => .error (.geometry (.face (s.displayName h) e))
  | .ok g =>
    let world ← s.worldMatrix h
    let axis (v : Vec3 α) : Vec3 α :=
      ((world.applyVector v).unit? Polygon.leastLength).getD v
    return { area := g.area
             centroid := world.applyPoint g.centroid
             normal := axis g.normal
             tangent := axis g.tangent
             binormal := axis g.binormal }

end Scenery.Scene
