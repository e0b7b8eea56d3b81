import Scenery.Failure
import Scenery.Geometry.Transform

/-!
# Scenes

A scene keeps its nodes at places; nodes are never removed, so the place of a node is its name for
other nodes.  A node knows its parent, its children and, if it generates a shape, the shape that it
feeds.  Beside the nodes a scene keeps the order of their creation and a table of their names.

* `Scene.children`   the nodes below a node, in the order of creation
* `Scene.find?`      the node with a name
-/

namespace Scenery

/-- What a node is. -/
inductive NodeKind where
  /-- Places its children. -/
  | transform
  /-- Generates a sphere for a mesh. -/
  | sphere
  /-- Generates a box for a mesh. -/
  | box
  | mesh
  | camera
  deriving DecidableEq, Repr

/-- Width, height and depth of a box. -/
structure Dimensions (α : Type) where
  width : α
  height : α
  depth : α
  deriving DecidableEq, Repr

namespace Dimensions

variable {α : Type}

/-- The dimensions of a cube. -/
def cube (side : α) : Dimensions α := ⟨side, side, side⟩

/-- The dimensions in order. -/
def toList (d : Dimensions α) : List α := [d.width, d.height, d.depth]

/-- Half of each dimension. -/
def halves [Scalar α] (d : Dimensions α) : Dimensions α :=
  ⟨d.width * Scalar.half, d.height * Scalar.half, d.depth * Scalar.half⟩

end Dimensions

/-- What a node holds, according to its kind. -/
inductive NodeData (α : Type) where
  | transform (value : Transform α)
  | sphere (radius : α)
  | box (dimensions : Dimensions α)
  | mesh (value : Mesh α)
  | camera
  deriving DecidableEq, Repr

/-- The kind of node that holds the data. -/
def NodeData.kind {α : Type} : NodeData α → NodeKind
  | transform _ => .transform
  | sphere _ => .sphere
  | box _ => .box
  | mesh _ => .mesh
  | camera => .camera

/-- A node; other nodes appear in it by their places. -/
structure Node (α : Type) where
  name : String
  parent : Option Nat
  /-- The nodes directly below, in the order of their creation. -/
  children : List Nat
  /-- The mesh that a generator feeds. -/
  output : Option Nat
  data : NodeData α
  deriving DecidableEq, Repr

/-- The kind of a node is that of its data. -/
def Node.kind {α : Type} (n : Node α) : NodeKind := n.data.kind

/-- Nodes with the order of their creation and their names, the file name and the selection. -/
structure Scene (α : Type) where
  /-- The nodes at their places. -/
  nodes : Array (Node α)
  /-- The places in the order in which the nodes were created. -/
  order : List Nat
  /-- The places of the nodes by their names; a later entry for a name hides an earlier one. -/
  names : List (String × Nat)
  fileName : Option String
  /-- Places of the selected nodes. -/
  selected : List Nat
  deriving DecidableEq, Repr

namespace Scene

variable {α : Type}

/-- The scene without nodes, not saved yet. -/
def empty : Scene α := ⟨#[], [], [], none, []⟩

/-- The number of nodes. -/
def size (s : Scene α) : Nat := s.order.length

/-- There is a node at a place. -/
def holds (s : Scene α) (i : Nat) : Bool := i < s.nodes.size

/-- The handles of the nodes with a property, in the order of creation. -/
def handlesWhere (s : Scene α) (p : Node α → Bool) : List Handle :=
  (s.order.filter fun i => (s.nodes[i]?).any p).map Handle.ofPlace

/-- The node at a handle, with its place. -/
def entry? (s : Scene α) (h : Handle) : Option (Nat × Node α) :=
  h.place?.bind fun i => (s.nodes[i]?).map (i, ·)

/-- The node at a handle. -/
def node? (s : Scene α) (h : Handle) : Option (Node α) :=
  (s.entry? h).map Prod.snd

/-- The handle names a node. -/
def isLive (s : Scene α) (h : Handle) : Bool := (s.entry? h).isSome

/-- The node at a handle, or the failure that the handle is stale. -/
def entry (s : Scene α) (h : Handle) : Except Failure (Nat × Node α) :=
  match s.entry? h with
  | some e => .ok e
  | none => .error (.resolution (.staleHandle h))

/-- The node with a name. -/
def find? (s : Scene α) (name : String) : Option Handle :=
  (s.names.lookup name).map Handle.ofPlace

/-- Some node has the name. -/
def hasName (s : Scene α) (name : String) : Bool := (s.names.lookup name).isSome

/-- The nodes without a parent. -/
def roots (s : Scene α) : List Handle := s.handlesWhere (·.parent.isNone)

/-- The nodes of a kind. -/
def nodesOfKind (s : Scene α) (kind : NodeKind) : List Handle := s.handlesWhere (·.kind == kind)

/-- The kind of a node; a stale handle has none. -/
def kind? (s : Scene α) (h : Handle) : Option NodeKind := (s.node? h).map Node.kind

/-- The node directly above, if there is one. -/
def parent? (s : Scene α) (h : Handle) : Option Handle :=
  ((s.node? h).bind Node.parent).map Handle.ofPlace

/-- The nodes directly below a node. -/
def children (s : Scene α) (h : Handle) : List Handle :=
  match s.node? h with
  | none => []
  | some n => n.children.map Handle.ofPlace

/-- The mesh that a generator feeds. -/
def output? (s : Scene α) (h : Handle) : Option Handle :=
  (((s.node? h).bind Node.output).filter s.holds).map Handle.ofPlace

/-- The name of a node. -/
def name (s : Scene α) (h : Handle) : Except Failure String :=
  (s.entry h).map (·.2.name)

/-- The name of a node for messages; a stale handle is shown itself. -/
def displayName (s : Scene α) (h : Handle) : String :=
  match s.node? h with
  | some n => n.name
  | none => h.display

/-- The selected nodes in the order of their selection. -/
def selection (s : Scene α) : List Handle := (s.selected.filter s.holds).map Handle.ofPlace

/-- The file name of a scene that was saved. -/
def savedName? (s : Scene α) : Option String := s.fileName.filter (!·.isEmpty)

/-! ### What nodes hold -/

/-- What a node holds, seen as one kind of data. -/
def aspect {β : Type} (s : Scene α) (h : Handle) (lack : Lack) (view : NodeData α → Option β) :
    Except Failure β := do
  let (_, n) ← s.entry h
  match view n.data with
  | some b => .ok b
  | none => .error (.resolution (.node n.name lack))

/-- The value of a transform. -/
def transform (s : Scene α) (h : Handle) : Except Failure (Transform α) :=
  s.aspect h .notTransform fun
    | .transform t => some t
    | _ => none

/-- The value of a mesh. -/
def mesh (s : Scene α) (h : Handle) : Except Failure (Mesh α) :=
  s.aspect h .notMesh fun
    | .mesh m => some m
    | _ => none

/-- The radius of a generator of spheres. -/
def radius (s : Scene α) (h : Handle) : Except Failure α :=
  s.aspect h .noRadius fun
    | .sphere r => some r
    | _ => none

/-- The sizes of a generator of boxes. -/
def dimensions (s : Scene α) (h : Handle) : Except Failure (Dimensions α) :=
  s.aspect h .noDimensions fun
    | .box d => some d
    | _ => none

/-- Where a transform stands, seen from its parent. -/
def position (s : Scene α) (h : Handle) : Except Failure (Vec3 α) :=
  (s.transform h).map (·.position)

/-- How a transform is turned, seen from its parent. -/
def rotation (s : Scene α) (h : Handle) : Except Failure (Vec3 α) :=
  (s.transform h).map (·.rotation)

/-- The number of faces of a mesh. -/
def faceCount (s : Scene α) (h : Handle) : Except Failure Nat :=
  (s.mesh h).map Mesh.faceCount

end Scene

end Scenery
