import Scenery.Mesh.Wavefront
import Scenery.Scene.Edit

/-!
# Snapshots

A snapshot describes a scene by its top-level objects: their names, transforms and shapes, and which
of them are selected.  Names of shapes and generators are not kept; they come about again when the
scene is built.

* `Snapshot.toScene`   builds the scene
* `Snapshot.ofScene`   describes a scene
-/

namespace Scenery

/-- The shape of an object. -/
inductive ObjectShape where
  /-- A transform alone. -/
  | empty
  | sphere (radius : Single)
  | box (dimensions : Dimensions Single)
  | camera
  | mesh (value : Mesh Single)
  deriving DecidableEq

/-- Where the shape of an object comes from. -/
inductive ShapeSource where
  | given (shape : ObjectShape)
  /-- A mesh in a Wavefront file, whose path starts at the directory of the snapshot. -/
  | wavefront (path : String)
  deriving DecidableEq

/-- A top-level object. -/
structure SnapshotObject where
  name : String
  transform : Transform Single
  shape : ShapeSource
  deriving DecidableEq

/-- The description of a scene. -/
structure Snapshot where
  /-- File name of the scene, if it was saved. -/
  fileName : Option String
  objects : List SnapshotObject
  /-- Names of the selected nodes. -/
  selection : List String
  deriving DecidableEq

namespace Snapshot

/-- The snapshot of the empty scene. -/
def empty : Snapshot := ⟨none, [], []⟩

/-! ### From a snapshot to a scene -/

/-- Adds an object with the given shape. -/
def addObject (name : String) (t : Transform Single) : ObjectShape → Edit Single Unit
  | .empty => discard (Scene.addTransform name none t)
  | .sphere radius => discard (Scene.addSphere name t radius)
  | .box d => discard (Scene.addBox name t d)
  | .camera => discard (Scene.addCamera name t)
  | .mesh m => discard (Scene.addMesh name t m)

/-- The node with a selected name. -/
def selectedNode (s : Scene Single) (name : String) : Except Failure Handle :=
  match s.find? name with
  | some h => .ok h
  | none => .error (.selection (.unknownObject name))

/-- Selects the nodes with some names. -/
def selectNames (names : List String) : Edit Single Unit := do
  let handles ← Scene.query fun s => names.mapM (selectedNode s)
  Scene.setSelection handles

section Building

variable {m : Type → Type} [Monad m] [MonadFiles m]

/-- The shape that a source gives. -/
def resolveShape (base : String) : ShapeSource → m (Except Failure ObjectShape)
  | .given shape => return .ok shape
  | .wavefront path => do
    let path := String.ofList (Path.join base.toList path.toList)
    match ← Wavefront.load path with
    | .ok mesh => return .ok (.mesh mesh)
    | .error e => return .error (.geometry (.wavefront path e))

/-- Adds some objects to a scene; gives the first failure. -/
def addObjects (base : String) (s : Scene Single) :
    List SnapshotObject → m (Except Failure (Scene Single))
  | [] => return .ok s
  | o :: rest => do
    match ← resolveShape base o.shape with
    | .error e => return .error e
    | .ok shape =>
      match (addObject o.name o.transform shape).run s with
      | (.error e, _) => return .error e
      | (.ok (), s) => addObjects base s rest

/-- The scene that a snapshot in the directory `base` describes. -/
def toScene (base : String) (snapshot : Snapshot) : m (Except Failure (Scene Single)) := do
  match ← addObjects base { Scene.empty with fileName := snapshot.fileName } snapshot.objects with
  | .error e => return .error e
  | .ok s =>
    match (selectNames snapshot.selection).run s with
    | (.error e, _) => return .error e
    | (.ok (), s) => return .ok s

end Building

/-! ### From a scene to a snapshot -/

/-- The generator that feeds a mesh, spheres being asked before boxes. -/
def generatorOf? (s : Scene Single) (mesh : Handle) : Option Handle :=
  (s.nodesOfKind .sphere ++ s.nodesOfKind .box).find? (s.output? · = some mesh)

/-- The shape of a mesh node: that of its generator, or else the mesh itself. -/
def captureMesh (s : Scene Single) (mesh : Handle) : Except Failure ObjectShape :=
  match generatorOf? s mesh with
  | none => (s.mesh mesh).map .mesh
  | some generator =>
    if s.kind? generator = some .sphere then (s.radius generator).map .sphere
    else (s.dimensions generator).map .box

/-- The shape of a top-level transform, which its first child tells. -/
def captureShape (s : Scene Single) (transform : Handle) : Except Failure ObjectShape :=
  match s.children transform with
  | [] => .ok .empty
  | shape :: _ =>
    match s.kind? shape with
    | some .camera => .ok .camera
    | some .mesh => captureMesh s shape
    | _ => .ok .empty

/-- The object of a top-level transform. -/
def captureObject (s : Scene Single) (root : Handle) : Except Failure SnapshotObject := do
  let t ← s.transform root
  let name ← s.name root
  let shape ← captureShape s root
  return ⟨name, t, .given shape⟩

/-- The snapshot of a scene. -/
def ofScene (s : Scene Single) : Except Failure Snapshot := do
  let roots := s.roots.filter (s.kind? · = some .transform)
  let objects ← roots.mapM (captureObject s)
  let selection ← s.selection.mapM s.name
  return ⟨s.savedName?, objects, selection⟩

end Snapshot

end Scenery
