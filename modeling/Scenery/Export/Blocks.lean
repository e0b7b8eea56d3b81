import Scenery.Document.Basic
import Scenery.Scene.World

/-!
# The document of a scene

Every sphere and box generator becomes a design block at the transform above the mesh that it feeds,
spheres before boxes; every camera without a camera below it becomes a camera block at its parent.
-/

namespace Scenery.Export

variable {α : Type}

/-- The failure that a node lacks something. -/
def lacking {β : Type} (s : Scene α) (h : Handle) (lack : Lack) : Except Failure β :=
  .error (.resolution (.node (s.displayName h) lack))

/-- The transform that places the shape of a generator: the parent of the mesh that it feeds. -/
def owningTransform (s : Scene α) (generator : Handle) : Except Failure Handle :=
  match s.output? generator with
  | none => lacking s generator .notConnected
  | some shape =>
    match s.parent? shape with
    | none => lacking s shape .noShapeParent
    | some transform =>
      if s.kind? transform = some .transform then .ok transform
      else lacking s transform .notTransform

/-- The design block of a generator. -/
def designBlock (settings : ExportSettings) (s : Scene α) (generator : Handle) (shape : Shape α) :
    Except Failure (Block α) := do
  let transform ← owningTransform s generator
  let name ← s.name transform
  let position ← s.position transform
  let rotation ← s.rotation transform
  return .design ⟨name, shape, position, rotation, settings.material⟩

/-- The design block of a sphere generator. -/
def sphereBlock (settings : ExportSettings) (s : Scene α) (generator : Handle) :
    Except Failure (Block α) := do
  let radius ← s.radius generator
  designBlock settings s generator (.sphere radius)

/-- The design block of a box generator. -/
def boxBlock [Scalar α] (settings : ExportSettings) (s : Scene α) (generator : Handle) :
    Except Failure (Block α) := do
  let d := (← s.dimensions generator).halves
  designBlock settings s generator (.box d.width d.height d.depth)

/-- The design blocks of all spheres, then of all boxes. -/
def designBlocks [Scalar α] (settings : ExportSettings) (s : Scene α) :
    Except Failure (Document α) := do
  let spheres ← (s.nodesOfKind .sphere).mapM (sphereBlock settings s)
  let boxes ← (s.nodesOfKind .box).mapM (boxBlock settings s)
  return ⟨spheres ++ boxes⟩

/-- The block of a camera. -/
def cameraBlock (s : Scene α) (camera : Handle) : Except Failure (Block α) :=
  match s.parent? camera with
  | none => lacking s camera .noCameraParent
  | some transform => do
    let name ← s.name transform
    let position ← s.position transform
    let rotation ← s.rotation transform
    return .camera ⟨name, position, rotation⟩

/-- The blocks of all cameras without a camera below them. -/
def cameraBlocks (s : Scene α) : Except Failure (Document α) := do
  return ⟨← s.leafCameras.mapM (cameraBlock s)⟩

/-- The document of a scene. -/
def document [Scalar α] (settings : ExportSettings) (s : Scene α) :
    Except Failure (Document α) := do
  let cameras ← cameraBlocks s
  let designs ← designBlocks settings s
  match settings.blockOrder with
  | .camerasFirst => return cameras ++ designs
  | .designBlocksFirst => return designs ++ cameras

end Scenery.Export
