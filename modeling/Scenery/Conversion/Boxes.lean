import Scenery.Conversion.Frame
import Scenery.Scene.Edit

/-!
# Boxes on faces

For every face of a mesh a box is added to the scene, centred on the face and turned to its axes.
Nothing is replaced or removed.  A face without geometry ends the conversion; the boxes of the faces
before it stay.
-/

namespace Scenery.Conversion

variable {α : Type}

/-- What was converted, and the boxes in the order of the faces. -/
structure Report where
  mesh : Handle
  boxes : List CreatedBox
  deriving DecidableEq, Repr

/-- The mesh that the first selected node is or has as its first mesh child. -/
def selectedMesh (s : Scene α) : Except Failure Handle :=
  match s.selection with
  | [] => .error (.selection .nothingSelected)
  | selected :: _ =>
    let notMesh : Except Failure Handle := .error (.selection (.notMesh (s.displayName selected)))
    match s.kind? selected with
    | some .mesh => .ok selected
    | some .transform =>
      match (s.children selected).find? (s.kind? · = some .mesh) with
      | some mesh => .ok mesh
      | none => notMesh
    | _ => notMesh

variable [Scalar α]

/-- The size of the box for a face. -/
def boxDimensions (settings : ConversionSettings) (g : FaceGeometry α) : Dimensions α :=
  match settings.sizeRule with
  | .faceArea => .cube g.area

/-- Adds the box for a face and selects it. -/
def placeBox (settings : ConversionSettings) (g : FaceGeometry α) : Edit α CreatedBox := do
  let frame := FaceFrame.ofGeometry g
  let box ← Scene.createBox (boxDimensions settings g)
  Scene.select box.transform
  Scene.setPosition box.transform frame.centroid .world
  Scene.setRotation box.transform frame.angles .parent
  return box

/-- Adds the box for the face of a mesh with a number. -/
def convertFace (settings : ConversionSettings) (mesh : Handle) (face : Nat) :
    Edit α CreatedBox := do
  let g ← Scene.query (·.faceGeometry mesh face)
  placeBox settings g

/-- Adds a box for every face of a mesh. -/
def convertMesh (settings : ConversionSettings) (mesh : Handle) : Edit α Report := do
  let count ← Scene.query (·.faceCount mesh)
  let boxes ← (List.range count).mapM (convertFace settings mesh)
  return ⟨mesh, boxes⟩

/-- Adds a box for every face of the selected mesh. -/
def convert (settings : ConversionSettings) : Edit α Report := do
  let mesh ← Scene.query selectedMesh
  convertMesh settings mesh

end Scenery.Conversion
