import Scenery.Snapshot.Basic
import Scenery.Storage.File

/-!
# Snapshots in files

Objects need a name and a shape, and meshes their points and faces; all else may be missing.
Texture coordinates are not written where there are none.
-/

namespace Scenery

/-- A field with a list, unless the list is empty. -/
def Datum.filledField (name : String) (items : List Datum) : List (String × Datum) :=
  if items.isEmpty then [] else [(name, .list items)]

namespace Face

def schema : Schema :=
  .record "Face" [("positions", .list .index), ("uvs", .list .index)]

def encode (f : Face) : Datum :=
  .record (("positions", .list (f.positions.map .index)) ::
    Datum.filledField "uvs" (f.uvs.map .index))

def decode (d : Datum) : Option Face := do
  let fields ← d.fields?
  let positions ← Datum.require fields "positions" (Datum.list? Datum.index?)
  let uvs ← Datum.orElse fields "uvs" [] (Datum.list? Datum.index?)
  return ⟨positions, uvs⟩

end Face

namespace Mesh

def schema : Schema :=
  .record "PolygonMesh" [("positions", .list (.tuple 3)), ("uvs", .list (.tuple 2)),
    ("faces", .list Face.schema)]

def encode (m : Mesh Single) : Datum :=
  .record (("positions", .list (m.positions.toList.map fun p => .tuple p.toList)) ::
    Datum.filledField "uvs" (m.uvs.toList.map fun u => .tuple u.toList) ++
    [("faces", .list (m.faces.toList.map Face.encode))])

def decode (d : Datum) : Option (Mesh Single) := do
  let fields ← d.fields?
  let positions ← Datum.require fields "positions" (Datum.list? Datum.vector?)
  let uvs ← Datum.orElse fields "uvs" [] (Datum.list? Datum.pair?)
  let faces ← Datum.require fields "faces" (Datum.list? Face.decode)
  return ⟨positions.toArray, uvs.toArray, faces.toArray⟩

end Mesh

namespace ShapeSource

def schema : Schema :=
  .choice [("Empty", .word), ("Sphere", .variant [("radius", .number)]),
    ("Box", .variant [("width", .number), ("height", .number), ("depth", .number)]),
    ("Camera", .word), ("ObjMesh", .variant [("path", .text)]),
    ("Mesh", .wrapped Mesh.schema)]

def encode : ShapeSource → Datum
  | given .empty => .word "Empty"
  | given (.sphere radius) => .variant "Sphere" [("radius", .number radius)]
  | given (.box d) =>
    .variant "Box" [("width", .number d.width), ("height", .number d.height),
      ("depth", .number d.depth)]
  | given .camera => .word "Camera"
  | wavefront path => .variant "ObjMesh" [("path", .text path)]
  | given (.mesh m) => .wrapped "Mesh" m.encode

/-- The sizes of a box, all three of which must be there. -/
def decodeBox (fields : List (String × Datum)) : Option (Dimensions Single) := do
  let width ← Datum.require fields "width" Datum.number?
  let height ← Datum.require fields "height" Datum.number?
  let depth ← Datum.require fields "depth" Datum.number?
  return ⟨width, height, depth⟩

def decode : Datum → Option ShapeSource
  | .word "Empty" => some (given .empty)
  | .word "Camera" => some (given .camera)
  | .variant "Sphere" fields =>
    (Datum.require fields "radius" Datum.number?).map fun radius => given (.sphere radius)
  | .variant "Box" fields => (decodeBox fields).map fun d => given (.box d)
  | .variant "ObjMesh" fields => (Datum.require fields "path" Datum.text?).map wavefront
  | .wrapped "Mesh" d => (Mesh.decode d).map fun m => given (.mesh m)
  | _ => none

end ShapeSource

namespace SnapshotObject

def schema : Schema :=
  .record "SnapshotObject" [("name", .text), ("translate", .leading 3), ("rotate", .leading 3),
    ("shape", ShapeSource.schema)]

def encode (o : SnapshotObject) : Datum :=
  .record [("name", .text o.name), ("translate", .tuple o.transform.position.toList),
    ("rotate", .tuple o.transform.rotation.toList), ("shape", o.shape.encode)]

def decode (d : Datum) : Option SnapshotObject := do
  let fields ← d.fields?
  let name ← Datum.require fields "name" Datum.text?
  let position ← Datum.orElse fields "translate" 0 Datum.vector?
  let rotation ← Datum.orElse fields "rotate" 0 Datum.vector?
  let shape ← Datum.require fields "shape" ShapeSource.decode
  return ⟨name, ⟨position, rotation⟩, shape⟩

end SnapshotObject

namespace Snapshot

def schema : Schema :=
  .record "SceneSnapshot" [("file_name", .optional .text),
    ("objects", .list SnapshotObject.schema), ("selection", .list .text)]

def encode (s : Snapshot) : Datum :=
  .record [("file_name", .optional (s.fileName.map .text)),
    ("objects", .list (s.objects.map SnapshotObject.encode)),
    ("selection", .list (s.selection.map .text))]

def decode (d : Datum) : Option Snapshot := do
  let fields ← d.fields?
  let fileName ← Datum.orElse fields "file_name" none (Datum.optional? Datum.text?)
  let objects ← Datum.orElse fields "objects" [] (Datum.list? SnapshotObject.decode)
  let selection ← Datum.orElse fields "selection" [] (Datum.list? Datum.text?)
  return ⟨fileName, objects, selection⟩

instance : Stored Snapshot := ⟨empty, schema, encode, decode⟩

section Loading

variable {m : Type → Type} [Monad m] [MonadFiles m]

/-- The scene of a snapshot file; paths in the snapshot start at its directory. -/
def loadScene (path : String) : m (Except Failure (Scene Single)) := do
  let loaded : Except StorageError Snapshot ← Storage.load path
  match loaded with
  | .error e => return .error (.storage e)
  | .ok snapshot =>
    let base := ((Path.parent? path.toList).map String.ofList).getD "."
    toScene base snapshot

/-- Puts the snapshot of a scene into a file. -/
def saveScene (path : String) (s : Scene Single) : m (Except Failure Unit) := do
  match ofScene s with
  | .error e => return .error e
  | .ok snapshot =>
    match ← Storage.save path snapshot with
    | .error e => return .error (.storage e)
    | .ok () => return .ok ()

end Loading

end Snapshot

end Scenery
