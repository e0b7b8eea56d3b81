import Scenery.Document.Basic
import Scenery.Script.Note
import Scenery.Text.Line

/-!
# Reading scripts

The statements of a script build a document.  A design block enters the document when it is
committed, and only with a name, a shape and a material; a camera enters it when the next object or
the end of the text comes.  What the reader does not follow it notes and passes over; a strict
reader stops at the first line with a fault in its values.

* `Reading.step`   one statement
* `read`           a whole text
-/

namespace Scenery.Script

/-- A design block whose parts are still to come. -/
structure Pending where
  name : String
  shape : Option (Shape Single)
  position : Vec3 Single
  rotation : Vec3 Single
  material : Option String
  deriving DecidableEq

namespace Pending

/-- A design block of which only the name is known. -/
def named (name : String) : Pending := ⟨name, none, 0, 0, none⟩

/-- The parts that are missing, in the order in which they are reported. -/
def missing (p : Pending) : List Part :=
  (if p.name.isEmpty then [Part.name] else []) ++
    (if p.shape.isNone then [Part.shape] else []) ++
    (if p.material.isNone then [Part.material] else [])

/-- The design block, if it has a name, a shape and a material. -/
def finish? (p : Pending) : Option (DesignBlock Single) :=
  match p.name.isEmpty, p.shape, p.material with
  | false, some shape, some material => some ⟨p.name, shape, p.position, p.rotation, material⟩
  | _, _, _ => none

end Pending

/-- The object that statements speak of. -/
inductive Current where
  | nothing
  | design (block : Pending)
  | camera (block : CameraBlock Single)
  /-- An object of unknown type. -/
  | other (type : String)
  deriving DecidableEq

/-- How far a script has been read. -/
structure Reading where
  blocks : Array (Block Single)
  current : Current
  notes : Array Note

namespace Reading

/-- Nothing has been read. -/
def start : Reading := ⟨#[], .nothing, #[]⟩

/-- Adds a note. -/
def note (r : Reading) (n : Note) : Reading := { r with notes := r.notes.push n }

/-- Adds a block. -/
def push (r : Reading) (b : Block Single) : Reading := { r with blocks := r.blocks.push b }

/-- Leaves the current object. -/
def close (r : Reading) : Reading :=
  let left := { r with current := .nothing }
  match r.current with
  | .nothing => left
  | .other _ => left
  | .camera c => if c.name.isEmpty then left.note .namelessCamera else left.push (.camera c)
  | .design p => left.note (.neverCommitted p.name)

/-- Begins an object. -/
def create (r : Reading) (line : Nat) (type name : String) : Reading :=
  let r := r.close
  if type = Keyword.designBlock then { r with current := .design (.named name) }
  else if type = Keyword.camera then { r with current := .camera ⟨name, 0, 0⟩ }
  else { r.note (.unknownType line type) with current := .other type }

/-- The value of an attribute that has three numbers. -/
def vector? : Value → Option (Vec3 Single)
  | .numbers [x, y, z] => some ⟨x, y, z⟩
  | _ => none

/-- Sets an attribute of a design block, or tells why not. -/
def designAttribute (line : Nat) (name : String) (v : Value) (p : Pending) :
    Except Note Pending :=
  if name = Keyword.shape then
    match v.numbers?.bind Shape.ofValues? with
    | some shape => .ok { p with shape := some shape }
    | none => .error (.badShape line v)
  else if name = Keyword.position then
    match vector? v with
    | some position => .ok { p with position }
    | none => .error (.badVector line name v)
  else if name = Keyword.rotation then
    match vector? v with
    | some rotation => .ok { p with rotation }
    | none => .error (.badVector line name v)
  else if name = Keyword.material then
    match v.text? with
    | some material => .ok { p with material := some material }
    | none => .error (.badMaterial line)
  else .error (.unknownDesignAttribute line name)

/-- Sets an attribute of a camera, or tells why not. -/
def cameraAttribute (line : Nat) (name : String) (v : Value) (c : CameraBlock Single) :
    Except Note (CameraBlock Single) :=
  if name = Keyword.position then
    match vector? v with
    | some position => .ok { c with position }
    | none => .error (.badVector line name v)
  else if name = Keyword.rotation then
    match vector? v with
    | some rotation => .ok { c with rotation }
    | none => .error (.badVector line name v)
  else .error (.unknownCameraAttribute line name)

/-- Sets an attribute of the current object. -/
def setAttribute (r : Reading) (line : Nat) (name : String) (v : Value) : Reading :=
  match r.current with
  | .nothing => r.note (.strayAttribute line name)
  | .other type => r.note (.ignoredAttribute line name type)
  | .design p =>
    match designAttribute line name v p with
    | .ok p => { r with current := .design p }
    | .error n => r.note n
  | .camera c =>
    match cameraAttribute line name v c with
    | .ok c => { r with current := .camera c }
    | .error n => r.note n

/-- Runs a command; a design block that is committed is left, complete or not. -/
def runCommand (r : Reading) (line : Nat) (name : String) : Reading :=
  if name = Keyword.commit then
    match r.current with
    | .design p =>
      let left := { r with current := .nothing }
      match p.finish? with
      | some block => left.push (.design block)
      | none => left.note (.incomplete line p.name p.missing)
    | _ => r.note (.strayCommit line)
  else r.note (.ignoredCommand line name)

/-- Follows one statement. -/
def step (r : Reading) (line : Nat) : Statement → Reading
  | .create type name => r.create line type name
  | .attribute name value => r.setAttribute line name value
  | .command name _ => r.runCommand line name

end Reading

/-- Whether a line with a fault ends the reading. -/
inductive Mode where
  | lenient
  | strict
  deriving DecidableEq, Repr

/-- Reads the lines from the one with number `n` on; gives the fault that ended the reading. -/
def readLines (mode : Mode) (r : Reading) (n : Nat) : List (List Char) → Option LineError × Reading
  | [] => (none, r)
  | line :: rest =>
    match Statement.ofLine? line with
    | .ok none => readLines mode r (n + 1) rest
    | .ok (some s) => readLines mode (r.step n s) (n + 1) rest
    | .error fault =>
      match mode with
      | .strict => (some ⟨n, fault⟩, r)
      | .lenient => readLines mode (r.note (.badLine ⟨n, fault⟩)) (n + 1) rest

/-- A document or the fault that stopped a strict reader, with the notes made on the way. -/
structure Outcome where
  result : Except LineError (Document Single)
  notes : List Note

/-- Reads a script. -/
def read (mode : Mode) (text : String) : Outcome :=
  match readLines mode .start 1 (Text.lines text.toList) with
  | (some e, r) => ⟨.error e, r.notes.toList⟩
  | (none, r) =>
    let r := r.close
    ⟨.ok ⟨r.blocks.toList⟩, (r.note (.finished r.blocks.size)).notes.toList⟩

end Scenery.Script
