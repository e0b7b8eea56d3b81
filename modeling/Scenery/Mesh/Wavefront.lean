import Scenery.Files
import Scenery.Mesh.Basic
import Scenery.Single
import Scenery.Text.Blank
import Scenery.Text.Line

/-!
# Wavefront meshes

The part of the Wavefront text format that describes polygons: `v` lines bring points, `vt` lines
texture coordinates, and `f` lines faces over what was read so far.  Indices count from one,
negative ones back from the last.  Other lines are passed over.

* `ofText`    a mesh from a text
* `ofBytes`   a mesh from the bytes of a file, which need to be text only as far as they are read
-/

namespace Scenery.Wavefront

/-- What a number of a line is for. -/
inductive Component where
  | vertexX
  | vertexY
  | vertexZ
  | uvU
  | uvV
  deriving DecidableEq, Repr

/-- The name of a component in messages. -/
def Component.label : Component → String
  | vertexX => "vertex x"
  | vertexY => "vertex y"
  | vertexZ => "vertex z"
  | uvU => "tex coord u"
  | uvV => "tex coord v"

/-- What is wrong with a line. -/
inductive Fault where
  | vertexTooShort
  | uvTooShort
  | faceTooShort
  | badNumber (component : Component) (token : String)
  | badIndex (token : String)
  | indexOutOfBounds (index : Int)
  /-- The opposite of an index is no integer of 64 bits, and the program breaks down. -/
  | overflow
  deriving DecidableEq, Repr

/-- Why a mesh could not be read. -/
inductive Error where
  | file (error : FileError)
  | line (number : Nat) (fault : Fault)
  | noFaces
  | invalidMesh (error : MeshError)
  deriving DecidableEq, Repr

/-- The fault concerns the structure and not the spelling of a value. -/
def Fault.isStructural : Fault → Bool
  | faceTooShort | indexOutOfBounds _ => true
  | _ => false

/-- The words of the fault. -/
def Fault.message : Fault → String
  | vertexTooShort => "vertex needs 3 values"
  | uvTooShort => "tex coord needs 2 values"
  | faceTooShort => "face needs at least 3 vertices"
  | badNumber c token => "invalid " ++ c.label ++ " '" ++ token ++ "'"
  | badIndex token => "invalid index '" ++ token ++ "'"
  | indexOutOfBounds i => "index " ++ toString i ++ " out of bounds"
  | overflow => "attempt to negate with overflow"

/-- The program itself broke down over what it read. -/
def Error.isBreakdown : Error → Bool
  | line _ .overflow => true
  | _ => false

/-- The words of the error, with the line if there is one. -/
def Error.message : Error → String
  | file e => "IO error: " ++ e.message
  | line _ .overflow => Fault.overflow.message
  | line n fault =>
    (if fault.isStructural then "Invalid format: " else "Parse error: ") ++
      "Line " ++ toString n ++ ": " ++ fault.message
  | noFaces => "Invalid format: No faces found in OBJ file"
  | invalidMesh e => "Invalid format: " ++ e.message

/-- An integer of 64 bits: an optional sign and at least one digit. -/
def integer? (s : List Char) : Option Int :=
  let (negative, ds) := Magnitude.spanSign s
  if ds.isEmpty || !ds.all Char.isDigit then none
  else
    let n := Nat.ofDigitChars 10 ds 0
    if negative then if n ≤ 0x8000000000000000 then some (-(n : Int)) else none
    else if n < 0x8000000000000000 then some n else none

/-- The place, among `count` values, that an index means: `k` the one before the `k`-th, and `-k`
the `k`-th from the end. -/
def resolve? (index : Int) (count : Nat) : Option Nat :=
  if 0 < index then
    let place := (index - 1).toNat
    if place < count then some place else none
  else
    let back := (-index).toNat
    if 0 < back ∧ back ≤ count then some (count - back) else none

/-- The least integer of 64 bits, the only one whose opposite is none. -/
def leastInteger : Int := -0x8000000000000000

/-- The place that an index token means.  No list is long enough for the least integer, and counting
back by it breaks down before the place is looked at. -/
def place (token : List Char) (count : Nat) : Except Fault Nat :=
  match integer? token with
  | none => .error (.badIndex (String.ofList token))
  | some i =>
    match resolve? i count with
    | none => .error (if i = leastInteger then .overflow else .indexOutOfBounds i)
    | some p => .ok p

/-- The first two parts of a corner of a face, which slashes divide: the index of the point, and of
the texture coordinate if it is there. -/
def cornerTokens (word : List Char) : List Char × Option (List Char) :=
  let position := word.takeWhile (· ≠ '/')
  let uv := (word.drop (position.length + 1)).takeWhile (· ≠ '/')
  (position, if uv.isEmpty then none else some uv)

/-- A corner of a face: the place of its point and, if given, of its texture coordinate. -/
def corner (positions uvs : Nat) (word : List Char) : Except Fault (Nat × Option Nat) := do
  let (position, uv) := cornerTokens word
  let p ← place position positions
  match uv with
  | none => return (p, none)
  | some token => return (p, some (← place token uvs))

/-- A face; texture coordinates that not all corners have are dropped. -/
def face (positions uvs : Nat) (words : List (List Char)) : Except Fault Face := do
  let corners ← words.mapM (corner positions uvs)
  let uvs := corners.filterMap Prod.snd
  return ⟨corners.map Prod.fst, if uvs.length = corners.length then uvs else []⟩

/-- A number of a line. -/
def number (c : Component) (token : List Char) : Except Fault Single :=
  match Single.ofText? token with
  | some x => .ok x
  | none => .error (.badNumber c (String.ofList token))

/-- Reads one line into a mesh, by its words. -/
def step (m : Mesh Single) : List (List Char) → Except Fault (Mesh Single)
  | ['v'] :: args =>
    match args with
    | x :: y :: z :: _ => do
      let x ← number .vertexX x
      let y ← number .vertexY y
      let z ← number .vertexZ z
      return { m with positions := m.positions.push ⟨x, y, z⟩ }
    | _ => .error .vertexTooShort
  | ['v', 't'] :: args =>
    match args with
    | u :: v :: _ => do
      let u ← number .uvU u
      let v ← number .uvV v
      return { m with uvs := m.uvs.push ⟨u, v⟩ }
    | _ => .error .uvTooShort
  | ['f'] :: args =>
    if args.length < 3 then .error .faceTooShort
    else do
      let f ← face m.positions.size m.uvs.size args
      return { m with faces := m.faces.push f }
  | _ => .ok m

/-- Reads the lines from the one with number `n` on; a line may fail to be text. -/
def readLines (m : Mesh Single) (n : Nat) : List (Except FileError (List Char)) →
    Except Error (Mesh Single)
  | [] => .ok m
  | .error e :: _ => .error (.file e)
  | .ok line :: rest =>
    match step m (Text.words line) with
    | .error fault => .error (.line n fault)
    | .ok m => readLines m (n + 1) rest

/-- Reads some lines into a mesh with faces. -/
def ofLines (lines : List (Except FileError (List Char))) : Except Error (Mesh Single) := do
  let m ← readLines .empty 1 lines
  if m.faces.isEmpty then .error .noFaces
  else match m.validate with
    | .error e => .error (.invalidMesh e)
    | .ok () => .ok m

/-- The mesh that a text describes. -/
def ofText (text : String) : Except Error (Mesh Single) :=
  ofLines ((Text.lines text.toList).map .ok)

/-- The lines of some bytes, each with its newline. -/
def splitBytes : List UInt8 → List (List UInt8)
  | [] => []
  | b :: rest =>
    if b = 10 then [b] :: splitBytes rest
    else match splitBytes rest with
      | [] => [[b]]
      | l :: ls => (b :: l) :: ls

/-- The text of a line of bytes, without its line end. -/
def decodeLine (line : List UInt8) : Except FileError (List Char) := do
  let s ← Files.decode ⟨line.toArray⟩
  return (Text.lines s.toList).headD []

/-- The mesh that the bytes of a file describe. -/
def ofBytes (bytes : ByteArray) : Except Error (Mesh Single) :=
  ofLines ((splitBytes bytes.toList).map decodeLine)

/-- The mesh in a file. -/
def load {m : Type → Type} [Monad m] [MonadFiles m] (path : String) :
    m (Except Error (Mesh Single)) := do
  match ← Files.readBytes path with
  | .error e => return .error (.file e)
  | .ok bytes => return ofBytes bytes

end Scenery.Wavefront
