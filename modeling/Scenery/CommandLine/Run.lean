import Scenery.Command.Registry
import Scenery.CommandLine.Request
import Scenery.Script.File
import Scenery.Settings.Stored
import Scenery.Snapshot.Stored

/-!
# Runs of the program

A run follows one request.  It prints what it achieves as it goes, so that what was printed stays
when a later step fails, and it ends with an exit code.

* `run`   follows the words of a command line
-/

namespace Scenery

/-! ### Causes -/

/-- The words of an error and those of its causes, one after the other. -/
def StorageError.causes (e : StorageError) : List String :=
  e.message :: match e with
    | .file f => [f.message]
    | _ => []

/-- The words of an error and those of its causes, one after the other. -/
def OutputError.causes (e : OutputError) : List String :=
  e.message :: match e with
    | .write _ f => [f.message]
    | _ => []

/-- The words of a failure and those of its causes, one after the other. -/
def Failure.causes (e : Failure) : List String :=
  e.message :: match e with
    | .output e => e.causes
    | .storage e => e.causes
    | _ => []

namespace CommandLine

/-- What stops a run, with its causes from the outermost on. -/
structure Trouble where
  message : String
  causes : List String
  /-- The program itself broke down. -/
  breakdown : Bool := false
  deriving DecidableEq, Repr

namespace Trouble

/-- Trouble with a cause that tells itself what happened. -/
def ofFailure (e : Failure) : Trouble := { message := e.message, causes := e.causes.tail }

/-- Trouble with a script. -/
def ofScriptError (e : Script.ScriptError) : Trouble where
  message := e.message
  causes := match e with
    | .file _ f => [f.message]
    | .line _ => []

/-- The lines of a text behind a mark, under which all but the first are indented. -/
def indented (mark : String) (text : String) : String :=
  let indentation := String.ofList (List.replicate mark.length ' ')
  mark ++ String.join ((text.toList.map fun c =>
    if c = '\n' then "\n" ++ indentation else String.singleton c))

/-- A cause with its number. -/
def numbered (n : Nat) (cause : String) : String :=
  let digits := toString n
  indented (String.ofList (List.replicate (5 - digits.length) ' ') ++ digits ++ ": ") cause ++ "\n"

/-- The report of a trouble; causes are numbered where there are several. -/
def report (t : Trouble) : String :=
  "Error: " ++ t.message ++ "\n" ++ match t.causes with
    | [] => ""
    | [cause] => "\nCaused by:\n" ++ indented "    " cause ++ "\n"
    | causes => "\nCaused by:\n" ++ String.join (causes.mapIdx numbered)

end Trouble

/-- How following a request ends: what was printed, and what stopped it. -/
structure Ending where
  printed : String
  trouble : Option Trouble
  deriving DecidableEq, Repr

namespace Ending

/-- The request was followed to its end. -/
def done (printed : String) : Ending := ⟨printed, none⟩

/-- Nothing was printed before the trouble. -/
def stopped (t : Trouble) : Ending := ⟨"", some t⟩

end Ending

variable {m : Type → Type} [Monad m] [MonadFiles m]

/-! ### Steps -/

/-- A path that may be missing, in messages. -/
def displayPath (path : Option String) : String :=
  match path with
  | none => "None"
  | some p => "Some(" ++ String.ofList (Text.Escaping.full.quoted p.toList) ++ ")"

/-- The settings in a file, or the initial ones, if they make sense. -/
def loadSettings (path : Option String) : m (Except Trouble Settings) := do
  match ← Storage.loadOrInitial path with
  | .error (e : StorageError) =>
    return .error { message := "Failed to load configuration " ++ displayPath path, causes := e.causes }
  | .ok (settings : Settings) =>
    match settings.validate with
    | .error e => return .error { message := "Invalid configuration", causes := [e.message] }
    | .ok () => return .ok settings

/-- The scene of a snapshot file. -/
def loadScene (path : String) : m (Except Trouble (Scene Single)) := do
  match ← Snapshot.loadScene path with
  | .error e => return .error ⟨"Failed to load scene snapshot " ++ path, e.causes, e.isBreakdown⟩
  | .ok s => return .ok s

/-- Runs a standard command from a registry that holds the two of them. -/
def runCommand (settings : Settings) (env : Environment) (name : String) (s : Scene Single) :
    m (Except Trouble Command.Output × Scene Single) := do
  -- each run has a registry of its own, which is empty before and after
  match (Registry.load settings).run .empty with
  | (.error e, _) => return (.error (.ofFailure e), s)
  | (.ok (), registry) =>
    match ← registry.invoke env name s with
    | (.error e, s) => return (.error { message := name ++ " failed", causes := e.causes }, s)
    | (.ok output, s) =>
      match Registry.unload.run registry with
      | (.error e, _) => return (.error (.ofFailure e), s)
      | (.ok (), _) => return (.ok output, s)

/-! ### Writing a document -/

/-- The settings with the choices of a request in place of their own. -/
def ExportRequest.adjust (r : ExportRequest) (s : Settings) : Settings :=
  { s with exporting :=
    { s.exporting with
      rootOverride := r.root <|> s.exporting.rootOverride
      blockOrder := r.order.getD s.exporting.blockOrder
      numberFormat := if r.compact then .compact else s.exporting.numberFormat } }

/-- What is printed about a written document. -/
def exportedLine (r : Export.Report) : String :=
  "Exported " ++ toString r.designBlocks ++ " design block(s) and " ++ toString r.cameras ++
    " camera(s) to " ++ r.path ++ "\n"

/-- Writes the document of a scene.  The value of the variable with the content root is looked up
when its name is known. -/
def writeDocument (lookUp : String → m (Option String)) (r : ExportRequest) : m Ending := do
  match ← loadSettings r.settings with
  | .error t => return .stopped t
  | .ok settings =>
    let settings := r.adjust settings
    match ← loadScene r.snapshot with
    | .error t => return .stopped t
    | .ok s =>
      let root ← lookUp settings.exporting.rootVariable
      match ← runCommand settings (fun _ => root) Command.exportSceneName s with
      | (.ok (.exported report), _) => return .done (exportedLine report)
      | (.ok (.converted _), _) => return .done ""
      | (.error t, _) => return .stopped t

/-! ### Adding boxes -/

/-- The scene with the object of a name selected. -/
def selectObject (name : Option String) (s : Scene Single) : Except Trouble (Scene Single) :=
  match name with
  | none => .ok s
  | some name =>
    match s.find? name with
    | none => .error { message := "No object named '" ++ name ++ "'", causes := [] }
    | some h =>
      match (Scene.select h).run s with
      | (.error e, _) => .error (.ofFailure e)
      | (.ok (), s) => .ok s

/-- What is printed about added boxes. -/
def convertedLine (r : Conversion.Report) (s : Scene Single) : Except Trouble String :=
  match s.name r.mesh with
  | .error e => .error (.ofFailure e)
  | .ok mesh => .ok ("Created " ++ toString r.boxes.length ++ " box(es) from '" ++ mesh ++ "'\n")

/-- Saves the edited scene where a request asks for it, after something was printed. -/
def saveEdited (printed : String) (path : Option String) (s : Scene Single) : m Ending := do
  match path with
  | none => return .done printed
  | some path =>
    match Snapshot.ofScene s with
    | .error e => return ⟨printed, some (.ofFailure e)⟩
    | .ok snapshot =>
      match ← Storage.save path snapshot with
      | .error e =>
        return ⟨printed, some { message := "Failed to save scene snapshot " ++ path, causes := e.causes }⟩
      | .ok () => return .done (printed ++ "Saved scene to " ++ path ++ "\n")

/-- Adds a box for every face of the selected mesh. -/
def makeBoxes (r : BoxesRequest) : m Ending := do
  match ← loadSettings r.settings with
  | .error t => return .stopped t
  | .ok settings =>
    match ← loadScene r.snapshot with
    | .error t => return .stopped t
    | .ok s =>
      match selectObject r.selected s with
      | .error t => return .stopped t
      | .ok s =>
        match ← runCommand settings (fun _ => none) Command.meshToBoxesName s with
        | (.error t, _) => return .stopped t
        | (.ok (.exported _), s) => saveEdited "" r.save s
        | (.ok (.converted report), s) =>
          match convertedLine report s with
          | .error t => return .stopped t
          | .ok line => saveEdited line r.save s

/-! ### Listing blocks -/

/-- A text in a column of so many characters. -/
def column (width : Nat) (s : String) : String :=
  s ++ String.ofList (List.replicate (width - s.length) ' ')

/-- A number in messages. -/
def number (x : Single) : String := NumberFormat.full.format x

/-- A shape in messages. -/
def displayShape : Shape Single → String
  | .sphere r => "Sphere \x7b radius: " ++ number r ++ " \x7d"
  | .capsule r h => "Capsule \x7b radius: " ++ number r ++ ", half_height: " ++ number h ++ " \x7d"
  | .box x y z => "Box \x7b half_extents: " ++ NumberFormat.bracketed [x, y, z] ++ " \x7d"

/-- The line of a listing for a camera. -/
def cameraLine (c : CameraBlock Single) : String :=
  "camera  " ++ column 24 c.name ++ " pos " ++ NumberFormat.bracketed c.position.toList ++
    " rot " ++ NumberFormat.bracketed c.rotation.toList ++ "\n"

/-- The line of a listing for a design block. -/
def designLine (b : DesignBlock Single) : String :=
  "dblock  " ++ column 24 b.name ++ " " ++ displayShape b.shape ++ " pos " ++
    NumberFormat.bracketed b.position.toList ++ " material " ++ b.material ++ "\n"

/-- The list of the blocks of a document, cameras first. -/
def listing (d : Document Single) : String :=
  String.join (d.cameraBlocks.map cameraLine) ++ String.join (d.designBlocks.map designLine) ++
    toString d.size ++ " block(s)\n"

/-- Lists the blocks of a script. -/
def inspect (r : InspectRequest) : m Ending := do
  match ← loadSettings none with
  | .error t => return .stopped t
  | .ok _ =>
    match (← Script.load (if r.strict then .strict else .lenient) r.script).result with
    | .error e => return .stopped (.ofScriptError e)
    | .ok d => return .done (listing d)

/-! ### Whole runs -/

/-- What a run leaves besides files. -/
structure Outcome where
  exitCode : UInt32
  /-- What was printed. -/
  printed : String
  /-- The report of what went wrong. -/
  report : String
  deriving DecidableEq, Repr

/-- Follows a request. -/
def follow (lookUp : String → m (Option String)) : Request → m Ending
  | .writeDocument r => writeDocument lookUp r
  | .makeBoxes r => makeBoxes r
  | .inspect r => inspect r
  | .help text => return .done text

/-- The exit code that tells of a trouble. -/
def Trouble.exitCode (t : Trouble) : UInt32 := if t.breakdown then 101 else 1

/-- A run that ends in trouble never counts as a success. -/
theorem Trouble.exitCode_ne_zero (t : Trouble) : t.exitCode ≠ 0 := by
  unfold exitCode
  split <;> decide

/-- The outcome of a request that ended. -/
def Ending.outcome (e : Ending) : Outcome :=
  match e.trouble with
  | none => ⟨0, e.printed, ""⟩
  | some t => ⟨t.exitCode, e.printed, t.report⟩

/-- The outcome of a command line that cannot be understood. -/
def UsageError.outcome (e : UsageError) : Outcome :=
  ⟨2, "", "error: " ++ e.message ++ "\n\nFor more information, try '--help'.\n"⟩

/-- Follows the words of a command line. -/
def run (lookUp : String → m (Option String)) (words : List String) : m Outcome := do
  match Request.ofWords words with
  | .error e => return e.outcome
  | .ok request => return (← follow lookUp request).outcome

end CommandLine

end Scenery
