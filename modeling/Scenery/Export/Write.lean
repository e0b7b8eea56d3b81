import Scenery.Document.Render
import Scenery.Export.Blocks

/-!
# Writing the document of a scene

The document is complete and its path is known before anything is written.
-/

namespace Scenery.Export

/-- What was written. -/
structure Report where
  path : String
  designBlocks : Nat
  cameras : Nat
  deriving DecidableEq, Repr

/-- What is to be written where. -/
structure Plan where
  report : Report
  text : String
  deriving DecidableEq, Repr

/-- The path of a scene's document. -/
def outputPath (settings : ExportSettings) (env : Environment) (s : Scene Single) :
    Except Failure String :=
  match location settings env s.savedName? with
  | .ok path => .ok path
  | .error e => .error (.output e)

/-- The document of a scene with its path. -/
def plan (settings : ExportSettings) (env : Environment) (s : Scene Single) :
    Except Failure Plan := do
  let d ← document settings s
  let path ← outputPath settings env s
  return ⟨⟨path, d.designBlocks.length, d.cameraBlocks.length⟩, d.render settings.numberFormat⟩

/-- Writes the document of a scene over any file at its path. -/
def run {m : Type → Type} [Monad m] [MonadFiles m] (settings : ExportSettings) (env : Environment)
    (s : Scene Single) : m (Except Failure Report) := do
  match plan settings env s with
  | .error e => return .error e
  | .ok p =>
    match ← Files.writeText p.report.path p.text with
    | .error e => return .error (.output (.write p.report.path e))
    | .ok () => return .ok p.report

end Scenery.Export
