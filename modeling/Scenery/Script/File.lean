import Scenery.Files
import Scenery.Script.Reader

/-!
# Scripts in files
-/

namespace Scenery.Script

/-- Why there is no document. -/
inductive ScriptError where
  | file (path : String) (error : FileError)
  | line (error : LineError)
  deriving DecidableEq, Repr

def ScriptError.message : ScriptError → String
  | file path e => "failed to read " ++ path ++ ": " ++ e.message
  | line e => e.message

/-- A document or the error in its place, with the notes made on the way. -/
structure FileOutcome where
  result : Except ScriptError (Document Single)
  notes : List Note

/-- Reads the script in a file; the path is noted once the file has been read. -/
def load {m : Type → Type} [Monad m] [MonadFiles m] (mode : Mode) (path : String) :
    m FileOutcome := do
  match ← Files.readText path with
  | .error e => return ⟨.error (.file path e), []⟩
  | .ok text =>
    let out := read mode text
    return ⟨out.result.mapError .line, .reading path :: out.notes⟩

end Scenery.Script
