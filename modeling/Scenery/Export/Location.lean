import Scenery.Files
import Scenery.Path
import Scenery.Settings

/-!
# Where documents go

A document lies in the directory of the settings below the content root, under the base name of the
scene: the last component of the scene's file name up to its first point.
-/

namespace Scenery

/-- The values of environment variables. -/
abbrev Environment := String → Option String

/-- Why a document has no place or could not be written. -/
inductive OutputError where
  | unsavedScene
  | missingRoot (variableName : String)
  | write (path : String) (error : FileError)
  deriving DecidableEq, Repr

def OutputError.message : OutputError → String
  | unsavedScene => "scene has never been saved"
  | missingRoot v => "content root not set (environment variable " ++ v ++ ")"
  | write path e => "failed to write " ++ path ++ ": " ++ e.message

namespace Export

/-- The base name of a scene's file name; none if nothing is left. -/
def baseName? (fileName : String) : Option String :=
  let short := (Path.fileName? fileName.toList).getD fileName.toList
  let base := short.takeWhile (· ≠ '.')
  if base.isEmpty then none else some (String.ofList base)

/-- The content root: that of the settings, else that of the environment. -/
def contentRoot (s : ExportSettings) (env : Environment) : Except OutputError String :=
  match s.rootOverride with
  | some root => .ok root
  | none =>
    match (env s.rootVariable).filter (!·.isEmpty) with
    | some root => .ok root
    | none => .error (.missingRoot s.rootVariable)

/-- The path of the document with a base name below a content root. -/
def documentPath (s : ExportSettings) (root base : String) : String :=
  String.ofList
    (Path.withExtension (Path.join (Path.join root.toList s.directory.toList) base.toList)
      s.extension.toList)

/-- The path of the document of a scene with the given file name. -/
def location (s : ExportSettings) (env : Environment) (fileName : Option String) :
    Except OutputError String := do
  match fileName.bind baseName? with
  | none => .error .unsavedScene
  | some base =>
    let root ← contentRoot s env
    return documentPath s root base

end Export

end Scenery
