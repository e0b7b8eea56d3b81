import Scenery.Files
import Scenery.Path
import Scenery.Ron.Printer
import Scenery.Ron.Reader
import Scenery.Toml.Printer
import Scenery.Toml.Reader

/-!
# Stored files

Values kept in files, in one of two data languages that the extension of the file tells.

* `Storage.load`   the value in a file
* `Storage.save`   puts a value into a file
-/

namespace Scenery

/-- The data language of a file. -/
inductive StorageFormat where
  | toml
  | ron
  deriving DecidableEq, Repr

/-- The data language that the extension of a path tells. -/
def StorageFormat.ofPath? (path : String) : Option StorageFormat :=
  match (Path.extension? path.toList).map String.ofList with
  | some "toml" => some toml
  | some "ron" => some ron
  | _ => none

/-- A file with a stored value could not be read or written. -/
inductive StorageError where
  | file (error : FileError)
  | parse
  /-- The language has no words for the value. -/
  | unwritable
  | unsupportedFormat (path : String)
  deriving DecidableEq, Repr

def StorageError.message : StorageError → String
  | file e => "IO error: " ++ e.message
  | parse => "Parse error"
  | unwritable => "Serialization error"
  | unsupportedFormat path => "Unsupported format: " ++ path

/-- Values that can be kept in files. -/
class Stored (α : Type) where
  /-- The value where there is no file. -/
  initial : α
  /-- What a reader looks for. -/
  schema : Schema
  encode : α → Datum
  decode : Datum → Option α

namespace Storage

variable {α : Type} [Stored α]

/-- The value that a text describes. -/
def read? (f : StorageFormat) (text : String) : Option α :=
  match f with
  | .toml => (Toml.read? (Stored.schema α) text).bind Stored.decode
  | .ron => (Ron.read? (Stored.schema α) text).bind Stored.decode

/-- The text that describes a value. -/
def write? (f : StorageFormat) (a : α) : Option String :=
  match f with
  | .toml => Toml.text? (Stored.encode a)
  | .ron => some (Ron.print 0 (Stored.encode a))

variable {m : Type → Type} [Monad m] [MonadFiles m]

/-- The value in a file.  A path of no known format is not looked at. -/
def load (path : String) : m (Except StorageError α) := do
  match StorageFormat.ofPath? path with
  | none => return .error (.unsupportedFormat path)
  | some f =>
    match ← Files.readText path with
    | .error e => return .error (.file e)
    | .ok text =>
      match read? f text with
      | none => return .error .parse
      | some a => return .ok a

/-- The value in a file, or the initial one where no path is given. -/
def loadOrInitial : Option String → m (Except StorageError α)
  | none => return .ok Stored.initial
  | some path => load path

/-- Puts a value into a file. -/
def save (path : String) (a : α) : m (Except StorageError Unit) := do
  match StorageFormat.ofPath? path with
  | none => return .error (.unsupportedFormat path)
  | some f =>
    match write? f a with
    | none => return .error .unwritable
    | some text =>
      match ← Files.writeText path text with
      | .error e => return .error (.file e)
      | .ok () => return .ok ()

end Storage

end Scenery
