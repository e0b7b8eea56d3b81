/-!
# Files

What the library asks of a file system: reading a whole file and writing a whole file.  The calls
work in any monad that offers both, so that a run can be followed on a table of files as well as on
a disk.
-/

namespace Scenery

/-- Why a file could not be read or written. -/
inductive FileError where
  | notFound
  | notDirectory
  | isDirectory
  | nameTooLong
  /-- The path has a NUL character, which no file system can take. -/
  | nulInPath
  /-- The content is not text. -/
  | notText
  | other (message : String)
  deriving DecidableEq, Repr

/-- The words in which an operating system reports the error. -/
def FileError.message : FileError → String
  | notFound => "No such file or directory (os error 2)"
  | notDirectory => "Not a directory (os error 20)"
  | isDirectory => "Is a directory (os error 21)"
  | nameTooLong => "File name too long (os error 36)"
  | nulInPath => "file name contained an unexpected NUL byte"
  | notText => "stream did not contain valid UTF-8"
  | other m => m

/-- Access to files by the text of their path. -/
class MonadFiles (m : Type → Type) where
  readBytes : String → m (Except FileError ByteArray)
  writeBytes : String → ByteArray → m (Except FileError Unit)

namespace Files

variable {m : Type → Type} [Monad m] [MonadFiles m]

/-- The result of an access to a path, which is only made if the path can be one. -/
def onPath {α : Type} (path : String) (access : String → m (Except FileError α)) :
    m (Except FileError α) :=
  if path.toList.contains '\x00' then return .error .nulInPath else access path

/-- The bytes in a file. -/
def readBytes (path : String) : m (Except FileError ByteArray) :=
  onPath path MonadFiles.readBytes

/-- The text of some bytes. -/
def decode (bytes : ByteArray) : Except FileError String :=
  match String.fromUTF8? bytes with
  | some s => .ok s
  | none => .error .notText

/-- The text in a file. -/
def readText (path : String) : m (Except FileError String) := do
  return (← readBytes path).bind decode

/-- Makes a text the content of a file. -/
def writeText (path text : String) : m (Except FileError Unit) :=
  onPath path fun path => MonadFiles.writeBytes path text.toUTF8

end Files

end Scenery
