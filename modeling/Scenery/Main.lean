import Scenery.CommandLine.Run

/-!
# The program

Runs a command line on the files of the disk.
-/

namespace Scenery

/-- The cause of a failed access to the disk. -/
def FileError.ofDisk : IO.Error → FileError
  | .noFileOrDirectory .. => .notFound
  | .inappropriateType _ code _ =>
    if code = 21 ∨ code = -21 then .isDirectory else .notDirectory
  | e => .other (toString e)

/-- The result of an access to the disk. -/
def attempt {α : Type} (access : IO α) : IO (Except FileError α) := do
  match ← access.toBaseIO with
  | .ok a => return .ok a
  | .error e => return .error (.ofDisk e)

instance : MonadFiles IO where
  readBytes path := attempt (IO.FS.readBinFile path)
  writeBytes path content := attempt (IO.FS.writeBinFile path content)

end Scenery

/-- Runs the words of the command line. -/
def main (words : List String) : IO UInt32 := do
  let outcome ← Scenery.CommandLine.run (fun name => IO.getEnv name) words
  IO.print outcome.printed
  IO.eprint outcome.report
  return outcome.exitCode
