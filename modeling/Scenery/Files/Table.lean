import Scenery.Files
import Scenery.Path

/-!
# Tables of files

Files and directories as a value: entries under a root that has no parent.  Paths are resolved
component by component, and each but the last must be a directory; nothing lies above the root.
-/

namespace Scenery

/-- What a path of a table leads to. -/
inductive FileEntry where
  | directory
  | file (content : ByteArray)

/-- Files and directories below a root, by the components of their paths. -/
structure FileTable where
  entries : List (List (List Char) × FileEntry)

namespace FileTable

/-- The root alone. -/
def empty : FileTable := ⟨[]⟩

/-- The entry with the given components. -/
def lookup? (t : FileTable) : List (List Char) → Option FileEntry
  | [] => some .directory
  | p => t.entries.lookup p

/-- The table with another entry at the given components. -/
def insert (t : FileTable) (p : List (List Char)) (e : FileEntry) : FileTable :=
  if t.entries.any (·.1 == p) then
    ⟨t.entries.map fun old => if old.1 == p then (p, e) else old⟩
  else ⟨t.entries ++ [(p, e)]⟩

/-- The components lead to a directory. -/
def requireDirectory (t : FileTable) (p : List (List Char)) : Except FileError Unit :=
  match t.lookup? p with
  | none => .error .notFound
  | some (.file _) => .error .notDirectory
  | some .directory => .ok ()

/-- What some components lead to from `dir`.  All on the way must be directories, and a name has at
most 255 bytes. -/
def resolve (t : FileTable) (dir : List (List Char)) :
    List (List Char) → Except FileError (List (List Char))
  | [] => .ok dir
  | c :: rest => do
    t.requireDirectory dir
    if c = ['.', '.'] then
      if dir = [] then .error .notFound else resolve t dir.dropLast rest
    else if 255 < (String.ofList c).utf8ByteSize then .error .nameTooLong
    else resolve t (dir ++ [c]) rest

/-- The components that a path leads to, from the root of the table.  A path has less than 4096
bytes. -/
def locate (t : FileTable) (path : List Char) : Except FileError (List (List Char)) :=
  if 4096 ≤ (String.ofList path).utf8ByteSize then .error .nameTooLong
  else if path = [] ∨ path.head? = some '/' then
    if path ≠ [] ∧ Path.components path = [] then .ok [] else .error .notFound
  else t.resolve [] (Path.components path)

/-- How a path ends. -/
inductive PathEnding where
  | name
  /-- With slashes behind a name. -/
  | slash
  /-- With a component that means a directory, or without one. -/
  | dots
  deriving DecidableEq

/-- Reads the ending off a path. -/
def PathEnding.ofPath (path : List Char) : PathEnding :=
  let last := ((path.reverse.dropWhile (· = '/')).takeWhile (· ≠ '/')).reverse
  if last = [] ∨ last = ['.'] ∨ last = ['.', '.'] then dots
  else if path.getLast? = some '/' then slash
  else name

/-- The content of the file that a path leads to. -/
def read (t : FileTable) (path : List Char) : Except FileError ByteArray := do
  let p ← t.locate path
  match t.lookup? p with
  | none => .error .notFound
  | some .directory => .error .isDirectory
  | some (.file content) =>
    if PathEnding.ofPath path = .name then .ok content else .error .notDirectory

/-- The table after writing a file.  The directory that it lies in must be there; behind a slash a
directory is meant, whatever is there. -/
def write (t : FileTable) (path : List Char) (content : ByteArray) :
    Except FileError FileTable := do
  let p ← t.locate path
  match PathEnding.ofPath path with
  | .slash => .error .isDirectory
  | .dots => do
    t.requireDirectory p
    .error .isDirectory
  | .name =>
    match t.lookup? p with
    | some .directory => .error .isDirectory
    | _ => .ok (t.insert p (.file content))

/-- The table with a directory and those that it lies in. -/
def withDirectory (t : FileTable) (p : List (List Char)) : FileTable :=
  ((List.range (p.length + 1)).map p.take).foldl
    (fun t p => if (t.lookup? p).isNone then t.insert p .directory else t) t

/-- The table with a file and the directories that it lies in. -/
def withFile (t : FileTable) (p : List (List Char)) (content : ByteArray) : FileTable :=
  (t.withDirectory p.dropLast).insert p (.file content)

/-- The files whose content is not the same in an earlier table. -/
def changed (earlier now : FileTable) : List (List (List Char) × ByteArray) :=
  now.entries.filterMap fun (p, e) =>
    match e, earlier.lookup? p with
    | .directory, _ => none
    | .file content, some (.file old) => if content.data = old.data then none else some (p, content)
    | .file content, _ => some (p, content)

end FileTable

instance {m : Type → Type} [Monad m] : MonadFiles (StateT FileTable m) where
  readBytes path := do return (← get).read path.toList
  writeBytes path content := do
    match (← get).write path.toList content with
    | .error e => return .error e
    | .ok t => do
      set t
      return .ok ()

end Scenery
