/-!
# Paths

Paths as texts with slashes between their components.  Empty components and, except in front, `.`
components count for nothing, but they stay in the text as they are written.

* `fileName?`       the last component, unless it is `..` or there is none
* `join`            a path below a directory
* `withExtension`   another extension for the last component
* `parent?`         the directory that a path lies in
-/

namespace Scenery.Path

/-- A reversed path without the slashes and `.` components at its end. -/
def trimEnd : List Char → List Char
  | '/' :: rest => trimEnd rest
  | '.' :: '/' :: rest => trimEnd rest
  | s => s

/-- The path without its last component, with the slash in front of that, and the last component. -/
def splitLast (path : List Char) : List Char × List Char :=
  let s := trimEnd path.reverse
  ((s.dropWhile (· ≠ '/')).reverse, (s.takeWhile (· ≠ '/')).reverse)

/-- The last component of a path. -/
def fileName? (path : List Char) : Option (List Char) :=
  let name := (splitLast path).2
  if name = [] ∨ name = ['.'] ∨ name = ['.', '.'] then none else some name

/-- A file name without its extension, and the extension: what follows the last point.  A point in
front is part of the name. -/
def splitExtension (name : List Char) : List Char × Option (List Char) :=
  let extension := (name.reverse.takeWhile (· ≠ '.')).reverse
  let stem := name.take (name.length - (extension.length + 1))
  if extension.length = name.length ∨ stem = [] then (name, none) else (stem, some extension)

/-- The extension of the last component. -/
def extension? (path : List Char) : Option (List Char) :=
  (fileName? path).bind fun name => (splitExtension name).2

/-- The path with another extension, or with none where the new one is empty.  A path without a file
name stays as it is. -/
def withExtension (path extension : List Char) : List Char :=
  match fileName? path with
  | none => path
  | some name =>
    (splitLast path).1 ++ (splitExtension name).1 ++
      (if extension = [] then [] else '.' :: extension)

/-- A path below a directory; an absolute path stands for itself. -/
def join (directory path : List Char) : List Char :=
  if path.head? = some '/' then path
  else if directory = [] ∨ directory.getLast? = some '/' then directory ++ path
  else directory ++ '/' :: path

/-- The directory that a path lies in; none for a root or an empty path. -/
def parent? (path : List Char) : Option (List Char) :=
  let (directory, name) := splitLast path
  if name = [] then none
  else
    let trimmed := (trimEnd directory.reverse).reverse
    some (if trimmed = [] ∧ directory ≠ [] then ['/'] else trimmed)

/-- The components of a path, with empty ones and all `.` ones left out. -/
def components (path : List Char) : List (List Char) :=
  let pieces := path.foldr
    (fun c pieces => if c = '/' then [] :: pieces else (c :: pieces.headD []) :: pieces.tail) [[]]
  pieces.filter fun p => p ≠ [] ∧ p ≠ ['.']

end Scenery.Path
