import Scenery.Ron.Ignored
import Scenery.Storage.Schema

/-!
# Reading RON

A text is a sequence of headers that turn on extensions, and one value.  Blanks and comments may
stand between any two tokens.

* `read?`   what a text holds, as a schema asks for it
-/

namespace Scenery.Ron

open Text Scanner

/-! ### Values -/

/-- No name stands there twice. -/
def distinct (fields : List (String × Datum)) : Bool :=
  fields.all fun (name, _) => (fields.filter (·.1 = name)).length ≤ 1

/-- The fields of a record up to its closing parenthesis, which stays.  Those with unknown names are
left out; the others must not stand there twice. -/
def fields (room : Nat) (value : (n : Nat) → n < room → String → Scanner (Option Datum)) :
    Scanner (List (String × Datum)) := do
  let found ← items room ')' fun n h => field fun name => do
    return (← value n h name).map (name, ·)
  let known := found.filterMap id
  if !distinct known then failure
  return known

/-- The name of a record, which may be left out. -/
def recordName (expected : String) : Scanner Unit := do
  if (← peek?).any isNamePart then
    if (← name) ≠ expected then failure

/-- So many numbers in parentheses. -/
def numberTuple (room size : Nat) : Scanner (List Single) := do
  let xs ← group room '(' ')' fun _ _ => number
  if xs.length ≠ size then failure
  return xs

mutual

/-- A value of a schema. -/
def read (x : Extensions) (room : Nat) : Schema → Scanner Datum
  | .text => .text <$> text
  | .number => .number <$> number
  | .index => .index <$> index
  | .tuple size => .tuple <$> numberTuple room size
  | .leading size => .tuple <$> numberTuple room size
  | .list item => .list <$> group room '[' ']' fun n _ => read x n item
  | .optional content => .optional <$> option x room fun n _ => read x n content
  | .record name known => do
    recordName name
    gap
    expect '('
    let found ← fields room fun n _ name => readField x n name known
    expect ')'
    return .record found
  | .choice alternatives => inside room fun n _ => do
    readAlternative x n (← name) alternatives

/-- The value of a field, if its name is known; otherwise it is passed over. -/
def readField (x : Extensions) (room : Nat) (name : String) :
    List (String × Schema) → Scanner (Option Datum)
  | [] => do
    ignored x room
    return none
  | (other, s) :: rest =>
    if other = name then some <$> read x room s else readField x room name rest

/-- What belongs to the name of an alternative, which must be known. -/
def readAlternative (x : Extensions) (room : Nat) (name : String) :
    List (String × Schema.Alternative) → Scanner Datum
  | [] => failure
  | (other, a) :: rest =>
    if other = name then readContent x room name a else readAlternative x room name rest

/-- The content of an alternative behind its name.  With an extension a record in it is written as
its fields alone. -/
def readContent (x : Extensions) (room : Nat) (name : String) : Schema.Alternative → Scanner Datum
  | .word => return .word name
  | .variant known => do
    gap
    expect '('
    let found ← fields room fun n _ name => readField x n name known
    expect ')'
    return .variant name found
  | .wrapped content => do
    gap
    mark '('
    let d ← inside room fun n _ =>
      match content, x.unwrapVariants with
      | .record _ known, true => .record <$> fields n fun k _ name => readField x k name known
      | content, _ => read x n content
    comma
    expect ')'
    return .wrapped name d

end

/-! ### Whole texts -/

/-- The depth of nesting that no text may exceed. -/
def depthLimit : Nat := 128

/-- One extension by its name. -/
def enable (x : Extensions) : String → Option Extensions
  | "implicit_some" => some { x with implicitSome := true }
  | "unwrap_variant_newtypes" => some { x with unwrapVariants := true }
  | "unwrap_newtypes" => some x
  | _ => none

/-- A header that turns on extensions, if there is one. -/
def header? : Scanner (Option (List String)) := do
  if (← peek?) ≠ some '#' then return none
  mark '#'
  mark '!'
  mark '['
  expectAll "enable".toList
  gap
  mark '('
  let names ← separated gap ')' name
  if names.isEmpty then failure
  mark ')'
  mark ']'
  return some names

/-- The extensions that the headers of a text turn on. -/
def extensions : Scanner Extensions := do
  let headers ← collect header?
  ofOption (headers.flatten.foldlM enable ⟨false, false⟩)

/-- The headers and the value of a text. -/
def document (s : Schema) : Scanner Datum := do
  gap
  let x ← extensions
  let d ← read x depthLimit s
  gap
  return d

/-- What a text holds, as a schema asks for it. -/
def read? (s : Schema) (text : String) : Option Datum :=
  (document s).readAll? text

end Scenery.Ron
