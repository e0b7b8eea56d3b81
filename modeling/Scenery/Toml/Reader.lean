import Scenery.Storage.Schema
import Scenery.Toml.Parser

/-!
# Reading TOML by a schema

Types have no names here, and a value that is there has no mark that it might be missing.  An
alternative is its word, or a table with the word as its only key.

* `read?`   what a text holds, as a schema asks for it
-/

namespace Scenery.Toml

/-! ### Taking values apart -/

namespace Value

/-- The text of a value, if it is one. -/
def text? : Value → Option String
  | text s => some s
  | _ => none

/-- A number; one with a point or an exponent is a double-precision number first. -/
def number? : Value → Option Single
  | integer n => some (Single.ofInt n)
  | float negative m => some (Single.ofMagnitudeByDouble negative m)
  | _ => none

/-- A number that counts. -/
def index? : Value → Option Nat
  | integer n => if 0 ≤ n then some n.toNat else none
  | _ => none

/-- The items of an array; a list of tables is kept with the last one first. -/
def items? : Value → Option (List Value)
  | array items => some items
  | tables ts => some (ts.reverse.map (table .header))
  | _ => none

/-- The value has no content. -/
def isEmpty : Value → Bool
  | table _ es => es.isEmpty
  | array items => items.isEmpty
  | _ => false

/-- The fields of a record with the given names: those of a table, or those of an array in their
order. A date or a time is a record without any of them. -/
def fields? (names : List String) : Value → Option (String → Option Value)
  | table _ es => some fun name => es.lookup name
  | dateTime => some fun _ => none
  | v => v.items?.map fun items name => (names.zip items).lookup name

/-- The fields of an alternative with the given names; a table with other keys has none. -/
def variantFields? (names : List String) : Value → Option (String → Option Value)
  | table origin es =>
    if es.all (names.contains ·.1) then fields? names (table origin es) else none
  | dateTime => none
  | v => fields? names v

end Value

/-! ### Values of a schema -/

mutual

/-- What a value holds. -/
def read : Schema → Value → Option Datum
  | .text, v => v.text?.map .text
  | .number, v => v.number?.map .number
  | .index, v => v.index?.map .index
  | .tuple size, v => do
    let items ← v.items?
    if items.length = size then .tuple <$> items.mapM Value.number? else none
  | .leading size, v => do
    let items ← v.items?
    if size ≤ items.length then .tuple <$> (items.take size).mapM Value.number? else none
  | .list item, v => do
    .list <$> (← v.items?).mapM fun v => read item v
  | .optional content, v => (fun d => .optional (some d)) <$> read content v
  | .record _ known, v => do
    .record <$> readFields (← v.fields? (known.map (·.1))) known
  | .choice alternatives, .text name => readAlternative name none alternatives
  | .choice alternatives, .table _ [(name, v)] => readAlternative name (some v) alternatives
  | .choice _, _ => none

/-- The fields with known names. -/
def readFields (field : String → Option Value) :
    List (String × Schema) → Option (List (String × Datum))
  | [] => some []
  | (name, s) :: rest =>
    match field name with
    | none => readFields field rest
    | some v => do return (name, ← read s v) :: (← readFields field rest)

/-- What belongs to the name of an alternative, which must be known. -/
def readAlternative (name : String) (content : Option Value) :
    List (String × Schema.Alternative) → Option Datum
  | [] => none
  | (other, a) :: rest =>
    if other = name then readContent name content a else readAlternative name content rest

/-- The content of an alternative. -/
def readContent (name : String) (content : Option Value) : Schema.Alternative → Option Datum
  | .word => if content.all Value.isEmpty then some (.word name) else none
  | .variant known => do
    .variant name <$> readFields (← (← content).variantFields? (known.map (·.1))) known
  | .wrapped s => do
    .wrapped name <$> read s (← content)

end

/-- What a text holds, as a schema asks for it. -/
def read? (s : Schema) (text : String) : Option Datum := do
  read s (← parse? text)

end Scenery.Toml
