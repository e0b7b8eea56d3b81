import Scenery.Decimal.Literal
import Scenery.Single

/-!
# TOML values

Values of the TOML data language, and how the statements of a text build its tables.  What a table
came from decides what later statements may do with it.

* `Entries.assign`    the effect of a key with a value
* `Entries.declare`   the effect of a header
* `Entries.extend`    the effect of a header for one more table of an array
-/

namespace Scenery.Toml

/-- Where a table comes from. -/
inductive Origin where
  /-- It has a header. -/
  | header
  /-- The header of another table lies below it. -/
  | implied
  /-- The dots of a key lead through it. -/
  | dotted
  /-- It was written as one value and is complete. -/
  | braces
  deriving DecidableEq

/-- A value of TOML. -/
inductive Value where
  | text (value : String)
  | integer (value : Int)
  | float (negative : Bool) (magnitude : Magnitude)
  | boolean (value : Bool)
  | dateTime
  | array (items : List Value)
  | table (origin : Origin) (entries : List (String × Value))
  /-- Tables with headers of their own, the last one first. -/
  | tables (lastFirst : List (List (String × Value)))

/-- The keys of a table with their values. -/
abbrev Entries := List (String × Value)

namespace Entries

/-- Changes the value of a key, which may be missing. -/
def alter (key : String) (f : Option Value → Option Value) : Entries → Option Entries
  | [] => do return [(key, ← f none)]
  | (k, v) :: rest =>
    if k = key then do return (k, ← f (some v)) :: rest
    else do return (k, v) :: (← alter key f rest)

/-- Changes the table that a path leads to, given where it comes from.  Missing tables on the way
come about with an origin; an array of tables is left by its last table.  The dots of a key do not
lead through a table with a header, and nothing leads through a complete one. -/
def descend (origin : Origin) (f : Origin → Entries → Option Entries) :
    List String → Origin → Entries → Option Entries
  | [], here, es => f here es
  | key :: path, _, es =>
    es.alter key fun
      | none => (descend origin f path origin []).map (.table origin)
      | some (.table there es) =>
        if there = .braces ∨ (origin = .dotted ∧ there = .header) then none
        else (descend origin f path there es).map (.table there)
      | some (.tables (last :: earlier)) =>
        (descend origin f path .header last).map fun last => .tables (last :: earlier)
      | some _ => none

/-- Adds a key that must not be there. -/
def insertNew (key : String) (v : Value) (es : Entries) : Option Entries :=
  es.alter key fun
    | none => some v
    | some _ => none

/-- Gives a value to a key behind a dotted path.  The table at the end of a path must come from
dots, that at the end of no path must not. -/
def assign (path : List String) (key : String) (v : Value) (es : Entries) : Option Entries :=
  es.descend .dotted (fun here es =>
    if here = .dotted ↔ path = [] then none else es.insertNew key v) path .header

/-- Gives a value to a key, from the table that a header's path leads to. -/
def assignBelow (table path : List String) (key : String) (v : Value) (es : Entries) :
    Option Entries :=
  es.descend .implied (fun _ es => es.assign path key v) table .header

/-- Begins a table with a header; it may have been implied before. -/
def declare (path : List String) (key : String) (es : Entries) : Option Entries :=
  es.descend .implied (fun _ es => es.alter key fun
    | none => some (.table .header [])
    | some (.table .implied es) => some (.table .header es)
    | some _ => none) path .header

/-- Begins one more table of an array. -/
def extend (path : List String) (key : String) (es : Entries) : Option Entries :=
  es.descend .implied (fun _ es => es.alter key fun
    | none => some (.tables [[]])
    | some (.tables ts) => some (.tables ([] :: ts))
    | some _ => none) path .header

end Entries

end Scenery.Toml
