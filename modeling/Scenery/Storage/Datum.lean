import Scenery.Geometry.Vector
import Scenery.Single

/-!
# Stored data

What is kept of settings and of snapshots, without the words of a data language.  Each function that
takes data apart gives nothing for data of another kind than the one that is asked for.
-/

namespace Scenery

/-- A value to be stored. -/
inductive Datum where
  | text (value : String)
  | number (value : Single)
  /-- A number that counts. -/
  | index (value : Nat)
  /-- Numbers whose count is fixed. -/
  | tuple (values : List Single)
  | list (items : List Datum)
  | record (fields : List (String × Datum))
  /-- A value that may be missing. -/
  | optional (value : Option Datum)
  /-- An alternative without content. -/
  | word (name : String)
  /-- An alternative with fields. -/
  | variant (name : String) (fields : List (String × Datum))
  /-- An alternative that holds one value. -/
  | wrapped (name : String) (content : Datum)

namespace Datum

variable {α : Type}

/-! ### Taking data apart -/

/-- The text of a datum, if it is one. -/
def text? : Datum → Option String
  | text s => some s
  | _ => none

/-- The number of a datum, if it is one. -/
def number? : Datum → Option Single
  | number x => some x
  | _ => none

/-- The index of a datum, if it is one. -/
def index? : Datum → Option Nat
  | index n => some n
  | _ => none

/-- A tuple of two numbers. -/
def pair? : Datum → Option (Vec2 Single)
  | tuple [x, y] => some ⟨x, y⟩
  | _ => none

/-- A tuple of three numbers. -/
def vector? : Datum → Option (Vec3 Single)
  | tuple [x, y, z] => some ⟨x, y, z⟩
  | _ => none

/-- A list of values of one kind. -/
def list? (item : Datum → Option α) : Datum → Option (List α)
  | list items => items.mapM item
  | _ => none

/-- A value that may be missing. -/
def optional? (content : Datum → Option α) : Datum → Option (Option α)
  | optional none => some none
  | optional (some d) => some <$> content d
  | _ => none

/-- One of some alternatives without content, by their words. -/
def word? (word : α → String) (alternatives : List α) : Datum → Option α
  | .word w => alternatives.find? fun a => word a = w
  | _ => none

/-- The fields of a record. -/
def fields? : Datum → Option (List (String × Datum))
  | record fields => some fields
  | _ => none

/-- The value of a field that must be there. -/
def require (fields : List (String × Datum)) (name : String) (read : Datum → Option α) :
    Option α :=
  (fields.lookup name).bind read

/-- The value of a field, or another one where the field is missing. -/
def orElse (fields : List (String × Datum)) (name : String) (other : α)
    (read : Datum → Option α) : Option α :=
  match fields.lookup name with
  | none => some other
  | some d => read d

/-! ### What is in it -/

mutual

/-- All numbers that count. -/
def indices : Datum → List Nat
  | index n => [n]
  | list items => indicesOfList items
  | record fields => indicesOfFields fields
  | optional (some d) => indices d
  | variant _ fields => indicesOfFields fields
  | wrapped _ content => indices content
  | _ => []

/-- All numbers that count in the items of a list. -/
def indicesOfList : List Datum → List Nat
  | [] => []
  | d :: rest => indices d ++ indicesOfList rest

/-- All numbers that count in the fields of a record. -/
def indicesOfFields : List (String × Datum) → List Nat
  | [] => []
  | (_, d) :: rest => indices d ++ indicesOfFields rest

end

end Datum

end Scenery
