import Scenery.Storage.Datum
import Scenery.Text.Escape

/-!
# Writing RON

One field or item per line, indented by four blanks for each level, with a comma behind each; tuples
stay on one line.
-/

namespace Scenery.Ron

/-- Numbers are always written around a point and keep a `.0`. -/
def numbers : Layout := ⟨true, none, "NaN"⟩

/-- A number. -/
def numberText (x : Single) : String := String.ofList (x.text numbers)

/-- The blanks in front of a line. -/
def indentation (level : Nat) : String := String.ofList (List.replicate (4 * level) ' ')

/-- Lines between two marks, which stand at the given level. -/
def block (level : Nat) (opening closing : String) : List String → String
  | [] => opening ++ closing
  | lines =>
    opening ++ "\n" ++ String.join (lines.map fun l => indentation (level + 1) ++ l ++ ",\n") ++
      indentation level ++ closing

mutual

/-- A value that begins on a line of the given level. -/
def print (level : Nat) : Datum → String
  | .text s => String.ofList (Text.Escaping.full.quoted s.toList)
  | .number x => numberText x
  | .index n => toString n
  | .tuple xs => "(" ++ ", ".intercalate (xs.map numberText) ++ ")"
  | .list items => block level "[" "]" (printItems (level + 1) items)
  | .record fields => block level "(" ")" (printFields (level + 1) fields)
  | .optional none => "None"
  | .optional (some d) => "Some(" ++ print level d ++ ")"
  | .word name => name
  | .variant name fields => name ++ block level "(" ")" (printFields (level + 1) fields)
  | .wrapped name content => name ++ "(" ++ print level content ++ ")"

/-- The items of a list. -/
def printItems (level : Nat) : List Datum → List String
  | [] => []
  | d :: rest => print level d :: printItems level rest

/-- The fields of a record. -/
def printFields (level : Nat) : List (String × Datum) → List String
  | [] => []
  | (name, d) :: rest => (name ++ ": " ++ print level d) :: printFields level rest

end

end Scenery.Ron
