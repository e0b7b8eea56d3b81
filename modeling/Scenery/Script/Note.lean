import Scenery.Log
import Scenery.NumberFormat
import Scenery.Script.Keyword
import Scenery.Script.Statement
import Scenery.Text.Escape

/-!
# Notes on a script

What the reader reports about statements that it does not follow.  Each note has a level and words;
the reader itself only decides which note applies.
-/

namespace Scenery.Script

/-- A line that is no statement because of a fault in its values. -/
structure LineError where
  /-- The number of the line, counted from one. -/
  line : Nat
  fault : Fault
  deriving DecidableEq, Repr

/-- The words of a report about a line. -/
def atLine (line : Nat) (what : String) : String :=
  "line " ++ toString line ++ ": " ++ what

/-- The words of the error, with the line. -/
def LineError.message (e : LineError) : String :=
  atLine e.line e.fault.message

/-- A value as messages show it. -/
def Value.display : Value → String
  | .numbers xs => "Numbers(" ++ NumberFormat.bracketed xs ++ ")"
  | .text s => "Text(" ++ Text.display s ++ ")"

/-- A part that a design block must have. -/
inductive Part where
  | name
  | shape
  | material
  deriving DecidableEq, Repr

/-- The name of a part in messages. -/
def Part.label : Part → String
  | name => "name"
  | shape => "shape"
  | material => "material"

/-- What the reader reports. -/
inductive Note where
  | reading (path : String)
  | badLine (error : LineError)
  | unknownType (line : Nat) (type : String)
  | badShape (line : Nat) (value : Value)
  | badVector (line : Nat) (name : String) (value : Value)
  | badMaterial (line : Nat)
  | unknownDesignAttribute (line : Nat) (name : String)
  | unknownCameraAttribute (line : Nat) (name : String)
  /-- An attribute of an object of unknown type. -/
  | ignoredAttribute (line : Nat) (name type : String)
  | strayAttribute (line : Nat) (name : String)
  | ignoredCommand (line : Nat) (name : String)
  | strayCommit (line : Nat)
  /-- A design block was committed without some of its parts. -/
  | incomplete (line : Nat) (name : String) (missing : List Part)
  | neverCommitted (name : String)
  | namelessCamera
  | finished (blocks : Nat)
  deriving DecidableEq

namespace Note

/-- How severe a note is. -/
def level : Note → LogLevel
  | badLine _ | badShape _ _ | badVector _ _ _ | badMaterial _ | incomplete _ _ _
  | namelessCamera => .error
  | unknownType _ _ | unknownDesignAttribute _ _ | unknownCameraAttribute _ _ | strayCommit _
  | neverCommitted _ => .warn
  | reading _ | ignoredAttribute _ _ _ | strayAttribute _ _ | ignoredCommand _ _
  | finished _ => .debug

/-- The words of a note. -/
def message : Note → String
  | reading path => "Reading scene script " ++ path
  | badLine e => e.message
  | unknownType n type => atLine n ("unknown object type '" ++ type ++ "'")
  | badShape n v => atLine n ("$shape expects 1 to 3 numbers, got " ++ v.display)
  | badVector n name v => atLine n ("$" ++ name ++ " expects 3 numbers, got " ++ v.display)
  | badMaterial n => atLine n "$material expects a string"
  | unknownDesignAttribute n name => atLine n ("unknown design block attribute '" ++ name ++ "'")
  | unknownCameraAttribute n name => atLine n ("unknown camera attribute '" ++ name ++ "'")
  | ignoredAttribute n name type => atLine n ("ignoring '" ++ name ++ "' on '" ++ type ++ "'")
  | strayAttribute n name => atLine n ("attribute '" ++ name ++ "' outside any object")
  | ignoredCommand n name => atLine n ("ignoring command '" ++ name ++ "'")
  | strayCommit n => atLine n ("'" ++ Keyword.commit ++ "' outside a design block")
  | incomplete n name missing =>
    atLine n ("design block '" ++ name ++ "' is missing " ++
      ", ".intercalate (missing.map Part.label))
  | neverCommitted name => "design block '" ++ name ++ "' was never committed"
  | namelessCamera => "camera block without a name"
  | finished n => "Read " ++ toString n ++ " scene block(s)"

/-- The note as a log record. -/
def record (n : Note) : LogRecord := ⟨n.level, n.message⟩

end Note

end Scenery.Script
