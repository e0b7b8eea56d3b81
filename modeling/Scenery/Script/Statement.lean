import Scenery.Single
import Scenery.Text.Blank
import Scenery.Text.Digit

/-!
# Statements

A line of a scene script is a statement: the first character of its first word tells the kind, the
rest of that word the name, and the following words are values.  A value is a number or a quoted
text, and a statement has either numbers or one text.

* `Statement.ofLine?`   the statement of a line, or the first fault of its values
-/

namespace Scenery.Script

/-- The most numbers that a statement carries. -/
def maxNumbers : Nat := 64

/-- The most bytes that a text value has. -/
def maxTextBytes : Nat := 255

/-- What a statement carries. -/
inductive Value where
  | numbers (values : List Single)
  | text (value : String)
  deriving DecidableEq

namespace Value

/-- The numbers of a value, if it has some. -/
def numbers? : Value → Option (List Single)
  | numbers xs => some xs
  | text _ => none

/-- The text of a value, if it is one. -/
def text? : Value → Option String
  | text s => some s
  | numbers _ => none

end Value

/-- What is wrong with the values of a statement. -/
inductive Fault where
  /-- A word is neither a number nor a text. -/
  | invalidToken (token : String)
  /-- A word looks like a number but is none. -/
  | invalidNumber (token : String)
  | textTooLong (value : String)
  | tooManyNumbers
  /-- There are both numbers and texts. -/
  | mixedValues
  deriving DecidableEq, Repr

/-- The fault in words. -/
def Fault.message : Fault → String
  | invalidToken t => "invalid character in script token '" ++ t ++ "'"
  | invalidNumber t => "invalid number '" ++ t ++ "'"
  | textTooLong v => "attribute string too long '" ++ v ++ "'"
  | tooManyNumbers => "too many attribute values"
  | mixedValues => "numbers and strings cannot be mixed"

/-- One line of a script. -/
inductive Statement where
  /-- Begins an object; the name is empty where none is given. -/
  | create (type name : String)
  | attribute (name : String) (value : Value)
  | command (name : String) (value : Value)
  deriving DecidableEq

/-- What the first character of a word announces. -/
inductive Token where
  | text (content : List Char)
  | number
  | other

/-- A word that begins with a quote is a text, whose closing quote may be missing; one that begins
with a digit, a minus or a point should be a number. -/
def Token.ofWord : List Char → Token
  | '"' :: rest => .text (if rest.getLast? = some '"' then rest.dropLast else rest)
  | c :: _ => if c.isDigit || c == '-' || c == '.' then .number else .other
  | [] => .other

/-- A hexadecimal number of 32 bits: an optional plus and at least one digit. -/
def hexWord? (s : List Char) : Option Nat :=
  let ds := match s with
    | '+' :: rest => rest
    | rest => rest
  (Text.natural? 16 ds).filter (· < UInt32.size)

/-- A number of a script: a literal, or an optional minus before `0x` and a hexadecimal number. -/
def number? (s : List Char) : Option Single :=
  let (negative, digits) := match s with
    | '-' :: rest => (true, rest)
    | rest => (false, rest)
  match digits with
  | '0' :: x :: hex =>
    if x = 'x' ∨ x = 'X' then
      (hexWord? hex).map fun n => if negative then (Single.ofNat n).neg else Single.ofNat n
    else Single.ofText? s
  | _ => Single.ofText? s

/-- The value of the words after those that gave `numbers` (the last one first) and `text`. -/
def gather (numbers : List Single) (text : Option String) : List (List Char) → Except Fault Value
  | [] =>
    match text, numbers with
    | none, xs => .ok (.numbers xs.reverse)
    | some s, [] => .ok (.text s)
    | some _, _ :: _ => .error .mixedValues
  | word :: rest =>
    match Token.ofWord word with
    | .text content =>
      let s := String.ofList content
      if maxTextBytes < s.utf8ByteSize then .error (.textTooLong s)
      else gather numbers (some s) rest
    | .number =>
      if maxNumbers ≤ numbers.length then .error .tooManyNumbers
      else match number? word with
        | none => .error (.invalidNumber (String.ofList word))
        | some x => gather (x :: numbers) text rest
    | .other => .error (.invalidToken (String.ofList word))

/-- The value of some words. -/
def Value.ofWords (words : List (List Char)) : Except Fault Value :=
  gather [] none words

/-- The statement of some words; none for words that make no statement. -/
def Statement.ofWords? : List (List Char) → Except Fault (Option Statement)
  | ('@' :: type) :: rest =>
    .ok (some (.create (String.ofList type) (String.ofList (rest.headD []))))
  | ('$' :: name) :: rest => do
    return some (.attribute (String.ofList name) (← Value.ofWords rest))
  | (':' :: name) :: rest => do
    return some (.command (String.ofList name) (← Value.ofWords rest))
  | _ => .ok none

/-- The statement of a line; none for a blank line and one that begins otherwise. -/
def Statement.ofLine? (line : List Char) : Except Fault (Option Statement) :=
  Statement.ofWords? (Text.words line)

end Scenery.Script
