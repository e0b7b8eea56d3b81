import Scenery.Text.Scanner
import Scenery.Toml.Number

/-!
# Reading TOML

A text is a sequence of lines: keys with values, and headers that tell where the keys below them go.

* `parse?`   the table of a text
-/

namespace Scenery.Toml

open Text Scanner

/-! ### Blanks, comments and lines -/

/-- Passes over blanks and tabs. -/
def blanks : Scanner Unit := discard (span fun c => c = ' ' || c = '\t')

/-- Characters that texts and comments do not hold as such. -/
def isControl (c : Char) : Bool := c.toNat < 0x20 && c != '\t' || c.toNat == 0x7F

/-- Takes the end of a line, and tells whether it was there. -/
def newline? : Scanner Bool := acceptAll ['\n'] <||> acceptAll ['\r', '\n']

/-- Passes over a comment. -/
def comment : Scanner Unit := do
  if ← accept '#' then discard (span fun c => !isControl c)

/-- Passes over the rest of a line, which holds nothing more than a comment. -/
def lineEnd : Scanner Unit := do
  blanks
  comment
  if !(← newline?) then finish

/-- Passes over blanks, comments and ends of lines. -/
def gap : Scanner Unit := do
  discard <| collect do
    blanks
    comment
    if ← newline? then return some () else return none

/-- Passes over blanks and ends of lines. -/
def emptyLines : Scanner Unit := do
  discard <| collect do
    blanks
    if ← newline? then return some () else return none

/-! ### Texts -/

/-- The character with a number that has so many hexadecimal digits. -/
def codePoint (digits : Nat) : Scanner Char := do
  let s ← (List.replicate digits any).mapM id
  let n ← ofOption (natural? 16 s)
  if n.isValidChar then return Char.ofNat n else failure

/-- The character that an escape means, behind its backslash. -/
def escape : Scanner Char := do
  match ← any with
  | 'b' => return '\x08'
  | 't' => return '\t'
  | 'n' => return '\n'
  | 'f' => return '\x0c'
  | 'r' => return '\r'
  | '"' => return '"'
  | '\\' => return '\\'
  | 'u' => codePoint 4
  | 'U' => codePoint 8
  | _ => failure

/-- One character of a text on one line. -/
def plainCharacter : Scanner Char := do
  let c ← any
  if isControl c then failure
  return c

/-- A text in double quotes, on one line. -/
def basicText : Scanner (List Char) := do
  expect '"'
  collect do
    if ← accept '"' then return none
    if ← accept '\\' then some <$> escape else some <$> plainCharacter

/-- A text in single quotes, on one line and without escapes. -/
def literalText : Scanner (List Char) := do
  expect '\''
  collect do
    if ← accept '\'' then return none
    some <$> plainCharacter

/-- A character of a text on many lines; each end of a line is read as one character. -/
def lineCharacter : Scanner Char := do
  if ← newline? then return '\n' else plainCharacter

/-- Quotes within a text on many lines, or the three that close it.  One or two more may stand in
front of those. -/
def quotes (quote : Char) : Scanner (Option (List Char)) := do
  let n := ((← get).takeWhile (· = quote)).length
  let take (k : Nat) : Scanner Unit := expectAll (List.replicate k quote)
  if n = 3 then
    take 3
    return none
  else if n < 3 then
    take n
    return some (List.replicate n quote)
  else if n ≤ 5 then
    take (n - 3)
    return some (List.replicate (n - 3) quote)
  else failure

/-- What a backslash begins in a text on many lines: an escape, or a line whose end and whose
following blanks do not count. -/
def lineEscape : Scanner (List Char) := do
  let text ← get
  blanks
  if ← newline? then
    emptyLines
    return []
  else
    set text
    return [← escape]

/-- The parts of a text on many lines, between three quotes on either side; the end of a first line
without any text does not count. -/
def longText (quote : Char) (escapes : Bool) : Scanner (List Char) := do
  expectAll (List.replicate 3 quote)
  discard newline?
  let parts ← collect do
    match ← peek? with
    | some c =>
      if c = quote then quotes quote
      else if escapes && c = '\\' then
        expect c
        some <$> lineEscape
      else return some [← lineCharacter]
    | none => failure
  return parts.flatten

/-- A text in one of the four forms. -/
def text : Scanner (List Char) := do
  match ← get with
  | '"' :: '"' :: '"' :: _ => longText '"' true
  | '\'' :: '\'' :: '\'' :: _ => longText '\'' false
  | '"' :: _ => basicText
  | _ => literalText

/-! ### Keys -/

/-- A character of a key without quotes. -/
def isKeyPart (c : Char) : Bool := c.isAlphanum || c == '_' || c == '-'

/-- A key without dots. -/
def simpleKey : Scanner String := do
  match ← peek? with
  | some '"' => return String.ofList (← basicText)
  | some '\'' => return String.ofList (← literalText)
  | _ =>
    let s ← span isKeyPart
    if s.isEmpty then failure
    return String.ofList s

/-- The count of keys between dots that no path reaches, and the depth of nesting that no value
reaches. -/
def depthLimit : Nat := 80

/-- The keys between dots, with blanks around them: those in front, and the last one. -/
def key : Scanner (List String × String) := do
  blanks
  let first ← simpleKey
  blanks
  let more ← collect do
    if !(← accept '.') then return none
    blanks
    let k ← simpleKey
    blanks
    return some k
  if depthLimit ≤ (first :: more).length then failure
  return ((first :: more).dropLast, (first :: more).getLast (by simp))

/-! ### Values -/

/-- A character of a number, a truth value, a date or a time. -/
def isWordPart (c : Char) : Bool := isKeyPart c || c == '+' || c == '.' || c == ':'

/-- A time of day comes next, behind a blank. -/
def timeComes : List Char → Bool
  | ' ' :: a :: b :: ':' :: _ => a.isDigit && b.isDigit
  | _ => false

/-- A word; a date and a time with a blank between them are one word. -/
def word : Scanner (List Char) := do
  let s ← span isWordPart
  if Number.isDate s && timeComes (← get) then
    expect ' '
    return s ++ ' ' :: (← span isWordPart)
  else return s

/-- A key, an equals sign and a value. -/
def pair (value : Scanner Value) : Scanner ((List String × String) × Value) := do
  let k ← key
  expect '='
  blanks
  return (k, ← value)

/-- A table in braces, on one line and without a comma behind its last entry. -/
def braces (value : Scanner Value) : Scanner Value := do
  expect '\x7b'
  blanks
  if ← accept '\x7d' then return .table .braces []
  let first ← pair value
  let more ← collect do
    blanks
    if ← accept '\x7d' then return none
    expect ','
    some <$> pair value
  let assigned : Option Entries :=
    (first :: more).foldlM (fun es ((path, k), v) => es.assign path k v) []
  return .table .braces (← ofOption assigned)

/-- A list of values in brackets, on any number of lines. -/
def brackets (value : Scanner Value) : Scanner Value := do
  expect '['
  let items ← separated gap ']' value
  expect ']'
  return .array items

/-- A value, with room for so many levels of brackets and braces. -/
def value (room : Nat) : Scanner Value := do
  match ← peek? with
  | some '"' | some '\'' => return .text (String.ofList (← text))
  | some '[' => inside room fun n _ => brackets (value n)
  | some '\x7b' => inside room fun n _ => braces (value n)
  | _ => ofOption (Number.ofWord? (← word))
termination_by room

/-! ### Lines -/

/-- What a line says. -/
inductive Line where
  | blank
  | assign (path : List String) (key : String) (value : Value)
  /-- The header of a table. -/
  | table (path : List String) (key : String)
  /-- The header of one more table of an array. -/
  | tables (path : List String) (key : String)

/-- The content of a line. -/
def lineContent : Scanner Line := do
  blanks
  match ← get with
  | [] => return .blank
  | '[' :: '[' :: _ =>
    expectAll ['[', '[']
    let (path, k) ← key
    expectAll [']', ']']
    return .tables path k
  | '[' :: _ =>
    expect '['
    let (path, k) ← key
    expect ']'
    return .table path k
  | c :: _ =>
    if c = '#' ∨ c = '\n' ∨ c = '\r' then return .blank
    else
      let ((path, k), v) ← pair (value (depthLimit - 1))
      return .assign path k v

/-- The lines of a text; a mark of the byte order may come first. -/
def lines : Scanner (List Line) := do
  discard (accept '\ufeff')
  collect do
    if (← get).isEmpty then return none
    let l ← lineContent
    lineEnd
    return some l

/-- A table that is being built, and the header that the next keys belong to. -/
structure Building where
  entries : Entries
  current : List String

/-- Follows one line. -/
def Building.step (b : Building) : Line → Option Building
  | .blank => some b
  | .assign path k v => do
    return { b with entries := ← b.entries.assignBelow b.current path k v }
  | .table path k => do return ⟨← b.entries.declare path k, path ++ [k]⟩
  | .tables path k => do return ⟨← b.entries.extend path k, path ++ [k]⟩

/-- The table of a text. -/
def parse? (text : String) : Option Value := do
  let ls ← lines.readAll? text
  let b ← ls.foldlM Building.step ⟨[], []⟩
  return .table .header b.entries

end Scenery.Toml
