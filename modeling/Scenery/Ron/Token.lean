import Scenery.Decimal.Literal
import Scenery.Single
import Scenery.Text.Digit
import Scenery.Text.Scanner

/-!
# RON tokens

Blanks and comments, words and names, texts, characters and numbers.

* `gap`       blanks and comments
* `name`      a name
* `text`      a text in quotes, with escapes or without
* `number`    a floating-point number
* `index`     an unsigned integer of 64 bits
-/

namespace Scenery.Ron

open Text Scanner

/-! ### Blanks and comments -/

/-- What is being passed over. -/
inductive Gap where
  | blank
  | line
  /-- A block comment inside so many others. -/
  | block (depth : Nat)

/-- What follows the blanks and comments in front of a text; a block comment must be closed. -/
def afterGap : Gap → List Char → Option (List Char)
  | .blank, '/' :: '/' :: rest => afterGap .line rest
  | .blank, '/' :: '*' :: rest => afterGap (.block 0) rest
  | .blank, '/' :: _ => none
  | .blank, c :: rest =>
    if c = ' ' ∨ c = '\t' ∨ c = '\n' ∨ c = '\r' then afterGap .blank rest else some (c :: rest)
  | .line, c :: rest => afterGap (if c = '\n' then .blank else .line) rest
  | .block depth, '/' :: '*' :: rest => afterGap (.block (depth + 1)) rest
  | .block 0, '*' :: '/' :: rest => afterGap .blank rest
  | .block (depth + 1), '*' :: '/' :: rest => afterGap (.block depth) rest
  | .block depth, _ :: rest => afterGap (.block depth) rest
  | .block _, [] => none
  | _, [] => some []

/-- Passes over blanks and comments. -/
def gap : Scanner Unit := do
  set (← ofOption (afterGap .blank (← get)))

/-- Takes a character and the gap behind it. -/
def mark (c : Char) : Scanner Unit := do
  expect c
  gap

/-- Takes the gap, and a comma with the gap behind it if there is one. -/
def comma : Scanner Unit := do
  gap
  if ← accept ',' then gap

/-! ### Words and names -/

/-- A character that a name begins with. -/
def isNameStart (c : Char) : Bool := c.isAlpha || c == '_'

/-- A character of a name. -/
def isNamePart (c : Char) : Bool := c.isAlphanum || c == '_'

/-- A character of a name that is marked as one. -/
def isRawNamePart (c : Char) : Bool := isNamePart c || c == '.' || c == '+' || c == '-'

/-- A word comes next, and no more characters of a name behind it. -/
def wordComes (word : List Char) (text : List Char) : Bool :=
  word.isPrefixOf text && !(text.drop word.length).head?.any isNamePart

/-- Takes a word if it comes next, and tells whether it did.  A name that is marked as one is no
word. -/
def acceptWord (word : String) : Scanner Bool := do
  let comes := wordComes word.toList (← get)
  if comes then expectAll word.toList
  return comes

/-- A name at the front of a text, plain or marked, and what follows it. -/
def splitName? : List Char → Option (String × List Char)
  | 'r' :: '"' :: _ => none
  | 'r' :: '#' :: rest =>
    let name := rest.takeWhile isRawNamePart
    if name.isEmpty then none else some (String.ofList name, rest.drop name.length)
  | text =>
    let name := text.takeWhile isNamePart
    let rest := text.drop name.length
    if !text.head?.any isNameStart || rest.head?.any isRawNamePart then none
    else some (String.ofList name, rest)

/-- Takes a name if one comes next. -/
def name? : Scanner (Option String) := do
  match splitName? (← get) with
  | none => return none
  | some (name, rest) =>
    set rest
    return some name

/-- Takes a name, which must come next. -/
def name : Scanner String := do
  ofOption (← name?)

/-! ### Texts and characters -/

/-- The character with a number. -/
def character (n : Nat) : Scanner Char := do
  if n.isValidChar then return Char.ofNat n else failure

/-- A hexadecimal digit. -/
def isHexDigit (c : Char) : Bool := (digit? 16 c).isSome

/-- The character that an escape means, behind its backslash. -/
def escape : Scanner Char := do
  match ← any with
  | '\'' => return '\''
  | '"' => return '"'
  | '\\' => return '\\'
  | 'n' => return '\n'
  | 'r' => return '\r'
  | 't' => return '\t'
  | '0' => return '\x00'
  | 'x' =>
    let high ← ofOption (digit? 16 (← any))
    let low ← ofOption (digit? 16 (← any))
    character (16 * high + low)
  | 'u' =>
    if (← any) ≠ '\x7b' then failure
    let digits := ((← get).take 6).takeWhile isHexDigit
    expectAll digits
    let n ← ofOption (natural? 16 digits)
    if (← any) ≠ '\x7d' then failure
    character n
  | _ => failure

/-- A character that a text in quotes holds as it is. -/
def isPlain (c : Char) : Bool := c != '"' && c != '\\'

/-- A piece of a text in quotes, which is an escape or a run of plain characters, or the closing
quote. Plain characters are only taken if something ends them. -/
def quotedPiece : Scanner (Option (List Char)) := do
  if ← accept '"' then return none
  if ← accept '\\' then return some [← escape]
  let text ← get
  let rest := text.dropWhile isPlain
  if rest.isEmpty then failure
  set rest
  return some (text.takeWhile isPlain)

/-- The content of a text without escapes behind its `r`: it stands between quotes with the same
count of `#` around them, and is only taken if it ends. -/
def rawContent : Scanner (List Char) := do
  let hashes ← span (· = '#')
  expect '"'
  let text ← get
  let content? ← resume <| collect do
    if ← acceptAll ('"' :: hashes) then return none else some <$> any
  match content? with
  | some content => return content
  | none =>
    set text
    failure

/-- A text in quotes. -/
def text : Scanner String := do
  if ← accept '"' then return String.ofList (← collect quotedPiece).flatten
  else
    expect 'r'
    return String.ofList (← rawContent)

/-- A character in quotes; a quote needs an escape. -/
def quotedCharacter : Scanner Char := do
  expect '\''
  let c ←
    if ← accept '\\' then escape
    else
      let c ← any
      if c = '\'' then failure else pure c
  expect '\''
  return c

/-! ### Numbers -/

/-- A character of a floating-point number. -/
def isNumberPart (c : Char) : Bool :=
  c.isDigit || c == 'e' || c == 'E' || c == '.' || c == '+' || c == '-' || c == '_'

/-- A character of an integer's digits. -/
def isIntegerPart (c : Char) : Bool := isHexDigit c || c == '_'

/-- The words for numbers that have no digits. -/
def numberWords : List (String × Bool × Magnitude) :=
  [("inf", false, .infinity), ("+inf", false, .infinity), ("-inf", true, .infinity),
    ("NaN", false, .nan), ("+NaN", false, .nan), ("-NaN", true, .nan)]

/-- A floating-point number: one of the words, or a literal without underscores. -/
def number : Scanner Single := do
  let text ← get
  match numberWords.find? fun (word, _) => wordComes word.toList text with
  | some (word, negative, magnitude) =>
    expectAll word.toList
    return Single.ofMagnitude negative magnitude
  | none =>
    let (negative, digits) := Magnitude.spanSign (← span isNumberPart)
    return Single.ofMagnitude negative (.number (← ofOption (Magnitude.decimal? digits)))

/-- The base of an integer, with the mark of the base taken. -/
def base : Scanner Nat := do
  match ← get with
  | '0' :: 'x' :: rest =>
    set rest
    return 16
  | '0' :: 'b' :: rest =>
    set rest
    return 2
  | '0' :: 'o' :: rest =>
    set rest
    return 8
  | _ => return 10

/-- An integer without a sign, up to a bound.  Underscores may stand behind its first digit. -/
def integer (bound : Nat) : Scanner Nat := do
  let b ← base
  let digits ← span isIntegerPart
  if digits.head? = some '_' then failure
  let n ← ofOption (natural? b (digits.filter (· ≠ '_')))
  if bound < n then failure
  return n

/-- An unsigned integer of 64 bits. -/
def index : Scanner Nat := integer 0xFFFFFFFFFFFFFFFF

end Scenery.Ron
