import Scenery.Ron.Group

/-!
# RON values that nobody asks for

A record may have fields with unknown names.  Their values are passed over, and they have rules of
their own, because nothing tells what a word, a number or a group is meant to be.
-/

namespace Scenery.Ron

open Text Scanner

/-! ### Numbers -/

/-- A character that a number begins with. -/
def isNumberStart (c : Char) : Bool := c.isDigit || c == '+' || c == '-' || c == '.'

/-- The largest absolute value of an integer of 64 bits at the front of a text, which is unsigned
unless a sign is written, and what follows the sign. -/
def signedBound : List Char → Nat × List Char
  | '+' :: rest => (0x7FFFFFFFFFFFFFFF, rest)
  | '-' :: rest => (0x8000000000000000, rest)
  | rest => (0xFFFFFFFFFFFFFFFF, rest)

/-- Passes over a number.  If the characters of integers reach as far as those of floating-point
numbers, it may be an integer of 64 bits. -/
def ignoredNumber : Scanner Unit := do
  let text ← get
  let (bound, digits) := signedBound text
  if (digits.takeWhile isNumberPart).length ≤ (digits.takeWhile isIntegerPart).length then
    set digits
    if (← resume (integer bound)).isSome then return ()
    set text
  discard number

/-! ### Groups in parentheses -/

/-- One step through a group whose end is looked for, given how many groups in it are open.  The
search ends at the end of the group or at its first comma.  Comments and texts are passed over as
such, but characters in quotes are not. -/
def groupStep (depth : Nat) : Scanner (Nat ⊕ Unit) := do
  gap
  discard (resume text)
  match ← any with
  | '(' | '[' | '\x7b' => return .inl (depth + 1)
  | ')' | ']' | '\x7d' => return if depth = 0 then .inr () else .inl (depth - 1)
  | ',' => return if depth = 0 then .inr () else .inl depth
  | _ => return .inl depth

/-- The group that comes next begins with the name of a field.  If it does not, its end or its first
comma must be found. -/
def hasFields : Scanner Bool := lookAhead do
  mark '('
  if (← name?).isSome then
    gap
    match ← peek? with
    | some ':' => return true
    | some ',' | some ')' => return false
    | _ => pure ()
  repeatFrom 0 groupStep
  return false

/-! ### Values -/

/-- Passes over a group in parentheses, with the given scanner for what nests in it. -/
def ignoredGroup (room : Nat) (nested : (n : Nat) → n < room → Scanner Unit) : Scanner Unit := do
  if ← hasFields then discard (group room '(' ')' fun n h => field fun _ => nested n h)
  else discard (group room '(' ')' nested)

/-- Passes over a key and its value. -/
def ignoredEntry (nested : Scanner Unit) : Scanner Unit := do
  nested
  gap
  mark ':'
  nested

/-- Passes over a value.  Words come first, then names, which may have a group behind them; all
else is told by its first character. -/
def ignored (x : Extensions) (room : Nat) : Scanner Unit := do
  if ← ["true", "false", "None", "inf", "NaN"].anyM acceptWord then return ()
  if ← acceptAll ['(', ')'] then return ()
  if wordComes "Some".toList (← get) then
    discard (option x room fun n _ => ignored x n)
  else if (← name?).isSome then
    gap
    if (← peek?) = some '(' then ignoredGroup room fun n _ => ignored x n
  else match ← peek? with
    | some '(' => ignoredGroup room fun n _ => ignored x n
    | some '[' => discard (group room '[' ']' fun n _ => ignored x n)
    | some '\x7b' => discard (group room '\x7b' '\x7d' fun n _ => ignoredEntry (ignored x n))
    | some '"' | some 'r' => discard text
    | some '\'' => discard quotedCharacter
    | some c => if isNumberStart c then ignoredNumber else failure
    | none => failure
termination_by room

end Scenery.Ron
