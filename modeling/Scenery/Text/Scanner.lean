/-!
# Scanners

A scanner reads a value off the front of a text or fails.  The text is a list of characters.  A
scanner that fails leaves the text where it failed, which shows where another one takes over
(`resume`).
-/

namespace Scenery.Text

/-- Reads a value off the front of a text. -/
abbrev Scanner := OptionT (StateM (List Char))

namespace Scanner

variable {α σ : Type}

/-- A value that needs no text, or a failure. -/
def ofOption : Option α → Scanner α
  | some a => return a
  | none => failure

/-- The value of a scanner, which takes nothing of the text. -/
def lookAhead (s : Scanner α) : Scanner α := do
  let text ← get
  let a ← s
  set text
  return a

/-- The value of a scanner, if it has one; otherwise the text is left where the scanner failed. -/
def resume (s : Scanner α) : Scanner (Option α) := OptionT.lift s.run

/-- The next character, which stays. -/
def peek? : Scanner (Option Char) := return (← get).head?

/-- Takes the next character. -/
def any : Scanner Char := do
  match ← get with
  | [] => failure
  | c :: rest =>
    set rest
    return c

/-- Takes the next character if it is the given one, and tells whether it was. -/
def accept (c : Char) : Scanner Bool := do
  match ← get with
  | [] => return false
  | d :: rest =>
    if d = c then set rest
    return d = c

/-- Takes a character that must come next. -/
def expect (c : Char) : Scanner Unit := do
  if !(← accept c) then failure

/-- Takes a text if it comes next, and tells whether it did. -/
def acceptAll (s : List Char) : Scanner Bool := do
  let text ← get
  if s.isPrefixOf text then set (text.drop s.length)
  return s.isPrefixOf text

/-- Takes a text that must come next. -/
def expectAll (s : List Char) : Scanner Unit := do
  if !(← acceptAll s) then failure

/-- Takes the characters up to the first one outside a class. -/
def span (p : Char → Bool) : Scanner (List Char) := do
  let text ← get
  set (text.dropWhile p)
  return text.takeWhile p

/-- Repeats a step until it comes to a result, but no more often than the given text has
characters. -/
def repeatWithin (step : σ → Scanner (σ ⊕ α)) (s : σ) : List Char → Scanner α
  | [] => do
    match ← step s with
    | .inl _ => failure
    | .inr a => return a
  | _ :: fuel => do
    match ← step s with
    | .inl s => repeatWithin step s fuel
    | .inr a => return a

/-- Repeats a step until it comes to a result.  Each step but the last must take a character, so
that the text that is left bounds their number. -/
def repeatFrom (s : σ) (step : σ → Scanner (σ ⊕ α)) : Scanner α := do
  repeatWithin step s (← get)

/-- Reads items up to the first time that there is none.  Each item must take a character. -/
def collect (item : Scanner (Option α)) : Scanner (List α) := do
  let found ← repeatFrom [] fun found => do
    match ← item with
    | none => return .inr found
    | some a => return .inl (a :: found)
  return found.reverse

/-- Items with commas between them, up to a closing mark, which stays; a comma may follow the last
item.  The scanner `gap` passes over what may stand around items and commas. -/
def separated (gap : Scanner Unit) (close : Char) (item : Scanner α) : Scanner (List α) := do
  gap
  collect do
    if (← peek?) = some close then return none
    let a ← item
    gap
    if ← accept ',' then gap
    else if (← peek?) ≠ some close then failure
    return some a

/-- What lies one level deeper, if there is room for one more level. -/
def inside (room : Nat) (deeper : (n : Nat) → n < room → Scanner α) : Scanner α :=
  match room with
  | 0 => failure
  | n + 1 => deeper n (Nat.lt_add_one n)

/-- Nothing is left. -/
def finish : Scanner Unit := do
  if !(← get).isEmpty then failure

/-- The value of a whole text. -/
def readAll? (s : Scanner α) (text : String) : Option α :=
  (StateT.run (OptionT.run (s <* finish)) text.toList).1

end Scanner

end Scenery.Text
