import Scenery.Decimal.Binary
import Scenery.Toml.Value
import Scenery.Text.Digit

/-!
# TOML numbers, dates and times

The words of TOML that are no text: numbers, truth values, dates and times.

* `ofWord?`   the value of a word
-/

namespace Scenery.Toml.Number

open Text

/-- Every underscore stands between two digits of a base. -/
def groups (base : Nat) : List Char → Bool
  | a :: '_' :: b :: rest =>
    (digit? base a).isSome && (digit? base b).isSome && groups base (b :: rest)
  | ['_'] => false
  | '_' :: _ => false
  | [_, '_'] => false
  | _ :: rest => groups base rest
  | [] => true

/-- The digits that are left without underscores, if these stand between digits. -/
def ungrouped? (base : Nat) (s : List Char) : Option (List Char) :=
  if groups base s then some (s.filter (· ≠ '_')) else none

/-- No zero stands in front of other digits. -/
def isPlain : List Char → Bool
  | '0' :: _ :: _ => false
  | _ => true

/-- An integer without a bound: of base ten with a sign or not, or of another base behind its mark.
-/
def unbounded? : List Char → Option Int
  | '0' :: 'x' :: ds => do return (← natural? 16 (← ungrouped? 16 ds) : Nat)
  | '0' :: 'o' :: ds => do return (← natural? 8 (← ungrouped? 8 ds) : Nat)
  | '0' :: 'b' :: ds => do return (← natural? 2 (← ungrouped? 2 ds) : Nat)
  | s => do
    let (negative, ds) := Magnitude.spanSign s
    let ds ← ungrouped? 10 ds
    let n ← natural? 10 ds
    if isPlain ds then some (if negative then -(n : Int) else n) else none

/-- An integer of 64 bits. -/
def integer? (s : List Char) : Option Int :=
  (unbounded? s).filter fun n => -0x8000000000000000 ≤ n ∧ n < 0x8000000000000000

/-- What follows the digits in front of a point or an exponent: a point needs a digit behind it. -/
def isFraction : List Char → Bool
  | [] => false
  | '.' :: rest => rest.head?.any Char.isDigit
  | _ => true

/-- A number with a point or an exponent; there are digits on both sides of a point.  Only negative
numbers may lie beyond the largest double-precision number. -/
def float? (s : List Char) : Option Value := do
  let (negative, s) := Magnitude.spanSign s
  if s = ['i', 'n', 'f'] then return .float negative .infinity
  if s = ['n', 'a', 'n'] then return .float negative .nan
  let s ← ungrouped? 10 s
  let (whole, rest) := Magnitude.spanDigits s
  guard (!whole.isEmpty && isPlain whole && isFraction rest)
  let d ← Magnitude.decimal? s
  guard (negative || BinaryFormat.double.nearestDecimal d < BinaryFormat.double.infinity)
  return .float negative (.number d)

/-! ### Dates and times -/

/-- A number of two digits within bounds. -/
def twoDigits (lo hi : Nat) (a b : Char) : Bool :=
  (natural? 10 [a, b]).any fun n => lo ≤ n && n ≤ hi

/-- The count of days of a month. -/
def daysOf (year month : Nat) : Nat :=
  if month = 2 then
    if (year % 4 = 0 ∧ year % 100 ≠ 0) ∨ year % 400 = 0 then 29 else 28
  else if month = 4 ∨ month = 6 ∨ month = 9 ∨ month = 11 then 30
  else 31

/-- A date: year, month and day. -/
def isDate : List Char → Bool
  | [a, b, c, d, '-', e, f, '-', g, h] =>
    match natural? 10 [a, b, c, d], natural? 10 [e, f] with
    | some year, some month =>
      1 ≤ month && month ≤ 12 && twoDigits 1 (daysOf year month) g h
    | _, _ => false
  | _ => false

/-- The distance from the time at Greenwich, or nothing. -/
def isOffset : List Char → Bool
  | [] => true
  | ['Z'] => true
  | ['z'] => true
  | [sign, a, b, ':', c, d] =>
    (sign = '+' || sign = '-') && twoDigits 0 23 a b && twoDigits 0 59 c d
  | _ => false

/-- What follows a time of day at the front of a text. -/
def afterTime? : List Char → Option (List Char)
  | a :: b :: ':' :: c :: d :: ':' :: e :: f :: rest =>
    if twoDigits 0 23 a b && twoDigits 0 59 c d && twoDigits 0 60 e f then
      match rest with
      | '.' :: rest =>
        let (fraction, rest) := Magnitude.spanDigits rest
        if fraction.isEmpty then none else some rest
      | _ => some rest
    else none
  | _ => none

/-- A time of day alone. -/
def isTime (s : List Char) : Bool := afterTime? s = some []

/-- A date, a time of day, or a date with a time of day and an offset. -/
def isDateTime (s : List Char) : Bool :=
  isTime s || isDate s ||
    (isDate (s.take 10) && match s.drop 10 with
      | sep :: time => (sep = 'T' || sep = 't' || sep = ' ') && (afterTime? time).any isOffset
      | [] => false)

/-- The value of a word. -/
def ofWord? (s : List Char) : Option Value :=
  if s = "true".toList then some (.boolean true)
  else if s = "false".toList then some (.boolean false)
  else if isDateTime s then some .dateTime
  else match integer? s with
    | some n => some (.integer n)
    | none => float? s

end Scenery.Toml.Number
