import Scenery.Decimal.Basic

/-!
# Number literals

A literal is an optional sign before decimal digits with an optional point (digits on at least one
side of it) and an optional exponent, or before `inf`, `infinity` or `nan` in letters of any case.
Nothing else is a literal: no blank, no separator of thousands, no base but ten.
-/

namespace Scenery

/-- What a literal without its sign denotes. -/
inductive Magnitude where
  | number (value : Decimal)
  | infinity
  | nan
  deriving DecidableEq, Repr

namespace Magnitude

/-- The leading digits of a text and what follows them. -/
def spanDigits (s : List Char) : List Char × List Char :=
  (s.takeWhile Char.isDigit, s.dropWhile Char.isDigit)

/-- The sign in front of a text (true is minus) and what follows it. -/
def spanSign : List Char → Bool × List Char
  | '-' :: s => (true, s)
  | '+' :: s => (false, s)
  | s => (false, s)

/-- An exponent: an optional sign and at least one digit. -/
def exponent? (s : List Char) : Option Int :=
  let (negative, ds) := spanSign s
  if ds.isEmpty || !ds.all Char.isDigit then none
  else
    let n : Int := Nat.ofDigitChars 10 ds 0
    some (if negative then -n else n)

/-- Digits with an optional point and an optional exponent. -/
def decimal? (s : List Char) : Option Decimal :=
  let (whole, rest) := spanDigits s
  let (fraction, rest) := match rest with
    | '.' :: r => spanDigits r
    | r => ([], r)
  let coefficient := Nat.ofDigitChars 10 (whole ++ fraction) 0
  if whole.isEmpty && fraction.isEmpty then none
  else match rest with
    | [] => some ⟨coefficient, -(fraction.length : Int)⟩
    | e :: r =>
      if e == 'e' || e == 'E' then
        (exponent? r).map fun x => ⟨coefficient, x - fraction.length⟩
      else none

/-- A literal without its sign. -/
def ofText? (s : List Char) : Option Magnitude :=
  match s.map Char.toLower with
  | ['i', 'n', 'f'] => some .infinity
  | ['i', 'n', 'f', 'i', 'n', 'i', 't', 'y'] => some .infinity
  | ['n', 'a', 'n'] => some .nan
  | _ => (decimal? s).map .number

end Magnitude

end Scenery
