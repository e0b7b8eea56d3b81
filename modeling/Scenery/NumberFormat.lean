import Scenery.Single

/-!
# Number formats

The two ways in which numbers are written to documents.
-/

namespace Scenery

/-- How numbers are written. -/
inductive NumberFormat where
  /-- Integral numbers keep a point and a zero; very large and very small ones have an exponent. -/
  | full
  /-- Integral numbers have no point, and no number has an exponent. -/
  | compact
  deriving DecidableEq, Repr

namespace NumberFormat

/-- Full numbers have an exponent below `10⁻⁴` and from `10¹⁶` on. -/
def layout : NumberFormat → Layout
  | full => ⟨true, some (-4, 16), "NaN"⟩
  | compact => ⟨false, none, "NaN"⟩

/-- The text of a number. -/
def text (f : NumberFormat) (x : Single) : List Char :=
  x.text f.layout

/-- The text of a number, as a string. -/
def format (f : NumberFormat) (x : Single) : String :=
  String.ofList (f.text x)

/-- The texts of some numbers, with single spaces between them. -/
def join (f : NumberFormat) (xs : List Single) : String :=
  " ".intercalate (xs.map f.format)

/-- A list of numbers in brackets, for messages. -/
def bracketed (xs : List Single) : String :=
  "[" ++ ", ".intercalate (xs.map full.format) ++ "]"

end NumberFormat

end Scenery
