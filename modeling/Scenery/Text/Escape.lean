import Scenery.Text.Visible

/-!
# Escaped text

Text in quotes, with everything escaped that would not show in print.  An `Escaping` holds the
choice that differs between outputs; the rest is common to all.
-/

namespace Scenery.Text

/-- Which of the two quotes are escaped; the backslash always is. -/
structure Escaping where
  single : Bool
  double : Bool

namespace Escaping

/-- For reading by people: the double quote is the delimiter. -/
def display : Escaping := ⟨false, true⟩

/-- Both quotes are escaped. -/
def full : Escaping := ⟨true, true⟩

/-- A code point in hexadecimal. -/
def codePoint (c : Char) : List Char :=
  ['\\', 'u', '\x7b'] ++ Nat.toDigits 16 c.toNat ++ ['\x7d']

/-- A character as it is written between quotes. -/
def char (e : Escaping) (c : Char) : List Char :=
  if c = '\x00' then ['\\', '0']
  else if c = '\t' then ['\\', 't']
  else if c = '\r' then ['\\', 'r']
  else if c = '\n' then ['\\', 'n']
  else if c = '\\' then ['\\', '\\']
  else if c = '"' then if e.double then ['\\', '"'] else ['"']
  else if c = '\'' then if e.single then ['\\', '\''] else ['\'']
  else if isExtending c || !isVisible c then codePoint c
  else [c]

/-- A text in double quotes. -/
def quoted (e : Escaping) (s : List Char) : List Char :=
  '"' :: (s.flatMap e.char ++ ['"'])

end Escaping

/-- A text in double quotes, for messages. -/
def display (s : String) : String :=
  String.ofList (Escaping.display.quoted s.toList)

end Scenery.Text
