import Scenery.Ron.Token

/-!
# Groups of RON values

How values nest, whatever is read of them: items between marks, fields, and values that may be
missing.  A group takes one level of nesting and each thing in it one more.
-/

namespace Scenery.Ron

open Text Scanner

/-- What a text changes about the rules for its values. -/
structure Extensions where
  /-- A value that may be missing needs no mark when it is there. -/
  implicitSome : Bool
  /-- The fields of a record in an alternative need no parentheses of their own. -/
  unwrapVariants : Bool

variable {α : Type}

/-- The items of a group with commas between them, up to its closing mark, which stays. -/
def items (room : Nat) (closing : Char) (item : (n : Nat) → n < room → Scanner α) :
    Scanner (List α) :=
  inside room fun n h => separated gap closing (inside n fun k hk => item k (Nat.lt_trans hk h))

/-- The items of a group between its marks. -/
def group (room : Nat) (opening closing : Char) (item : (n : Nat) → n < room → Scanner α) :
    Scanner (List α) := do
  expect opening
  let found ← items room closing item
  expect closing
  return found

/-- A name, a colon and what the name stands for. -/
def field (value : String → Scanner α) : Scanner α := do
  let n ← name
  gap
  mark ':'
  value n

/-- A value that may be missing: `None`, or a value in parentheses behind `Some`.  With an extension
the value may stand alone, behind `Some` or not. -/
def option (x : Extensions) (room : Nat) (content : (n : Nat) → n < room → Scanner α) :
    Scanner (Option α) := do
  if ← acceptWord "None" then return none
  if ← acceptWord "Some" then
    gap
    if ← accept '(' then
      gap
      let a ← inside room content
      comma
      expect ')'
      return some a
  if x.implicitSome then some <$> inside room content else failure

end Scenery.Ron
