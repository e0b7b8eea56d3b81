/-!
# Digits

Digits of the bases up to sixteen, with letters of either case from ten on, and the natural numbers
that they denote.
-/

namespace Scenery.Text

/-- The value of a digit of a base. -/
def digit? (base : Nat) (c : Char) : Option Nat :=
  let value? :=
    if '0' ≤ c ∧ c ≤ '9' then some (c.toNat - '0'.toNat)
    else if 'a' ≤ c ∧ c ≤ 'f' then some (c.toNat - 'a'.toNat + 10)
    else if 'A' ≤ c ∧ c ≤ 'F' then some (c.toNat - 'A'.toNat + 10)
    else none
  value?.filter (· < base)

/-- The number that `n`, written before some digits, and those digits denote. -/
def appendDigits? (base : Nat) : Nat → List Char → Option Nat
  | n, [] => some n
  | n, c :: cs => (digit? base c).bind fun d => appendDigits? base (base * n + d) cs

/-- The number that at least one digit denotes. -/
def natural? (base : Nat) (s : List Char) : Option Nat :=
  if s.isEmpty then none else appendDigits? base 0 s

end Scenery.Text
