set_option autoImplicit false

/-!
# Numerals

The values of digits and of digit strings in the bases that texts use.
-/

namespace PathRouting.Text

/-- The value of a digit in a base of at most sixteen. -/
def digit? (base : Nat) (char : Char) : Option Nat :=
  let value? :=
    if '0' ≤ char ∧ char ≤ '9' then some (char.toNat - '0'.toNat)
    else if 'a' ≤ char ∧ char ≤ 'f' then some (char.toNat - 'a'.toNat + 10)
    else if 'A' ≤ char ∧ char ≤ 'F' then some (char.toNat - 'A'.toNat + 10)
    else none
  value?.filter (· < base)

/-- Is this a digit of the base? -/
def isDigit (base : Nat) (char : Char) : Bool :=
  (digit? base char).isSome

/-- The number that digits stand for; characters that are no digits count as zero. -/
def numeral (base : Nat) (digits : List Char) : Nat :=
  digits.foldl (fun value char => value * base + (digit? base char).getD 0) 0

/-- The character with a code point, unless the code point is a surrogate or out of range. -/
def scalar? (code : Nat) : Option Char :=
  if h : code.isValidChar then some (Char.ofNatAux code h) else none

end PathRouting.Text
