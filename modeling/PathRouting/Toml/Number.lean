import PathRouting.Text.Numeral
set_option autoImplicit false

/-!
# Numbers

Integers in four bases, which must fit 64 bits, and floating-point numbers, which must not be too
large for double precision.  Underscores may stand between digits.
-/

namespace PathRouting.Toml

open Text (isDigit numeral)

/-! ## Digits -/

/-- Digits after a first one.  An underscore must have a digit behind it. -/
def moreDigits (base : Nat) : List Char → Option (List Char × List Char)
  | [] => some ([], [])
  | ['_'] => none
  | '_' :: char :: rest =>
    if isDigit base char then
      (moreDigits base rest).map fun (digits, left) => (char :: digits, left)
    else none
  | char :: rest =>
    if isDigit base char then
      (moreDigits base rest).map fun (digits, left) => (char :: digits, left)
    else some ([], char :: rest)

/-- One digit or more. -/
def someDigits (base : Nat) : List Char → Option (List Char × List Char)
  | [] => none
  | char :: rest =>
    if isDigit base char then
      (moreDigits base rest).map fun (digits, left) => (char :: digits, left)
    else none

/-- Decimal digits that do not start with a zero, or a zero alone. -/
def wholeDigits : List Char → Option (List Char × List Char)
  | '0' :: rest => some (['0'], rest)
  | text => someDigits 10 text

/-- A sign, true for minus, if there is one. -/
def takeSign : List Char → Bool × List Char
  | '+' :: rest => (false, rest)
  | '-' :: rest => (true, rest)
  | text => (false, text)

/-! ## Integers -/

/-- Does a number fit 64 bits? -/
def fitsWord (number : Int) : Bool :=
  decide (-Int.pow 2 63 ≤ number) && decide (number < Int.pow 2 63)

/-- An integer in the given base. -/
def readBased (base : Nat) (text : List Char) : Option (Int × List Char) :=
  (someDigits base text).bind fun (digits, left) =>
    let number : Int := numeral base digits
    if fitsWord number then some (number, left) else none

/-- An integer; one in another base than ten has no sign. -/
def readInteger (text : List Char) : Option (Int × List Char) :=
  match text with
  | '0' :: 'x' :: rest => readBased 16 rest
  | '0' :: 'o' :: rest => readBased 8 rest
  | '0' :: 'b' :: rest => readBased 2 rest
  | _ =>
    let (negative, unsigned) := takeSign text
    (wholeDigits unsigned).bind fun (digits, left) =>
      let size : Int := numeral 10 digits
      let number := if negative then -size else size
      if fitsWord number then some (number, left) else none

/-! ## Floating-point numbers -/

/-- The least number that double precision rounds to infinity: half a unit above the largest one. -/
def overflowBound : Nat := Nat.pow 2 1024 - Nat.pow 2 970

/-- Is `significand * 10 ^ exponent` rounded to infinity?  The number of digits before the point
decides unless it is near that of the bound, which has 309. -/
def overflows (significand : Nat) (exponent : Int) : Bool :=
  if significand = 0 then false
  else
    let places : Int := (Nat.toDigits 10 significand).length + exponent
    if places < 300 then false
    else if places > 320 then true
    else if exponent < 0 then decide (significand ≥ overflowBound * Nat.pow 10 exponent.natAbs)
    else decide (significand * Nat.pow 10 exponent.natAbs ≥ overflowBound)

/-- The digits after a point. -/
def readFraction : List Char → Option (List Char × List Char)
  | '.' :: rest => someDigits 10 rest
  | _ => none

/-- An exponent. -/
def readExponent : List Char → Option (Int × List Char)
  | char :: rest =>
    if char = 'e' || char = 'E' then
      let (negative, unsigned) := takeSign rest
      (someDigits 10 unsigned).map fun (digits, left) =>
        let size : Int := numeral 10 digits
        (if negative then -size else size, left)
    else none
  | [] => none

/-- The special numbers. -/
def readSpecial (text : List Char) : Option (List Char) :=
  match (takeSign text).2 with
  | 'i' :: 'n' :: 'f' :: rest => some rest
  | 'n' :: 'a' :: 'n' :: rest => some rest
  | _ => none

/-- A number with a fraction, an exponent, or both.  Only numbers above the range are refused. -/
def readDecimal (text : List Char) : Option (List Char) :=
  let (negative, unsigned) := takeSign text
  (wholeDigits unsigned).bind fun (whole, afterWhole) =>
    let fraction := readFraction afterWhole
    let afterFraction := (fraction.map (·.2)).getD afterWhole
    let exponent := readExponent afterFraction
    if fraction.isNone && exponent.isNone then none
    else
      let places := (fraction.map (·.1)).getD []
      let scale := (exponent.map (·.1)).getD 0 - places.length
      if !negative && overflows (numeral 10 (whole ++ places)) scale then none
      else some ((exponent.map (·.2)).getD afterFraction)

/-- A floating-point number, as it is written, and the text behind it. -/
def readFloat (text : List Char) : Option (List Char × List Char) :=
  (readDecimal text <|> readSpecial text).map fun left =>
    (text.take (text.length - left.length), left)

end PathRouting.Toml
