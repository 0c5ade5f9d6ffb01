import PathRouting.Text.Numeral
set_option autoImplicit false

/-!
# Dates and times

A date, a time of day, or a date with a time of day and perhaps an offset from universal time. 
Readers give the text behind what they read, if it is a moment that there can be.
-/

namespace PathRouting.Toml

open Text (isDigit numeral)

/-- A number of exactly so many digits, between two bounds. -/
def readField (digits least most : Nat) (text : List Char) : Option (Nat × List Char) :=
  let field := text.take digits
  let value := numeral 10 field
  if field.length = digits && field.all (isDigit 10) && least ≤ value && value ≤ most then
    some (value, text.drop digits)
  else none

/-- The text behind a character that must come next. -/
def expect (char : Char) : List Char → Option (List Char)
  | next :: rest => if next = char then some rest else none
  | [] => none

/-- Does the year have a leap day? -/
def isLeapYear (year : Nat) : Bool :=
  year % 4 = 0 && (year % 100 ≠ 0 || year % 400 = 0)

/-- The number of days of a month. -/
def daysIn (year month : Nat) : Nat :=
  if month = 2 then (if isLeapYear year then 29 else 28)
  else if month = 4 || month = 6 || month = 9 || month = 11 then 30
  else 31

/-- A date. -/
def readDate (text : List Char) : Option (List Char) := do
  let (year, text) ← readField 4 0 9999 text
  let text ← expect '-' text
  let (month, text) ← readField 2 1 12 text
  let text ← expect '-' text
  let (_, text) ← readField 2 1 (daysIn year month) text
  return text

/-- The digits of a fraction of a second, if there are any. -/
def dropFraction (text : List Char) : List Char :=
  match text with
  | '.' :: rest => if rest.head?.any (isDigit 10) then rest.dropWhile (isDigit 10) else text
  | _ => text

/-- A time of day; a minute may have a leap second. -/
def readTime (text : List Char) : Option (List Char) := do
  let (_, text) ← readField 2 0 23 text
  let text ← expect ':' text
  let (_, text) ← readField 2 0 59 text
  let text ← expect ':' text
  let (_, text) ← readField 2 0 60 text
  return dropFraction text

/-- An offset from universal time. -/
def readOffset (text : List Char) : Option (List Char) := do
  match text with
  | 'Z' :: rest => return rest
  | 'z' :: rest => return rest
  | sign :: rest =>
    if sign = '+' || sign = '-' then
      let (_, text) ← readField 2 0 23 rest
      let text ← expect ':' text
      let (_, text) ← readField 2 0 59 text
      return text
    else none
  | [] => none

/-- The time and the offset behind a date, where they are there. -/
def dropTime (text : List Char) : List Char :=
  match text with
  | mark :: rest =>
    if mark = 'T' || mark = 't' || mark = ' ' then
      match readTime rest with
      | none => text
      | some left => (readOffset left).getD left
    else text
  | [] => []

/-- A moment, as it is written, and the text behind it. -/
def readMoment (text : List Char) : Option (List Char × List Char) :=
  ((readDate text).map dropTime <|> readTime text).map fun left =>
    (text.take (text.length - left.length), left)

end PathRouting.Toml
