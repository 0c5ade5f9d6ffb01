set_option autoImplicit false

/-!
# Cutting texts

Texts as lists of characters, cut at every place where a separator stands or at the first one.
-/

namespace PathRouting.Text

/-- The pieces of a text between its separators; a text without a separator is one piece. -/
def pieces (separator : Char) : List Char → List (List Char)
  | [] => [[]]
  | char :: rest =>
    if char = separator then [] :: pieces separator rest
    else match pieces separator rest with
      | [] => [[char]]
      | piece :: others => (char :: piece) :: others

/-- What stands before the first separator, and what after it. -/
def cut (separator : Char) (text : List Char) : List Char × List Char :=
  (text.takeWhile (· ≠ separator), (text.dropWhile (· ≠ separator)).tail)

/-- The text after a given beginning, if it begins so. -/
def after? (start : List Char) (text : List Char) : Option (List Char) :=
  if start.isPrefixOf text then some (text.drop start.length) else none

end PathRouting.Text
