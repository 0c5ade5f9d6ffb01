set_option autoImplicit false

/-!
# Blanks, comments and ends of lines
-/

namespace PathRouting.Toml

/-- A blank within a line. -/
def isBlank (char : Char) : Bool :=
  char = ' ' || char = '\t'

/-- A character that text may hold as it is: no control character but the tab. -/
def isPlain (char : Char) : Bool :=
  char = '\t' || (0x20 ≤ char.toNat && char.toNat ≠ 0x7F)

/-- Drops blanks. -/
def dropBlanks (text : List Char) : List Char :=
  text.dropWhile isBlank

/-- The text after a newline, if it starts with one. -/
def afterNewline? : List Char → Option (List Char)
  | '\n' :: rest => some rest
  | '\r' :: '\n' :: rest => some rest
  | _ => none

/-- Drops a comment up to the end of its line. -/
def dropComment : List Char → List Char
  | '#' :: rest => rest.dropWhile isPlain
  | text => text

/-- The text after the end of a line, before which blanks and a comment may stand.  The end of the
text ends a line too. -/
def afterLine? (text : List Char) : Option (List Char) :=
  match dropComment (dropBlanks text) with
  | [] => some []
  | rest => afterNewline? rest

/-- Drops blanks, newlines and comments; the flag tells whether the text starts inside a comment. -/
def dropFiller : Bool → List Char → List Char
  | _, [] => []
  | inComment, char :: rest =>
    if inComment && isPlain char then dropFiller true rest
    else if char = '\n' || (char = '\r' && rest.head? = some '\n') then dropFiller false rest
    else if !inComment && isBlank char then dropFiller false rest
    else if !inComment && char = '#' then dropFiller true rest
    else char :: rest

end PathRouting.Toml
