import PathRouting.Text.Numeral
import PathRouting.Toml.Spacing
set_option autoImplicit false

/-!
# Strings

Strings stand in double quotes, where a backslash escapes, or in single quotes, where nothing does;
and in one quote, where they end on their line, or in three, where they may go on over several.  The
readers start behind the opening quotes and give the text with what follows the closing ones.
-/

namespace PathRouting.Toml

open Text (isDigit numeral scalar?)

/-- The character that a letter after a backslash stands for. -/
def escaped? : Char → Option Char
  | 'b' => some '\x08'
  | 'f' => some '\x0C'
  | 'n' => some '\n'
  | 'r' => some '\r'
  | 't' => some '\t'
  | '"' => some '"'
  | '\\' => some '\\'
  | _ => none

/-- The character with the code point that hexadecimal digits give. -/
def numbered? (digits : List Char) : Option Char :=
  if digits.all (isDigit 16) then scalar? (numeral 16 digits) else none

/-- Puts a character before the text that was read. -/
def prepend (char : Char) (read : Option (List Char × List Char)) :
    Option (List Char × List Char) :=
  read.map fun (chars, left) => (char :: chars, left)

/-- Puts a character, if there is one, before the text that was read. -/
def prepend? (char? : Option Char) (read : Option (List Char × List Char)) :
    Option (List Char × List Char) :=
  char?.bind fun char => prepend char read

/-! ## One line -/

/-- A string in double quotes. -/
def readBasic : List Char → Option (List Char × List Char)
  | [] => none
  | '"' :: rest => some ([], rest)
  | '\\' :: 'u' :: a :: b :: c :: d :: rest => prepend? (numbered? [a, b, c, d]) (readBasic rest)
  | '\\' :: 'U' :: a :: b :: c :: d :: e :: f :: g :: h :: rest =>
    prepend? (numbered? [a, b, c, d, e, f, g, h]) (readBasic rest)
  | '\\' :: char :: rest => prepend? (escaped? char) (readBasic rest)
  | char :: rest => if isPlain char && char ≠ '\\' then prepend char (readBasic rest) else none

/-- A string in single quotes. -/
def readLiteral (text : List Char) : Option (List Char × List Char) :=
  let inside (char : Char) : Bool := isPlain char && char ≠ '\''
  match text.dropWhile inside with
  | '\'' :: left => some (text.takeWhile inside, left)
  | _ => none

/-! ## Several lines -/

/-- The number of times a quote stands at the start. -/
def quoteRun (quote : Char) (text : List Char) : Nat :=
  (text.takeWhile (· = quote)).length

/-- What a run of at least three quotes ends: up to two of them belong to the text. -/
def closeQuotes (quote : Char) (text : List Char) : Option (List Char × List Char) :=
  let run := quoteRun quote text
  if run ≤ 5 then some (List.replicate (run - 3) quote, text.drop run) else none

/-- Does only blank space stand between here and the end of the line? -/
def breaksLine (text : List Char) : Bool :=
  (afterNewline? (dropBlanks text)).isSome

/-- A string in three double quotes.  A backslash at the end of a line takes away the line break and
all blank space behind it; the flag tells whether that is going on. -/
def readBasicLines : Bool → List Char → Option (List Char × List Char)
  | _, [] => none
  | _, '\\' :: 'u' :: a :: b :: c :: d :: rest =>
    prepend? (numbered? [a, b, c, d]) (readBasicLines false rest)
  | _, '\\' :: 'U' :: a :: b :: c :: d :: e :: f :: g :: h :: rest =>
    prepend? (numbered? [a, b, c, d, e, f, g, h]) (readBasicLines false rest)
  | trimming, char :: rest =>
    if char = '"' && quoteRun '"' rest ≥ 2 then closeQuotes '"' (char :: rest)
    else if char = '\n' || (char = '\r' && rest.head? = some '\n') then
      if trimming || char = '\r' then readBasicLines trimming rest
      else prepend '\n' (readBasicLines false rest)
    else if trimming && isBlank char then readBasicLines true rest
    else if char = '\\' then
      if breaksLine rest then readBasicLines true rest
      else
        match rest with
        | [] => none
        | letter :: more => prepend? (escaped? letter) (readBasicLines false more)
    else if isPlain char then prepend char (readBasicLines false rest)
    else none

/-- A string in three single quotes. -/
def readLiteralLines : List Char → Option (List Char × List Char)
  | [] => none
  | char :: rest =>
    if char = '\'' && quoteRun '\'' rest ≥ 2 then closeQuotes '\'' (char :: rest)
    else if char = '\r' && rest.head? = some '\n' then readLiteralLines rest
    else if char = '\n' || isPlain char then prepend char (readLiteralLines rest)
    else none

/-- Drops a newline that directly follows the opening quotes. -/
def dropNewline (text : List Char) : List Char :=
  (afterNewline? text).getD text

/-- A string with its quotes, of any of the four kinds. -/
def readString (text : List Char) : Option (List Char × List Char) :=
  match text with
  | '"' :: '"' :: '"' :: rest => readBasicLines false (dropNewline rest)
  | '\'' :: '\'' :: '\'' :: rest => readLiteralLines (dropNewline rest)
  | '"' :: rest => readBasic rest
  | '\'' :: rest => readLiteral rest
  | _ => none

end PathRouting.Toml
