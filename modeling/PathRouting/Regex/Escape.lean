import PathRouting.Regex.Ast
import PathRouting.Regex.Spacing
import PathRouting.Text.Numeral
set_option autoImplicit false

/-!
# Escapes

What a backslash makes of the characters after it.  Readers take the text after what was read so far
and give what they read with the text that is left, or nothing when the expression is malformed.
-/

namespace PathRouting.Regex

open Text (after? isDigit numeral scalar?)

/-- The smallest parts of an expression. -/
inductive Primitive where
  | literal (literal : Literal)
  | anchor (anchor : Anchor)
  | property (query : PropertyQuery) (negated : Bool)
  | shorthand (kind : Shorthand) (negated : Bool)
  deriving DecidableEq, Repr, Inhabited

/-- A character written as such. -/
def Primitive.ofChar (char : Char) : Primitive := .literal ⟨char, false⟩

/-! ## Characters by number -/

/-- Exactly so many hexadecimal digits. -/
def takeHex (verbose : Bool) : Nat → List Char → Option (List Char × List Char)
  | 0, text => some ([], text)
  | _ + 1, [] => none
  | count + 1, char :: rest =>
    if isDigit 16 char then
      (takeHex verbose count (skip verbose rest)).map fun (digits, left) => (char :: digits, left)
    else none

/-- A character by its number, which is written in braces or with exactly `width` digits. -/
def readNumbered (verbose : Bool) (width : Nat) (text : List Char) :
    Option (Literal × List Char) :=
  match skip verbose text with
  | '{' :: rest =>
    match takeSpaced verbose (isDigit 16) (skip verbose rest) with
    | (digits, '}' :: left) =>
      if digits = [] then none
      else (scalar? (numeral 16 digits)).map fun char => (⟨char, false⟩, skip verbose left)
    | _ => none
  | fixed =>
    (takeHex verbose width fixed).bind fun (digits, left) =>
      (scalar? (numeral 16 digits)).map fun char => (⟨char, width = 2⟩, left)

/-! ## Unicode classes -/

/-- Cuts a text at the first place where the sign stands. -/
def cutAtSign? (sign : List Char) : List Char → Option (List Char × List Char)
  | [] => none
  | char :: rest =>
    match after? sign (char :: rest) with
    | some left => some ([], left)
    | none => (cutAtSign? sign rest).map fun (before, left) => (char :: before, left)

/-- What the braces of a Unicode class hold: a property and its value, after `!=`, `:` or `=`, or a
single name.  With `!=` the class is negated once more. -/
def readQuery (text : List Char) : PropertyQuery × Bool :=
  let valued (parts : List Char × List Char) : PropertyQuery :=
    .valued (String.ofList parts.1) (String.ofList parts.2)
  match cutAtSign? ['!', '='] text with
  | some parts => (valued parts, true)
  | none =>
    match cutAtSign? [':'] text <|> cutAtSign? ['='] text with
    | some parts => (valued parts, false)
    | none => (.named (String.ofList text), false)

/-- What follows `\p`: one letter, or anything in braces, where blanks are skipped.  The truth value
tells whether the class is negated. -/
def readProperty (verbose : Bool) (text : List Char) :
    Option ((PropertyQuery × Bool) × List Char) :=
  match skip verbose text with
  | [] => none
  | '{' :: rest =>
    match takeSpaced verbose (· ≠ '}') (skip verbose rest) with
    | (_, []) => none
    | (name, _ :: left) => some (readQuery name, left)
  | char :: rest =>
    if char = '\\' then none else some ((.named (String.singleton char), false), rest)

/-! ## Word boundaries -/

/-- The names that can stand in braces after `\b`. -/
def namedBoundary? (name : List Char) : Option Anchor :=
  if name = "start".toList then some .wordStart
  else if name = "end".toList then some .wordEnd
  else if name = "start-half".toList then some .wordStartHalf
  else if name = "end-half".toList then some .wordEndHalf
  else none

/-- Can the character be part of the name of a boundary? -/
def isBoundaryNameChar (char : Char) : Bool :=
  char.isAlpha || char = '-'

/-- What follows `\b`: the name of a boundary in braces, unless the brace opens a repetition. -/
def readBoundary (verbose : Bool) (text : List Char) : Option (Anchor × List Char) :=
  match text with
  | '{' :: rest =>
    let inner := skip verbose rest
    match inner with
    | [] => none
    | first :: _ =>
      if isBoundaryNameChar first then
        match takeSpaced verbose isBoundaryNameChar inner with
        | (name, '}' :: left) => (namedBoundary? name).map fun anchor => (anchor, left)
        | _ => none
      else some (.wordBoundary, text)
  | _ => some (.wordBoundary, text)

/-! ## All escapes -/

/-- Can the character be escaped to stand for itself?  Every ASCII character can that is neither a
letter nor a digit nor an angle bracket. -/
def isEscapable (char : Char) : Bool :=
  char.toNat < 0x80 && !char.isAlphanum && char ≠ '<' && char ≠ '>'

/-- The character that a letter after a backslash stands for. -/
def escapedChar? : Char → Option Char
  | 'a' => some '\x07'
  | 'f' => some '\x0C'
  | 't' => some '\t'
  | 'n' => some '\n'
  | 'r' => some '\r'
  | 'v' => some '\x0B'
  | _ => none

/-- The class that a letter after a backslash stands for; a capital negates it. -/
def escapedClass? : Char → Option (Shorthand × Bool)
  | 'd' => some (.digit, false)
  | 's' => some (.space, false)
  | 'w' => some (.word, false)
  | 'D' => some (.digit, true)
  | 'S' => some (.space, true)
  | 'W' => some (.word, true)
  | _ => none

/-- The place that a character after a backslash stands for, where nothing more can follow. -/
def escapedAnchor? : Char → Option Anchor
  | 'A' => some .textStart
  | 'z' => some .textEnd
  | 'B' => some .notWordBoundary
  | '<' => some .wordStart
  | '>' => some .wordEnd
  | _ => none

/-- The number of digits of a character that is given by its number. -/
def numberWidth? : Char → Option Nat
  | 'x' => some 2
  | 'u' => some 4
  | 'U' => some 8
  | _ => none

/-- What follows a backslash. -/
def readEscape (verbose : Bool) : List Char → Option (Primitive × List Char)
  | [] => none
  | char :: rest =>
    if let some width := numberWidth? char then
      (readNumbered verbose width rest).map fun (literal, left) => (.literal literal, left)
    else if char = 'p' || char = 'P' then
      (readProperty verbose rest).map fun ((query, negated), left) =>
        (.property query (xor (char = 'P') negated), left)
    else if char = 'b' then
      (readBoundary verbose rest).map fun (anchor, left) => (.anchor anchor, left)
    else if let some (kind, negated) := escapedClass? char then
      some (.shorthand kind negated, rest)
    else if let some anchor := escapedAnchor? char then
      some (.anchor anchor, rest)
    else if let some escaped := escapedChar? char then
      some (.ofChar escaped, rest)
    else if isEscapable char then some (.ofChar char, rest)
    else none

end PathRouting.Regex
