import PathRouting.Text.Pieces
import PathRouting.Toml.Moment
import PathRouting.Toml.Number
import PathRouting.Toml.Quoted
import PathRouting.Toml.Value
set_option autoImplicit false

/-!
# Reading values and lines

Readers take the text from where they start and give what they read with the text behind it, or
nothing when it is malformed.
-/

namespace PathRouting.Toml

open Text (after?)

/-! ## Keys -/

/-- How many parts a key may have, and how deep arrays and tables in braces may be nested. -/
def nestingLimit : Nat := 79

/-- A character of a key without quotes. -/
def isKeyChar (char : Char) : Bool :=
  char.isAlphanum || char = '_' || char = '-'

/-- One part of a key. -/
def readKeyPart (text : List Char) : Option (String × List Char) :=
  match text with
  | '"' :: rest => (readBasic rest).map fun (key, left) => (String.ofList key, left)
  | '\'' :: rest => (readLiteral rest).map fun (key, left) => (String.ofList key, left)
  | _ =>
    let key := text.takeWhile isKeyChar
    if key = [] then none else some (String.ofList key, text.dropWhile isKeyChar)

/-- The parts of a key, at most so many, with dots between them and blanks around them. -/
def readKeyParts : Nat → List Char → Option (List String × List Char)
  | 0, _ => none
  | count + 1, text =>
    (readKeyPart (dropBlanks text)).bind fun (part, left) =>
      match dropBlanks left with
      | '.' :: rest => (readKeyParts count rest).map fun (parts, left) => (part :: parts, left)
      | left => some ([part], left)

/-- A key with its path: the parts before the last, and the last. -/
structure Key where
  path : List String
  name : String
  deriving DecidableEq, Repr, Inhabited

/-- A key. -/
def readKey (text : List Char) : Option (Key × List Char) :=
  (readKeyParts nestingLimit text).bind fun (parts, left) =>
    parts.getLast?.map fun name => (⟨parts.dropLast, name⟩, left)

/-! ## Values -/

/-- A value that holds no other values. -/
def readScalar (text : List Char) : Option (Value × List Char) :=
  match text with
  | [] => none
  | char :: _ =>
    if char = '"' || char = '\'' then
      (readString text).map fun (chars, left) => (.string (String.ofList chars), left)
    else if let some left := after? "true".toList text then some (.boolean true, left)
    else if let some left := after? "false".toList text then some (.boolean false, left)
    else if let some (moment, left) := readMoment text then
      some (.datetime (String.ofList moment), left)
    else if let some (number, left) := readFloat text then
      some (.float (String.ofList number), left)
    else (readInteger text).map fun (number, left) => (.integer number, left)

/-- What follows the opening bracket of an array.  Each round reads an item, so the length of the
text bounds the rounds. -/
def readItems (readItem : List Char → Option (Value × List Char)) :
    Nat → List Char → Option (List Value × List Char)
  | 0, _ => none
  | rounds + 1, text =>
    match dropFiller false text with
    | ']' :: left => some ([], left)
    | start =>
      (readItem start).bind fun (item, afterItem) =>
        match dropFiller false afterItem with
        | ']' :: left => some ([item], left)
        | ',' :: rest =>
          (readItems readItem rounds rest).map fun (items, left) => (item :: items, left)
        | _ => none

/-- A key and its value. -/
def readPair (readItem : List Char → Option (Value × List Char)) (text : List Char) :
    Option ((Key × Value) × List Char) :=
  (readKey text).bind fun (key, afterKey) =>
    match afterKey with
    | '=' :: rest => (readItem (dropBlanks rest)).map fun (value, left) => ((key, value), left)
    | _ => none

/-- What follows the opening brace of a table, or a comma in it, given the entries so far.  Each
round reads a pair, so the length of the text bounds the rounds. -/
def readPairs (readItem : List Char → Option (Value × List Char)) :
    Nat → Entries → List Char → Option (Entries × List Char)
  | 0, _, _ => none
  | rounds + 1, entries, text =>
    (readPair readItem text).bind fun ((key, value), afterPair) =>
      (Entries.define key.path key.name value .header entries).bind fun entries =>
        match dropBlanks afterPair with
        | '\x7d' :: left => some (entries, left)
        | ',' :: rest => readPairs readItem rounds entries rest
        | _ => none

/-- A value, nested no deeper than the given depth. -/
def readValue : Nat → List Char → Option (Value × List Char)
  | 0, text => readScalar text
  | depth + 1, text =>
    match text with
    | '[' :: rest =>
      (readItems (readValue depth) text.length rest).map fun (items, left) => (.array items, left)
    | '\x7b' :: rest =>
      match dropBlanks rest with
      | '\x7d' :: left => some (.table .braces [], left)
      | start =>
        (readPairs (readValue depth) text.length [] start).map fun (entries, left) =>
          (.table .braces entries, left)
    | _ => readScalar text

/-! ## Lines -/

/-- What one line of a document says. -/
inductive Line where
  /-- defines the value of a key in the table at hand -/
  | pair (key : Key) (value : Value)
  /-- opens a table -/
  | table (key : Key)
  /-- adds a table to others of the same name -/
  | addedTable (key : Key)
  deriving Inhabited

/-- A header, up to the brackets that close it. -/
def readHeader (closing text : List Char) : Option (Key × List Char) :=
  (readKey text).bind fun (key, afterKey) =>
    (after? closing afterKey).map fun left => (key, left)

/-- One line, without its end. -/
def readLine (text : List Char) : Option (Line × List Char) :=
  match text with
  | '[' :: '[' :: rest =>
    (readHeader [']', ']'] rest).map fun (key, left) => (.addedTable key, left)
  | '[' :: rest => (readHeader [']'] rest).map fun (key, left) => (.table key, left)
  | _ =>
    (readPair (readValue nestingLimit) text).map fun ((key, value), left) =>
      (.pair key value, left)

/-- All lines of a text.  Each round reads a line, so the length of the text bounds the rounds. -/
def readLines : Nat → List Char → Option (List Line)
  | 0, _ => none
  | rounds + 1, text =>
    match dropFiller false text with
    | [] => some []
    | start =>
      (readLine start).bind fun (line, afterLine) =>
        (afterLine? afterLine).bind fun left =>
          (readLines rounds left).map fun lines => line :: lines

end PathRouting.Toml
