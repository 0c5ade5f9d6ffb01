import PathRouting.Regex.Escape
set_option autoImplicit false

/-!
# Reading bracketed classes

A class in brackets holds characters, ranges, escapes, named ASCII classes and further classes in
brackets, side by side, with `&&`, `--` and `~~` between groups of them.  The operators have one
precedence and group to the left.
-/

namespace PathRouting.Regex

open Text (after? cut)
open Unicode (CodeSet)

/-! ## Named ASCII classes -/

/-- The classes that are written as `[:name:]`. -/
def asciiClasses : List (String × CodeSet) := [
  ("alnum", .ofText ["30-39 41-5A 61-7A"]),
  ("alpha", .ofText ["41-5A 61-7A"]),
  ("ascii", .ofText ["0-7F"]),
  ("blank", .ofText ["9 20"]),
  ("cntrl", .ofText ["0-1F 7F"]),
  ("digit", .ofText ["30-39"]),
  ("graph", .ofText ["21-7E"]),
  ("lower", .ofText ["61-7A"]),
  ("print", .ofText ["20-7E"]),
  ("punct", .ofText ["21-2F 3A-40 5B-60 7B-7E"]),
  ("space", .ofText ["9-D 20"]),
  ("upper", .ofText ["41-5A"]),
  ("word", .ofText ["30-39 41-5A 5F 61-7A"]),
  ("xdigit", .ofText ["30-39 41-46 61-66"])]

/-- What follows the opening bracket of a named class, if the text is one.  Any other text after the
bracket makes a class in brackets instead. -/
def readAsciiClass? (text : List Char) : Option (ClassSet × List Char) :=
  match text with
  | ':' :: rest =>
    let (negated, rest) :=
      match rest with
      | '^' :: more => (true, more)
      | more => (false, more)
    let name := rest.takeWhile (· ≠ ':')
    match after? [':', ']'] (rest.dropWhile (· ≠ ':')) with
    | some left =>
      (asciiClasses.lookup (String.ofList name)).map fun members => (.ascii members negated, left)
    | none => none
  | _ => none

/-! ## Items and ranges -/

/-- One character or escape. -/
def readClassPrimitive (verbose : Bool) : List Char → Option (Primitive × List Char)
  | [] => none
  | '\\' :: rest => readEscape verbose rest
  | char :: rest => some (.ofChar char, rest)

/-- A primitive as an item of a class; a place in the text is none. -/
def Primitive.item? : Primitive → Option ClassSet
  | .literal char => some (.literal char)
  | .property query negated => some (.property query negated)
  | .shorthand kind negated => some (.shorthand kind negated)
  | .anchor _ => none

/-- A primitive as an end of a range. -/
def Primitive.literal? : Primitive → Option Literal
  | .literal char => some char
  | .property _ _ => none
  | .shorthand _ _ => none
  | .anchor _ => none

/-- The range between two primitives, which must be characters in ascending order. -/
def rangeBetween? (first last : Primitive) : Option ClassSet :=
  match first.literal?, last.literal? with
  | some a, some b => if a.char ≤ b.char then some (.range a b) else none
  | _, _ => none

/-- An item, or a range when a hyphen follows that does not end the class and does not start an
operator. -/
def readClassItem (verbose : Bool) (text : List Char) : Option (ClassSet × List Char) :=
  (readClassPrimitive verbose text).bind fun (first, afterFirst) =>
    match skip verbose afterFirst with
    | [] => none
    | '-' :: rest =>
      let next := peekSpaced verbose rest
      if next = some ']' || next = some '-' then
        first.item?.map fun item => (item, '-' :: rest)
      else
        (readClassPrimitive verbose (skip verbose rest)).bind fun (last, left) =>
          (rangeBetween? first last).map fun item => (item, left)
    | left => first.item?.map fun item => (item, left)

/-! ## Nested classes -/

/-- A class whose closing bracket has not been read. -/
structure OpenClass where
  negated : Bool
  /-- the left side of the last operator, if there was one -/
  pending : Option (ClassSet × ClassOp)
  /-- the items since then, newest first -/
  items : List ClassSet

namespace OpenClass

/-- Adds an item. -/
def push (current : OpenClass) (item : ClassSet) : OpenClass :=
  { current with items := item :: current.items }

/-- All that was read, as one set. -/
def content (current : OpenClass) : ClassSet :=
  let items := ClassSet.ofItems current.items.reverse
  match current.pending with
  | none => items
  | some (left, op) => .binary op left items

/-- Starts the right side of an operator. -/
def operate (current : OpenClass) (op : ClassOp) : OpenClass :=
  { current with pending := some (current.content, op), items := [] }

end OpenClass

/-- Hyphens at the start of a class stand for themselves. -/
def takeHyphens (verbose : Bool) : List Char → List ClassSet × List Char
  | '-' :: rest =>
    let (items, left) := takeHyphens verbose (skip verbose rest)
    (.literal ⟨'-', false⟩ :: items, left)
  | text => ([], text)
termination_by text => text.length
decreasing_by
  have := length_skip_le verbose rest
  simp only [List.length_cons]
  omega

/-- What follows an opening bracket: a negation, then hyphens, or else a closing bracket, that stand
for themselves. -/
def openClass (verbose : Bool) (text : List Char) : OpenClass × List Char :=
  let (negated, text) :=
    match skip verbose text with
    | '^' :: rest => (true, skip verbose rest)
    | other => (false, other)
  match takeHyphens verbose text with
  | ([], ']' :: rest) => (⟨negated, none, [.literal ⟨']', false⟩]⟩, skip verbose rest)
  | (hyphens, left) => (⟨negated, none, hyphens⟩, left)

/-- Reads on in nested classes, innermost first, up to the bracket that closes the outermost.  Each
round reads a character, so the length of the text bounds the rounds. -/
def readClassBody (verbose : Bool) :
    Nat → OpenClass → List OpenClass → List Char → Option ((Bool × ClassSet) × List Char)
  | 0, _, _, _ => none
  | rounds + 1, current, outer, text =>
    match skip verbose text with
    | [] => none
    | '[' :: rest =>
      match readAsciiClass? rest with
      | some (item, left) => readClassBody verbose rounds (current.push item) outer left
      | none =>
        let (fresh, left) := openClass verbose rest
        readClassBody verbose rounds fresh (current :: outer) left
    | ']' :: rest =>
      match outer with
      | [] => some ((current.negated, current.content), rest)
      | parent :: others =>
        readClassBody verbose rounds (parent.push (.bracketed current.negated current.content))
          others rest
    | '&' :: '&' :: rest => readClassBody verbose rounds (current.operate .intersection) outer rest
    | '-' :: '-' :: rest => readClassBody verbose rounds (current.operate .difference) outer rest
    | '~' :: '~' :: rest =>
      readClassBody verbose rounds (current.operate .symmetricDifference) outer rest
    | other =>
      match readClassItem verbose other with
      | none => none
      | some (item, left) => readClassBody verbose rounds (current.push item) outer left

/-- What follows the opening bracket of a class, up to the closing one. -/
def readClass (verbose : Bool) (text : List Char) : Option ((Bool × ClassSet) × List Char) :=
  let (fresh, left) := openClass verbose text
  readClassBody verbose (text.length + 1) fresh [] left

end PathRouting.Regex
