import PathRouting.Regex.ClassReader
import PathRouting.Unicode.DerivedProperty
set_option autoImplicit false

/-!
# Reading expressions

An expression is read from left to right.  What has been read of the innermost open group is a list
of branches and the items of the last branch; every group around it waits in a frame.  `Ast.read?`
gives the expression, or nothing when the text is malformed.
-/

namespace PathRouting.Regex

open Text (after? isDigit numeral)
open Unicode (alphabetic categoriesUnion isWhiteSpace)

/-! ## Groups -/

/-- Flags up to the colon or the parenthesis that ends them.  `negated` tells whether a hyphen came
before, and `dangling` whether it came last. -/
def readFlags (changes : FlagChanges) (negated dangling : Bool) :
    List Char → Option (FlagChanges × Char × List Char)
  | [] => none
  | char :: rest =>
    if char = ':' || char = ')' then
      if dangling then none else some (changes, char, rest)
    else if char = '-' then
      if negated then none else readFlags changes true true rest
    else
      match Flag.ofChar? char with
      | none => none
      | some flag =>
        if changes.any fun change => change.1 = flag then none
        else readFlags (changes ++ [(flag, !negated)]) negated false rest

/-- Can a character start the name of a group? -/
def isNameStart (char : Char) : Bool :=
  char = '_' || alphabetic.hasChar char

/-- Can a character go on in the name of a group? -/
def isNameChar (char : Char) : Bool :=
  isNameStart char || char = '.' || char = '[' || char = ']'
    || (categoriesUnion ["Nd", "Nl", "No"]).hasChar char

/-- The name of a group, up to the angle bracket that ends it. -/
def readGroupName (text : List Char) : Option (List Char × List Char) :=
  let name := text.takeWhile (· ≠ '>')
  match text.dropWhile (· ≠ '>'), name with
  | _ :: left, first :: others =>
    if isNameStart first && others.all isNameChar then some (name, left) else none
  | _, _ => none

/-- What an opening parenthesis starts. -/
inductive Opening where
  /-- flags for the rest of the group around it -/
  | flags (changes : FlagChanges)
  /-- a group that captures, with its name if it has one -/
  | capture (name : Option (List Char))
  /-- a group that only groups, with flags -/
  | plain (changes : FlagChanges)
  deriving Inhabited

/-- What follows an opening parenthesis.  Groups that look around are not part of the language. -/
def readOpening (verbose : Bool) (text : List Char) : Option (Opening × List Char) :=
  let text := skip verbose text
  let lookaround := ["?=", "?!", "?<=", "?<!"].any fun sign => (after? sign.toList text).isSome
  let named := after? "?P<".toList text <|> after? "?<".toList text
  if lookaround then none
  else if let some rest := named then
    (readGroupName rest).map fun (name, left) => (.capture (some name), left)
  else
    match text with
    | '?' :: rest =>
      match readFlags [] false false rest with
      | none => none
      | some (changes, ends, left) =>
        if ends = ':' then some (.plain changes, left)
        else if changes = [] then none
        else some (.flags changes, left)
    | other => some (.capture none, other)

/-! ## Repetitions -/

/-- The largest count of a repetition. -/
def largestCount : Nat := Nat.pow 2 32 - 1

/-- A count, with white space around it. -/
def readCount (verbose : Bool) (text : List Char) : Option (Nat × List Char) :=
  let (digits, left) := takeSpaced verbose (isDigit 10) (text.dropWhile isWhiteSpace)
  let count := numeral 10 digits
  if digits = [] || count > largestCount then none
  else some (count, skip verbose (left.dropWhile isWhiteSpace))

/-- The bounds of a repetition after its opening brace. -/
def readBounds (verbose : Bool) (text : List Char) :
    Option ((Nat × Option Nat) × List Char) :=
  match readCount verbose (skip verbose text) with
  | none => none
  | some (least, '}' :: rest) => some ((least, some least), rest)
  | some (least, ',' :: rest) =>
    match skip verbose rest with
    | '}' :: left => some ((least, none), left)
    | other =>
      match readCount verbose other with
      | some (most, '}' :: left) => if least ≤ most then some ((least, some most), left) else none
      | _ => none
  | some _ => none

/-- Whether a repetition is greedy; a question mark after it asks for as little as possible. -/
def readGreed : List Char → Bool × List Char
  | '?' :: rest => (false, rest)
  | text => (true, text)

/-! ## Reading on -/

/-- A group whose closing parenthesis has not been read. -/
structure Frame where
  changes : FlagChanges
  captures : Bool
  /-- whether the expression was verbose before the group -/
  verbose : Bool
  /-- the finished branches around the group, newest first -/
  branches : List Ast
  /-- the items before the group, newest first -/
  items : List Ast

/-- How far an expression has been read. -/
structure Reading where
  verbose : Bool
  /-- the names of groups so far -/
  names : List (List Char)
  /-- the open groups, innermost first -/
  frames : List Frame
  /-- the finished branches of the innermost group, newest first -/
  branches : List Ast
  /-- the items of its last branch, newest first -/
  items : List Ast

namespace Reading

/-- Nothing has been read. -/
def start : Reading := ⟨false, [], [], [], []⟩

/-- Adds an item. -/
def push (reading : Reading) (item : Ast) : Reading :=
  { reading with items := item :: reading.items }

/-- What the innermost group holds. -/
def content (reading : Reading) : Ast :=
  Ast.ofBranches (Ast.ofItems reading.items.reverse :: reading.branches).reverse

/-- Whether the expression is verbose after flags were changed. -/
def verboseAfter (reading : Reading) (changes : FlagChanges) : Bool :=
  (changes.lookup .verbose).getD reading.verbose

/-- Starts a group. -/
def enter (reading : Reading) (changes : FlagChanges) (captures : Bool) : Reading :=
  { reading with
    verbose := reading.verboseAfter changes
    frames :=
      ⟨changes, captures, reading.verbose, reading.branches, reading.items⟩ :: reading.frames
    branches := []
    items := [] }

/-- An opening parenthesis.  No two groups have one name. -/
def opened (reading : Reading) : Opening → Option Reading
  | .flags changes =>
    some { reading.push (.flags changes) with verbose := reading.verboseAfter changes }
  | .plain changes => some (reading.enter changes false)
  | .capture none => some (reading.enter [] true)
  | .capture (some name) =>
    if reading.names.contains name then none
    else some { reading.enter [] true with names := name :: reading.names }

/-- A closing parenthesis. -/
def closed (reading : Reading) : Option Reading :=
  match reading.frames with
  | [] => none
  | frame :: frames =>
    some { reading with
      verbose := frame.verbose
      frames := frames
      branches := frame.branches
      items := .group frame.changes frame.captures reading.content :: frame.items }

/-- The end of a branch. -/
def branched (reading : Reading) : Reading :=
  { reading with
    branches := Ast.ofItems reading.items.reverse :: reading.branches
    items := [] }

/-- Repeats the last item, which there must be; nothing and flags cannot be repeated. The text is
what follows the bounds. -/
def repeated (reading : Reading) (least : Nat) (most : Option Nat) (text : List Char) :
    Option (Reading × List Char) :=
  let (greedy, left) := readGreed text
  match reading.items with
  | [] => none
  | .empty :: _ => none
  | .flags _ :: _ => none
  | item :: rest =>
    some ({ reading with items := .repetition least most greedy item :: rest }, left)

/-- The primitive that a backslash starts, as an item. -/
def escaped (reading : Reading) : Primitive → Reading
  | .literal char => reading.push (.literal char)
  | .anchor place => reading.push (.anchor place)
  | .property query negated => reading.push (.property query negated)
  | .shorthand kind negated => reading.push (.shorthand kind negated)

/-- Reads what one character starts. -/
def step (reading : Reading) (char : Char) (rest : List Char) : Option (Reading × List Char) :=
  match char with
  | '(' =>
    (readOpening reading.verbose rest).bind fun (opening, left) =>
      (reading.opened opening).map fun next => (next, left)
  | ')' => reading.closed.map fun next => (next, rest)
  | '|' => some (reading.branched, rest)
  | '[' =>
    (readClass reading.verbose rest).map fun ((negated, set), left) =>
      (reading.push (.bracketed negated set), left)
  | '?' => reading.repeated 0 (some 1) rest
  | '*' => reading.repeated 0 none rest
  | '+' => reading.repeated 1 none rest
  | '{' =>
    (readBounds reading.verbose rest).bind fun ((least, most), left) =>
      reading.repeated least most (skip reading.verbose left)
  | '\\' =>
    (readEscape reading.verbose rest).map fun (primitive, left) => (reading.escaped primitive, left)
  | '.' => some (reading.push .dot, rest)
  | '^' => some (reading.push (.anchor .lineStart), rest)
  | '$' => some (reading.push (.anchor .lineEnd), rest)
  | other => some (reading.push (.literal ⟨other, false⟩), rest)

/-- Reads to the end, where no group may be open.  Each round reads a character, so the length of
the text bounds the rounds. -/
def run : Nat → Reading → List Char → Option Ast
  | 0, _, _ => none
  | rounds + 1, reading, text =>
    match skip reading.verbose text with
    | [] => if reading.frames.isEmpty then some reading.content else none
    | char :: rest =>
      match reading.step char rest with
      | none => none
      | some (next, left) => run rounds next left

end Reading

/-- Reads an expression. -/
def Ast.read? (source : String) : Option Ast :=
  Reading.start.run (source.toList.length + 1) source.toList

end PathRouting.Regex
