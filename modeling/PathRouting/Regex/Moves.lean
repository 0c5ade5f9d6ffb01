import PathRouting.Regex.Expr
set_option autoImplicit false

/-!
# Running expressions

On a given text an expression takes positions to positions: a match that starts at one position ends
at another.  Sets of positions are numbers whose bits say which positions are members, so one step
of an expression moves all positions at once.  An expression matches somewhere in the text when it
takes the set of all positions to a set that is not empty.
-/

namespace PathRouting.Regex

open Unicode (CodeSet)

/-- A set of positions of a text: the position before the character with index `i` is a member when
bit `i` is set. -/
abbrev Positions := Nat

/-- What an expression does to the positions of one text. -/
inductive Moves where
  /-- stays at the positions given, and leads nowhere from others -/
  | stay (places : Positions)
  /-- steps over one character from the positions given, and leads nowhere from others -/
  | advance (places : Positions)
  | andThen (first second : Moves)
  | orElse (first second : Moves)
  /-- exactly `least` rounds and at most `more` further ones -/
  | rounds (body : Moves) (least more : Nat)
  deriving DecidableEq, Repr, Inhabited

/-! ## Rounds -/

/-- The set after exactly so many rounds.  A set that a round does not change stays as it is. -/
def afterRounds (round : Positions → Positions) : Nat → Positions → Positions
  | 0, positions => positions
  | count + 1, positions =>
    let next := round positions
    if next = positions then positions else afterRounds round count next

/-- The positions reached after at most so many rounds, given the ones reached so far and the newest
among them. -/
def withinRounds (round : Positions → Positions) : Nat → Positions → Positions → Positions
  | 0, reached, _ => reached
  | count + 1, reached, newest =>
    let all := reached ||| round newest
    if all = reached then reached else withinRounds round count all (all ^^^ reached)

/-- A part repeated without a bound, where so many rounds are enough for any text.  A loop around a
loop that may run once is one loop. -/
def Moves.loop (enough : Nat) (body : Moves) (least : Nat) : Moves :=
  match body with
  | .rounds inner innerLeast more =>
    if least ≤ 1 ∧ innerLeast ≤ 1 ∧ 1 ≤ innerLeast + more then
      .rounds inner (least * innerLeast) enough
    else .rounds body least enough
  | _ => .rounds body least enough

/-- Where moves lead from a set of positions. -/
def Moves.run : Moves → Positions → Positions
  | .stay places, positions => positions &&& places
  | .advance places, positions => (positions &&& places) <<< 1
  | .andThen first second, positions => second.run (first.run positions)
  | .orElse first second, positions => first.run positions ||| second.run positions
  | .rounds body least more, positions =>
    let reached := afterRounds body.run least positions
    withinRounds body.run more reached reached

/-! ## Positions of a text -/

/-- The set of the positions at which a list of truth values is true. -/
def positionsOf : List Bool → Positions
  | [] => 0
  | here :: rest => 2 * positionsOf rest + here.toNat

/-- The positions of a text, each with the character before it and the one after it. -/
def surroundings : Option Char → List Char → List (Option Char × Option Char)
  | before, [] => [(before, none)]
  | before, char :: rest => (before, some char) :: surroundings (some char) rest

/-- Is there a character of the set? -/
def isLetter (letters : CodeSet) (char? : Option Char) : Bool :=
  char?.any letters.hasChar

/-- Does a place between two words' letters stand in the relation? -/
def WordLook.holds (look : WordLook) (before after : Bool) : Bool :=
  match look with
  | .boundary => before != after
  | .notBoundary => before == after
  | .start => !before && after
  | .finish => before && !after
  | .startHalf => !before
  | .endHalf => !after

/-- Does a place meet a condition, given the characters around it?  Where lines may end with a
carriage return, no line starts or ends between a carriage return and a newline. -/
def Look.holds (look : Look) (before after : Option Char) : Bool :=
  match look with
  | .textStart => before = none
  | .textEnd => after = none
  | .lineStart false => before = none || before = some '\n'
  | .lineEnd false => after = none || after = some '\n'
  | .lineStart true =>
    before = none || before = some '\n' || (before = some '\r' && after ≠ some '\n')
  | .lineEnd true =>
    after = none || after = some '\r' || (after = some '\n' && before ≠ some '\r')
  | .word look letters => look.holds (isLetter letters before) (isLetter letters after)

/-! ## Expressions on a text -/

/-- Adds a set to the ones collected so far. -/
def collectSet (found : List CodeSet) (set : CodeSet) : List CodeSet :=
  if found.contains set then found else set :: found

mutual

/-- Adds the sets of characters that occur in an expression to the ones collected so far. -/
def Expr.collectSets : Expr → List CodeSet → List CodeSet
  | .empty, found => found
  | .look _, found => found
  | .literal text, found => (text.map CodeSet.singleton).foldl collectSet found
  | .chars set _, found => collectSet found set
  | .repetition body _ _ _, found => body.collectSets found
  | .capture body, found => body.collectSets found
  | .concat items, found => Expr.collectSetsOfAll items found
  | .alternation branches, found => Expr.collectSetsOfAll branches found

/-- Adds the sets of characters that occur in any of the expressions. -/
def Expr.collectSetsOfAll : List Expr → List CodeSet → List CodeSet
  | [], found => found
  | item :: rest, found => Expr.collectSetsOfAll rest (item.collectSets found)

end

/-- Where the characters of each set stand in a text. -/
abbrev Occurrences := List (CodeSet × Positions)

/-- Where the characters of each of some sets stand in a text. -/
def occurrences (text : List Char) (sets : List CodeSet) : Occurrences :=
  sets.map fun set => (set, positionsOf (text.map set.hasChar))

/-- All positions of a text. -/
def allPositions (text : List Char) : Positions := Nat.pow 2 (text.length + 1) - 1

/-- Steps over one character of a set. -/
def Occurrences.advance (occurring : Occurrences) (set : CodeSet) : Moves :=
  .advance ((occurring.lookup set).getD 0)

/-- Moves after each other; the last of them is given apart. -/
def Moves.chain (moves : List Moves) (last : Moves) : Moves :=
  moves.foldr .andThen last

mutual

/-- What an expression does to the positions of a text, given where the characters of its sets
stand. -/
def Expr.moves (text : List Char) (occurring : Occurrences) : Expr → Moves
  | .empty => .stay (allPositions text)
  | .literal sought =>
    Moves.chain (sought.map fun char => occurring.advance (.singleton char))
      (.stay (allPositions text))
  | .chars set _ => occurring.advance set
  | .look condition =>
    .stay (positionsOf ((surroundings none text).map fun (before, after) =>
      condition.holds before after))
  | .repetition body least none _ => (body.moves text occurring).loop (text.length + 1) least
  | .repetition body least (some most) _ =>
    .rounds (body.moves text occurring) least (most - least)
  | .capture body => body.moves text occurring
  | .concat items => Expr.movesOfItems text occurring items
  | .alternation branches => Expr.movesOfBranches text occurring branches

/-- What expressions after each other do. -/
def Expr.movesOfItems (text : List Char) (occurring : Occurrences) : List Expr → Moves
  | [] => .stay (allPositions text)
  | [only] => only.moves text occurring
  | item :: rest => .andThen (item.moves text occurring) (Expr.movesOfItems text occurring rest)

/-- What a choice between expressions does. -/
def Expr.movesOfBranches (text : List Char) (occurring : Occurrences) : List Expr → Moves
  | [] => .stay 0
  | [only] => only.moves text occurring
  | branch :: rest =>
    .orElse (branch.moves text occurring) (Expr.movesOfBranches text occurring rest)

end

/-- Does the expression match somewhere in the text? -/
def Expr.matchesIn (expr : Expr) (text : String) : Bool :=
  let chars := text.toList
  let moves := expr.moves chars (occurrences chars (expr.collectSets []))
  moves.run (allPositions chars) ≠ 0

end PathRouting.Regex
