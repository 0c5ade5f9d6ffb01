set_option autoImplicit false

/-!
# Segments of a route pattern

The text of one segment says what it accepts: itself, any text under a name, any text that satisfies
an expression, or anything at all.  Every text is a segment of exactly one of these kinds, and
`Segment.text` writes the segment back.
-/

namespace PathRouting

/-- What one segment of a route pattern stands for. -/
inductive Segment where
  /-- exactly this text -/
  | literal (text : String)
  /-- `:name`, any text, captured under the name -/
  | param (name : String)
  /-- `:name(source)`, a text that satisfies the expression, captured under the name -/
  | regex (name source : String)
  /-- `*`, any text, captured under no name -/
  | wildcard
  deriving DecidableEq, Repr, Inhabited

namespace Segment

/-- What follows the colon: `name(source)` when there is an opening parenthesis and the text ends
with a closing one, and else a bare name.  The first opening parenthesis ends the name, so the
expression may hold parentheses of its own. -/
def ofCapture (rest : List Char) : Segment :=
  match rest.dropWhile (· ≠ '(') with
  | [] => .param (String.ofList rest)
  | _ :: tail =>
    if tail.getLast? = some ')' then
      .regex (String.ofList (rest.takeWhile (· ≠ '('))) (String.ofList tail.dropLast)
    else .param (String.ofList rest)

/-- Reads a segment.  A star is a wildcard only as the whole segment. -/
def ofText (text : String) : Segment :=
  match text.toList with
  | ['*'] => .wildcard
  | ':' :: rest => ofCapture rest
  | _ => .literal text

/-- Writes a segment. -/
def text : Segment → String
  | literal text => text
  | param name => ":" ++ name
  | regex name source => ":" ++ name ++ "(" ++ source ++ ")"
  | wildcard => "*"

/-- The name under which the segment captures, if it does. -/
def paramName? : Segment → Option String
  | param name => some name
  | regex name _ => some name
  | literal _ => none
  | wildcard => none

end Segment

end PathRouting
