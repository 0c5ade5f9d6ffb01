import PathRouting.Text.Pieces
set_option autoImplicit false

/-!
# Route patterns and request paths

Both are texts made of segments between slashes.  A route pattern is strict: it is `/`, or every
segment is written after one slash and none is empty.  A request path is lenient: slashes at either
end do not count, and empty segments inside it are kept.
-/

namespace PathRouting

/-- Why a text is not a route pattern.  The first fault in this order is the one reported. -/
inductive PatternFault where
  /-- the text is empty -/
  | empty
  /-- the text does not start with a slash -/
  | missingLeadingSlash
  /-- the text ends with a slash and is not the root pattern -/
  | trailingSlash
  /-- two slashes follow each other -/
  | emptySegment
  deriving DecidableEq, Repr, Inhabited

/-- The wording of a pattern fault. -/
def PatternFault.message : PatternFault → String
  | .empty => "pattern is empty"
  | .missingLeadingSlash => "pattern must start with '/'"
  | .trailingSlash => "pattern must not end with '/'"
  | .emptySegment => "pattern must not contain empty segments ('//')"

namespace Path

open Text (pieces)

/-! ## Splitting at slashes -/

/-- Do two slashes follow each other somewhere? -/
def hasEmptySegment : List Char → Bool
  | [] => false
  | char :: rest => (char = '/' && rest.head? = some '/') || hasEmptySegment rest

/-- A text without the slashes at its two ends. -/
def trimSlashes (text : List Char) : List Char :=
  ((text.dropWhile (· = '/')).reverse.dropWhile (· = '/')).reverse

/-! ## Route patterns -/

/-- The pattern that a list of segments is written as: `/` for the root, and otherwise every segment
after a slash. -/
def render : List String → String
  | [] => "/"
  | segment :: rest => String.join ((segment :: rest).map fun text => "/" ++ text)

/-- The fault of a pattern, if it has one. -/
def patternFault? (pattern : List Char) : Option PatternFault :=
  if pattern = [] then some .empty
  else if pattern.head? ≠ some '/' then some .missingLeadingSlash
  else if pattern ≠ ['/'] ∧ pattern.getLast? = some '/' then some .trailingSlash
  else if hasEmptySegment pattern then some .emptySegment
  else none

/-- The segments of a route pattern.  The root pattern `/` has none. -/
def patternSegments (pattern : String) : Except PatternFault (List String) :=
  match patternFault? pattern.toList with
  | some fault => .error fault
  | none =>
    if pattern.toList = ['/'] then .ok []
    else .ok ((pieces '/' pattern.toList.tail).map String.ofList)

/-! ## Request paths -/

/-- The segments of a request path.  A path of slashes alone has none, so it addresses the root. -/
def requestSegments (path : String) : List String :=
  let trimmed := trimSlashes path.toList
  if trimmed = [] then [] else (pieces '/' trimmed).map String.ofList

end Path

end PathRouting
