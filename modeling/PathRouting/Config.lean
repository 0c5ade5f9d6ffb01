set_option autoImplicit false

/-!
# Matching options
-/

namespace PathRouting

/-- How a wildcard segment treats the rest of a path. -/
inductive WildcardMode where
  /-- a wildcard with a handler takes every remaining segment when nothing below it matches -/
  | absorb
  /-- a wildcard stands for exactly one segment -/
  | singleSegment
  deriving DecidableEq, Repr, Inhabited

/-- The name of a mode in configuration files and listings. -/
def WildcardMode.name : WildcardMode → String
  | .absorb => "absorb"
  | .singleSegment => "single_segment"

/-- The mode with the given name. -/
def WildcardMode.ofName? (name : String) : Option WildcardMode :=
  if name = WildcardMode.absorb.name then some .absorb
  else if name = WildcardMode.singleSegment.name then some .singleSegment
  else none

/-- The matching options of a router. -/
structure Config where
  /-- how a wildcard treats the rest of the path; it absorbs unless told otherwise -/
  wildcardMode : WildcardMode := .absorb
  deriving DecidableEq, Repr, Inhabited

end PathRouting
