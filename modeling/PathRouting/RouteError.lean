import PathRouting.Path
set_option autoImplicit false

/-!
# Registration errors

Every way in which a registration can be refused, with the wording shown to the caller.  Matching
has no errors: a miss is `none`.
-/

namespace PathRouting

/-- Why a registration was refused. -/
inductive RouteError where
  /-- the pattern is malformed -/
  | invalidPattern (pattern : String) (fault : PatternFault)
  /-- the expression of a segment does not compile, for the reason that the compiler gives; the
  leftmost such segment is named -/
  | invalidRegex (pattern segment reason : String)
  /-- the segment `incoming` cannot stand beside the sibling `existing` -/
  | conflict (pattern existing incoming : String)
  /-- the pattern already has a handler for this method -/
  | duplicate (method pattern : String)
  deriving DecidableEq, Repr, Inhabited

namespace RouteError

/-- The pattern of the refused registration. -/
def pattern : RouteError → String
  | invalidPattern pattern _ => pattern
  | invalidRegex pattern _ _ => pattern
  | conflict pattern _ _ => pattern
  | duplicate _ pattern => pattern

/-- The wording of an error.  What the compiler of expressions has to say comes last. -/
def message : RouteError → String
  | invalidPattern pattern fault => "invalid route pattern `" ++ pattern ++ "`: " ++ fault.message
  | invalidRegex pattern segment reason =>
    "invalid regex in segment `" ++ segment ++ "` of route `" ++ pattern ++ "`: " ++ reason
  | conflict pattern existing incoming =>
    "route `" ++ pattern ++ "` conflicts: segment `" ++ incoming
      ++ "` cannot be registered alongside existing `" ++ existing ++ "`"
  | duplicate method pattern =>
    "route `" ++ pattern ++ "` is already registered for method " ++ method

end RouteError

end PathRouting
