import PathRouting.Node.Basic
set_option autoImplicit false

/-!
# Registration in a tree

A registration walks down from the root along the nodes of its pattern, goes on through the children
that are already there, adds the ones that are missing, and binds the handler at the end.  Two
things can stand in the way: a sibling that the next segment cannot share its place with, and a
handler at the end of the walk.  Only nodes that were there before can be in the way, and the walk
meets all of them before it adds its first node; so a registration that fails gives back the tree it
was given.
-/

namespace PathRouting

/-- What stands in the way of a registration. -/
inductive Obstacle where
  /-- the segment `incoming` cannot share its place with `existing` -/
  | sibling (existing incoming : String)
  /-- the node has a handler already -/
  | occupied
  deriving DecidableEq, Repr, Inhabited

namespace Node

variable {E H : Type}

/-- Is this an expression with the given text? -/
def hasSource (source : String) (node : Node E H) : Bool :=
  node.kind.source? = some source

/-- The segment that is named when a wildcard meets capturing children: the parameter if there is
one, and else the expression registered first. -/
def occupant (param : Option (Node E H)) (regexes : List (Node E H)) : String :=
  match param with
  | some existing => existing.segment
  | none => (regexes.head?.map (·.segment)).getD ""

/-- The child that a bare node stands for: the one in its place, or the bare node itself where the
place is free.  The error is the segment of the sibling in the way. -/
def locate (node bareChild : Node E H) : Except String (Node E H) :=
  let sameSegment (existing : Node E H) : Except String (Node E H) :=
    if existing.segment = bareChild.segment then .ok existing else .error existing.segment
  match bareChild.kind, node.dynamic with
  | .root, _ => .ok ((node.statics.get? bareChild.segment).getD bareChild)
  | .literal, _ => .ok ((node.statics.get? bareChild.segment).getD bareChild)
  | .param _, .vacant => .ok bareChild
  | .param _, .captures none _ => .ok bareChild
  | .param _, .captures (some existing) _ => sameSegment existing
  | .param _, .wildcard existing => .error existing.segment
  | .regex _ _ _, .vacant => .ok bareChild
  | .regex _ source _, .captures _ regexes =>
    match regexes.find? (hasSource source) with
    | none => .ok bareChild
    | some existing => sameSegment existing
  | .regex _ _ _, .wildcard existing => .error existing.segment
  | .wildcard, .vacant => .ok bareChild
  | .wildcard, .captures param regexes => .error (occupant param regexes)
  | .wildcard, .wildcard existing => .ok existing

/-- An expression takes the place of the one with the same text, or comes last. -/
def placeRegex (source : String) (child : Node E H) : List (Node E H) → List (Node E H)
  | [] => [child]
  | other :: rest =>
    if other.hasSource source then child :: rest else other :: placeRegex source child rest

/-- Puts a child into the place that its kind calls for. -/
def attach (node child : Node E H) : Node E H :=
  match child.kind with
  | .root => { node with statics := node.statics.insert child.segment child }
  | .literal => { node with statics := node.statics.insert child.segment child }
  | .param _ => { node with dynamic := .captures (some child) node.regexChildren }
  | .regex _ source _ =>
    { node with dynamic := .captures node.paramChild? (placeRegex source child node.regexChildren) }
  | .wildcard => { node with dynamic := .wildcard child }

/-- Binds a handler at the end of a walk along bare nodes.  Each child is put back after the walk
has gone through it, whether or not the walk succeeded. -/
def insert (handler : H) : List (Node E H) → Node E H → Node E H × Except Obstacle Unit
  | [], node =>
    match node.handler with
    | some _ => (node, .error .occupied)
    | none => ({ node with handler := some handler }, .ok ())
  | bareChild :: rest, node =>
    match node.locate bareChild with
    | .error existing => (node, .error (.sibling existing bareChild.segment))
    | .ok child =>
      let (child, outcome) := insert handler rest child
      (node.attach child, outcome)

end Node

end PathRouting
