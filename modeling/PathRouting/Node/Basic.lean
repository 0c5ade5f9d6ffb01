import PathRouting.Constraint
import PathRouting.Segment
import PathRouting.Table
set_option autoImplicit false

/-!
# Nodes of a routing tree

A routing tree has one node for every leading part of a registered pattern.  Below a node stand its
literal children, kept by their text, and one slot for children that take any text.  The slot is
vacant, or holds capturing children (at most one bare parameter, and expressions in the order of
their registration), or a wildcard on its own.
-/

namespace PathRouting

/-- What a node stands for. -/
inductive NodeKind (E : Type) where
  /-- the root of a tree -/
  | root
  /-- exactly its own segment text -/
  | literal
  /-- any text, captured under the name -/
  | param (name : String)
  /-- a text that the expression compiled from `source` accepts, captured under the name -/
  | regex (name source : String) (expression : E)
  /-- any text, not captured -/
  | wildcard
  deriving Inhabited

namespace NodeKind

variable {E : Type}

/-- The name under which a node captures. -/
def paramName? : NodeKind E → Option String
  | param name => some name
  | regex name _ _ => some name
  | root => none
  | literal => none
  | wildcard => none

/-- The text of a node's expression. -/
def source? : NodeKind E → Option String
  | regex _ source _ => some source
  | root => none
  | literal => none
  | param _ => none
  | wildcard => none

/-- Does the expression accept the text?  Only expressions answer here. -/
def accepts [Constraint E] (kind : NodeKind E) (text : String) : Bool :=
  match kind with
  | regex _ _ expression => Constraint.accepts expression text
  | root => false
  | literal => false
  | param _ => false
  | wildcard => false

/-- The kind of node that a segment calls for, unless its expression does not compile. -/
def ofSegment [Constraint E] : Segment → Except String (NodeKind E)
  | .literal _ => .ok .literal
  | .param name => .ok (.param name)
  | .regex name source =>
    match Constraint.compile source with
    | .error reason => .error reason
    | .ok expression => .ok (.regex name source expression)
  | .wildcard => .ok .wildcard

end NodeKind

/-- The slot for children that take any text. -/
inductive Dynamic (N : Type) where
  /-- no such child -/
  | vacant
  /-- a bare parameter and expressions, which may stand side by side -/
  | captures (param : Option N) (regexes : List N)
  /-- a wildcard, which stands alone -/
  | wildcard (child : N)
  deriving Inhabited

/-- A node of a routing tree. -/
structure Node (E H : Type) where
  /-- what the node stands for -/
  kind : NodeKind E
  /-- the text of its segment, `/` for a root -/
  segment : String
  /-- the pattern from the root down to this node -/
  fullRoute : String
  /-- what is bound here; a node without a handler is only passed through -/
  handler : Option H
  /-- the literal children, by text -/
  statics : Table (Node E H)
  /-- the other children -/
  dynamic : Dynamic (Node E H)

namespace Node

variable {E H : Type}

/-- A node without handler and children. -/
def bare (kind : NodeKind E) (segment fullRoute : String) : Node E H where
  kind := kind
  segment := segment
  fullRoute := fullRoute
  handler := none
  statics := .empty
  dynamic := .vacant

/-- The root of an empty tree. -/
def root : Node E H := bare .root "/" "/"

instance : Inhabited (Node E H) := ⟨root⟩

/-- A segment whose expression does not compile. -/
structure BrokenSegment where
  /-- the text of the segment -/
  segment : String
  /-- what is wrong with its expression -/
  reason : String
  deriving DecidableEq, Repr, Inhabited

/-- Bare nodes for the segments of a pattern that goes on below `above`, or the leftmost segment
whose expression does not compile. -/
def chain [Constraint E] (above : String) : List String → Except BrokenSegment (List (Node E H))
  | [] => .ok []
  | segment :: rest =>
    match NodeKind.ofSegment (Segment.ofText segment) with
    | .error reason => .error { segment := segment, reason := reason }
    | .ok kind =>
      let fullRoute := above ++ "/" ++ segment
      match chain fullRoute rest with
      | .error bad => .error bad
      | .ok nodes => .ok (bare kind segment fullRoute :: nodes)

/-! ## Children -/

/-- The literal child with the given text. -/
def staticChild? (node : Node E H) (text : String) : Option (Node E H) :=
  node.statics.get? text

/-- The bare parameter below a node. -/
def paramChild? (node : Node E H) : Option (Node E H) :=
  match node.dynamic with
  | .captures param _ => param
  | .vacant => none
  | .wildcard _ => none

/-- The expressions below a node, in the order of their registration. -/
def regexChildren (node : Node E H) : List (Node E H) :=
  match node.dynamic with
  | .captures _ regexes => regexes
  | .vacant => []
  | .wildcard _ => []

/-- The wildcard below a node. -/
def wildcardChild? (node : Node E H) : Option (Node E H) :=
  match node.dynamic with
  | .wildcard child => some child
  | .vacant => none
  | .captures _ _ => none

/-- All direct children: literals by text, then expressions, the parameter and the wildcard. -/
def children (node : Node E H) : List (Node E H) :=
  node.statics.values ++ node.regexChildren ++ node.paramChild?.toList
    ++ node.wildcardChild?.toList

end Node

/-! ## Walking down by position -/

/-- A step from a node to one of its children. -/
inductive Descent where
  /-- to the literal child with this text -/
  | literal (text : String)
  /-- to the parameter -/
  | param
  /-- to the expression at this place in registration order -/
  | regex (index : Nat)
  /-- to the wildcard -/
  | wildcard
  deriving DecidableEq, Repr, Inhabited

namespace Node

variable {E H : Type}

/-- The child that one step leads to. -/
def child? (node : Node E H) : Descent → Option (Node E H)
  | .literal text => node.staticChild? text
  | .param => node.paramChild?
  | .regex index => node.regexChildren[index]?
  | .wildcard => node.wildcardChild?

/-- The node that a walk leads to. -/
def walk? (node : Node E H) : List Descent → Option (Node E H)
  | [] => some node
  | step :: rest =>
    match node.child? step with
    | none => none
    | some child => child.walk? rest

end Node

end PathRouting
