import PathRouting.Config
import PathRouting.Node.Basic
set_option autoImplicit false

/-!
# Search in a tree

A search follows the segments of a path downwards.  At every node the children that take the next
segment are tried from the most specific to the least: the literal, the expressions in the order of
their registration, the parameter, the wildcard.  A child that leads nowhere hands over to the next
one.  The place of a child decides what else happens: a capturing child takes its capture back when
it leads nowhere, and a child in the place of the wildcard may then absorb what is left of the path.
-/

namespace PathRouting

/-- Captured texts, by parameter name. -/
abbrev Captures := Table String

namespace Captures

/-- Gives a name back the binding it had. -/
def restore (captures : Captures) (name : String) : Option String → Captures
  | some text => captures.insert name text
  | none => captures.erase name

end Captures

namespace Node

variable {E H : Type}

/-- Where a search ended, if anywhere, and the captures it left. -/
abbrev Outcome (E H : Type) := Option (Node E H) × Captures

/-- Goes on with the captures of a search that led nowhere. -/
def Outcome.orElse (first : Outcome E H) (next : Captures → Outcome E H) : Outcome E H :=
  match first with
  | (some node, captures) => (some node, captures)
  | (none, captures) => next captures

/-- The capturing children that take a segment, most specific first. -/
def capturingChildren [Constraint E] (node : Node E H) (text : String) : List (Node E H) :=
  node.regexChildren.filter (·.kind.accepts text) ++ node.paramChild?.toList

/-- Tries one choice after the other. -/
def firstOf {α : Type} (attempt : α → Captures → Outcome E H) :
    List α → Captures → Outcome E H
  | [], captures => (none, captures)
  | choice :: rest, captures => (attempt choice captures).orElse (firstOf attempt rest)

/-- Searches with the segment captured under the child's name, and undoes the capture when the
search led nowhere. -/
def capturing (child : Node E H) (text : String) (below : Captures → Outcome E H)
    (captures : Captures) : Outcome E H :=
  match child.kind.paramName? with
  | none => below captures
  | some name =>
    (below (captures.insert name text)).orElse fun after =>
      (none, after.restore name (captures.get? name))

/-- Can a child in the place of the wildcard take the rest of a path? -/
def mayAbsorb (mode : WildcardMode) (child : Node E H) : Bool :=
  mode = .absorb && child.handler.isSome

/-- Searches below a child, which takes the rest of the path itself, if it may, when the search led
nowhere. -/
def absorbing (mode : WildcardMode) (child : Node E H) (below : Captures → Outcome E H)
    (captures : Captures) : Outcome E H :=
  (below captures).orElse fun after => (if child.mayAbsorb mode then some child else none, after)

/-- Finds the node that the segments lead to from a node.  The node need not have a handler. -/
def search [Constraint E] (mode : WildcardMode) :
    List String → Node E H → Captures → Outcome E H
  | [], node, captures => (some node, captures)
  | text :: rest, node, captures =>
    ((firstOf (fun child => search mode rest child) (node.staticChild? text).toList captures).orElse
      (firstOf (fun child => capturing child text (search mode rest child))
        (node.capturingChildren text))).orElse
      (firstOf (fun child => absorbing mode child (search mode rest child))
        node.wildcardChild?.toList)

end Node

end PathRouting
