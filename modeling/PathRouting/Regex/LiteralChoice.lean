import PathRouting.Regex.Encoding
import PathRouting.Regex.Layout
set_option autoImplicit false

/-!
# The states of a choice between literals

A choice between literals is laid out as a tree: literals share the states of what they begin with,
as long as none of them ends there.  A literal that ends inside another comes between the literals
before it and the ones after it, since the first literal that matches is the one that is found.
-/

namespace PathRouting.Regex

/-- The texts that go on from a node, in groups between the texts that end there. -/
def groupsBetween (texts : List Bytes) : List (List Bytes) :=
  match texts with
  | [] => [[]]
  | text :: rest =>
    match groupsBetween rest with
    | [] => [[text]]
    | group :: others => if text = [] then [] :: group :: others else (text :: group) :: others

/-- The groups of texts that go on from a node.  Texts that end there before any goes on count as
one. -/
def nodeGroups (texts : List Bytes) : List (List Bytes) :=
  if texts.head? = some [] then [] :: groupsBetween (texts.dropWhile List.isEmpty)
  else groupsBetween texts

/-- Lays out a node and the nodes behind it, for texts of at most so many bytes.  Each group of
texts takes one state, with a transition for each byte that they go on with, and a fork leads to
these and to the end. -/
def nodeStates : Nat → List Bytes → Layout → Layout
  | 0, _, layout => layout
  | depth + 1, texts, layout =>
    let behind := fun (layout : Layout) (group : List Bytes) (byte : UInt8) =>
      let rest := (group.filter fun text => text.head? = some byte).map List.tail
      if rest.all List.isEmpty then layout else nodeStates depth rest layout
    let ofGroup := fun (layout : Layout) (group : List Bytes) =>
      let bytes := (group.filterMap List.head?).eraseDups
      let layout := bytes.foldl (fun layout byte => behind layout group byte) layout
      match bytes with
      | [] => layout
      | [_] => layout.state 0
      | _ => layout.state (transitionSize * bytes.length)
    let groups := nodeGroups texts
    let leading := groups.filter fun group => !group.isEmpty
    (groups.foldl ofGroup layout).fork (leading.length + (groups.length - 1))

/-- Lays out a choice between texts. -/
def literalStates (texts : List Bytes) (layout : Layout) : Layout :=
  nodeStates ((texts.map List.length).foldl max 0) texts (layout.state 0)

end PathRouting.Regex
