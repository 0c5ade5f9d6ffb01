import PathRouting.Regex.Encoding
import PathRouting.Regex.Layout
import PathRouting.Regex.StateTable
set_option autoImplicit false

/-!
# The states of a class

A set of characters takes an automaton over the bytes of their encodings.  Read forward, it is a
tree from the first byte on whose equal subtrees are one; read backward, it is a fork with one way
for each encoding, which are one behind the first bytes that they have in common.
-/

namespace PathRouting.Regex

open Unicode (CodeSet)

/-- A layout with the states of the class that is being laid out. -/
structure Sharing where
  layout : Layout
  table : StateTable

/-- The number of a state that does this, which is laid out unless it is remembered. -/
def Sharing.state (sharing : Sharing) (behaviour : List Nat) (extra : Nat) : Nat × Sharing :=
  match sharing.table.find? behaviour with
  | some number => (number, sharing)
  | none =>
    let number := sharing.layout.states
    (number, ⟨sharing.layout.state extra, sharing.table.insert behaviour number⟩)

/-! ## Forward -/

/-- The number of states that are remembered going forward. -/
def forwardCapacity : Nat := 10000

/-- Lays out the tree of encodings of at most so many bytes and gives the number of its root.  All
encodings end in the state `target`. -/
def treeStates (target : Nat) : Nat → List (List ByteRange) → Sharing → Nat × Sharing
  | 0, _, sharing => (target, sharing)
  | depth + 1, encodings, sharing =>
    let add := fun (arrows, sharing) (group : List (List ByteRange)) =>
      let range := (group.head?.bind List.head?).getD (0, 0)
      let rest := group.map List.tail
      let (next, sharing) :=
        if rest.all List.isEmpty then (target, sharing) else treeStates target depth rest sharing
      (arrows ++ [[range.1, range.2, next]], sharing)
    let groups := encodings.splitBy fun a b => a.head? = b.head?
    let (arrows, sharing) := groups.foldl add (([] : List (List Nat)), sharing)
    sharing.state arrows.flatten (transitionSize * arrows.length)

/-- Lays out a set to be read forward. -/
def forwardStates (set : CodeSet) (layout : Layout) : Layout :=
  let start : Sharing := ⟨layout.state 0, .empty forwardCapacity⟩
  (treeStates layout.states 4 (encodings set) start).2.layout

/-! ## Backward -/

/-- The number of states that are remembered going backward. -/
def backwardCapacity : Nat := 1000

/-- Lays out one encoding from its last byte to its first, as a way of the fork. -/
def pathStates (target : Nat) (sharing : Sharing) (encoding : List ByteRange) : Sharing :=
  let step := fun (next, sharing) (range : ByteRange) =>
    Sharing.state sharing [next, range.1, range.2] 0
  let sharing := (encoding.foldl step (target, sharing)).2
  { sharing with layout := sharing.layout.branch }

/-- Lays out a set to be read backward. -/
def backwardStates (set : CodeSet) (layout : Layout) : Layout :=
  let forked := layout.fork 0
  let start : Sharing := ⟨forked.state 0, .empty backwardCapacity⟩
  ((encodings set).foldl (pathStates forked.states) start).layout

/-! ## Either way -/

/-- Lays out a set.  ASCII characters need no tree: all of them are ways of one state. -/
def classStates (backward : Bool) (set : CodeSet) (layout : Layout) : Layout :=
  if set.isAscii then (layout.state 0).state (transitionSize * set.ranges.length)
  else if backward then backwardStates set layout
  else forwardStates set layout

end PathRouting.Regex
