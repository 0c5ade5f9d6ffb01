set_option autoImplicit false

/-!
# Laying out automata

An automaton is laid out state by state, and the states are numbered in that order.  Only the number
of states and their size are kept: that is all that the limit on the size of an automaton asks for.
-/

namespace PathRouting.Regex

/-- The size of a state. -/
def stateSize : Nat := 32

/-- The size of one way out of a fork. -/
def branchSize : Nat := 4

/-- The size of one byte range of a state that has several. -/
def transitionSize : Nat := 8

/-- The largest size of an automaton: ten mebibytes. -/
def sizeLimit : Nat := 10 * Nat.pow 2 20

/-- How far an automaton has been laid out. -/
structure Layout where
  /-- the number of states -/
  states : Nat
  /-- the size of the states with the ways out of them -/
  size : Nat
  /-- whether the part that was laid out last ends in a fork, which takes one more way out to
  whatever comes next -/
  endsInFork : Bool
  deriving DecidableEq, Repr, Inhabited

namespace Layout

/-- Nothing is laid out. -/
def empty : Layout := ⟨0, 0, false⟩

/-- Leads the end of the last part to a state that is there already. -/
def join (layout : Layout) : Layout :=
  if layout.endsInFork then { layout with size := layout.size + branchSize, endsInFork := false }
  else layout

/-- Leads on to a new state, with a size beyond that of a plain one. -/
def state (layout : Layout) (extra : Nat) : Layout :=
  { layout.join with states := layout.states + 1, size := layout.join.size + stateSize + extra }

/-- Leads on to a new fork with some ways out. -/
def fork (layout : Layout) (ways : Nat) : Layout :=
  layout.state (ways * branchSize)

/-- Leads on to a chain of plain states. -/
def chain (layout : Layout) : Nat → Layout
  | 0 => layout
  | count + 1 => (layout.state 0).chain count

/-- Adds a way out to a fork that was laid out before. -/
def branch (layout : Layout) : Layout :=
  { layout with size := layout.size + branchSize }

/-- Lays a part out so many times; a layout beyond the limit is left alone. -/
def times (step : Layout → Layout) : Nat → Layout → Layout
  | 0, layout => layout
  | count + 1, layout =>
    if layout.size ≤ sizeLimit then times step count (step layout) else layout

end Layout

end PathRouting.Regex
