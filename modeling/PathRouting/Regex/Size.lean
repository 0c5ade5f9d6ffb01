import PathRouting.Regex.ClassStates
import PathRouting.Regex.Expr
import PathRouting.Regex.LiteralChoice
set_option autoImplicit false

/-!
# The size of an expression

An expression is run by two automata over the bytes of a text's UTF-8 encoding: one reads forward
and finds where a match ends, the other reads backward from there and finds where it starts. 
Counted repetitions are unrolled.  An expression is too large when either automaton is.
-/

namespace PathRouting.Regex

namespace Expr

/-! ## What is known of the matches -/

mutual

/-- The fewest bytes of a match, unless something in the expression can match nothing at all. -/
def minLength? : Expr → Option Nat
  | empty => some 0
  | look _ => some 0
  | literal text => some (utf8 text).length
  | chars set _ => if set.ranges.isEmpty then none else some 1
  | repetition body least _ _ => body.minLength?.map fun length => length * least
  | capture body => body.minLength?
  | concat items => (minLengths? items).map fun lengths => lengths.foldl (· + ·) 0
  | alternation branches => (minLengths? branches).bind List.min?

/-- The fewest bytes of a match of each expression. -/
def minLengths? : List Expr → Option (List Nat)
  | [] => some []
  | item :: rest =>
    item.minLength?.bind fun length => (minLengths? rest).map fun lengths => length :: lengths

end

mutual

/-- Does every match start where the text does, or end where the text does? -/
def anchored (atEnd : Bool) : Expr → Bool
  | look condition => condition = if atEnd then .textEnd else .textStart
  | repetition body least _ _ => least > 0 && body.anchored atEnd
  | capture body => body.anchored atEnd
  | concat items => if atEnd then lastAnchored items else firstAnchored items
  | alternation branches => allAnchored atEnd branches
  | empty => false
  | literal _ => false
  | chars _ _ => false

/-- Does every match of the expressions after each other start where the text does? -/
def firstAnchored : List Expr → Bool
  | [] => false
  | item :: rest => item.anchored false || (item.onlyEmpty && firstAnchored rest)

/-- Does every match of the expressions after each other end where the text does? -/
def lastAnchored : List Expr → Bool
  | [] => false
  | item :: rest => lastAnchored rest || (allOnlyEmpty rest && item.anchored true)

/-- Is every branch anchored? -/
def allAnchored (atEnd : Bool) : List Expr → Bool
  | [] => true
  | branch :: rest => branch.anchored atEnd && allAnchored atEnd rest

end

/-! ## Laying out -/

/-- The bytes of a literal. -/
def bytes? : Expr → Option Bytes
  | literal text => some (utf8 text)
  | _ => none

/-- What a choice adds behind each branch: behind the second comes the fork that leads to both, with
the state where all branches end. -/
def branchStates (index : Nat) (layout : Layout) : Layout :=
  if index = 0 then layout
  else if index = 1 then (layout.fork 2).state 0
  else layout.join.branch

mutual

/-- Lays out an expression. -/
def states (backward : Bool) : Expr → Layout → Layout
  | empty, layout => layout.state 0
  | look _, layout => layout.state 0
  | literal text, layout => layout.chain (utf8 text).length
  | chars set _, layout => classStates backward set layout
  | capture body, layout =>
    if backward then body.states backward layout
    else (body.states backward (layout.state 0)).state 0
  | repetition body least none _, layout =>
    if least > 0 then
      { (Layout.times (body.states backward) least layout).fork 1 with endsInFork := true }
    else if body.minLength?.any (· > 0) then
      { (body.states backward (layout.fork 1)).join with endsInFork := true }
    else (((body.states backward layout).fork 2).fork 2).state 0
  | repetition body least (some most) _, layout =>
    if least = 0 ∧ most = 1 then (body.states backward (layout.fork 2)).state 0
    else
      let required :=
        if least = 0 then layout.state 0 else Layout.times (body.states backward) least layout
      if least = most then required
      else
        (Layout.times (fun layout => body.states backward (layout.fork 2)) (most - least)
          (required.state 0)).join
  | concat items, layout =>
    if backward then statesFromLast items layout else statesFromFirst items layout
  | alternation branches, layout =>
    match branches.mapM bytes? with
    | some texts => literalStates (if backward then texts.map List.reverse else texts) layout
    | none => statesOfBranches backward 0 branches layout

/-- Lays out expressions one after the other, from the first on. -/
def statesFromFirst : List Expr → Layout → Layout
  | [], layout => layout
  | item :: rest, layout => statesFromFirst rest (item.states false layout)

/-- Lays out expressions one after the other, from the last on. -/
def statesFromLast : List Expr → Layout → Layout
  | [], layout => layout
  | item :: rest, layout => item.states true (statesFromLast rest layout)

/-- Lays out branches to choose from, the first of which has the given index. -/
def statesOfBranches (backward : Bool) (index : Nat) : List Expr → Layout → Layout
  | [], layout => layout
  | branch :: rest, layout =>
    statesOfBranches backward (index + 1) rest
      (branchStates index (branch.states backward layout))

end

/-! ## The limit -/

/-- The size of an automaton of an expression.  Unless every match is anchored where the automaton
starts to read, a loop over all bytes comes first. -/
def size (backward : Bool) (expr : Expr) : Nat :=
  let start :=
    if expr.anchored backward then Layout.empty.state 0
    else ((Layout.empty.fork 2).state 0).state transitionSize
  (((capture expr).states backward start).state 0).size

/-- Is no automaton of the expression larger than the limit? -/
def fits (expr : Expr) : Bool :=
  expr.size false ≤ sizeLimit && expr.size true ≤ sizeLimit

end Expr

end PathRouting.Regex
