import PathRouting.Text.Numeral
import PathRouting.Unicode.CodeSet
set_option autoImplicit false

/-!
# Expressions

Regular expressions over characters, with flags and names resolved: characters and sets of them,
places in the text, and the ways of putting expressions together.  Expressions are put together in a
simple form: nothing is nested in its own kind, and nothing is written as a choice that a set says.
-/

namespace PathRouting.Regex

open Text (scalar?)
open Unicode (CodeSet)

/-- A relation between a place and the words around it. -/
inductive WordLook where
  /-- a word starts or ends here -/
  | boundary
  /-- no word starts or ends here -/
  | notBoundary
  /-- a word starts here -/
  | start
  /-- a word ends here -/
  | finish
  /-- no word goes on from before -/
  | startHalf
  /-- no word goes on behind -/
  | endHalf
  deriving DecidableEq, Repr, Inhabited

/-- A condition on a place in the text. -/
inductive Look where
  | textStart
  | textEnd
  /-- the start of a line; lines may end with a carriage return if `crlf` holds -/
  | lineStart (crlf : Bool)
  /-- the end of a line -/
  | lineEnd (crlf : Bool)
  /-- a relation to words made of the given characters -/
  | word (look : WordLook) (letters : CodeSet)
  deriving DecidableEq, Repr, Inhabited

/-- An expression over characters. -/
inductive Expr where
  /-- the empty text -/
  | empty
  /-- characters after each other, at least one -/
  | literal (text : List Char)
  /-- one character of a set of any size but one, which was asked for as a set of characters if
  `unicode` holds and as a set of bytes if not -/
  | chars (set : CodeSet) (unicode : Bool)
  /-- the empty text, at a place that meets the condition -/
  | look (condition : Look)
  /-- at least and, if there is a bound, at most so many times -/
  | repetition (body : Expr) (least : Nat) (most : Option Nat) (greedy : Bool)
  | capture (body : Expr)
  /-- at least two expressions after each other -/
  | concat (items : List Expr)
  /-- at least two expressions to choose from -/
  | alternation (branches : List Expr)
  deriving Repr, Inhabited

namespace Expr

/-! ## What is known of the matches -/

mutual

/-- Does the expression match nothing but empty texts? -/
def onlyEmpty : Expr → Bool
  | empty => true
  | look _ => true
  | literal _ => false
  | chars _ _ => false
  | repetition body _ _ _ => body.onlyEmpty
  | capture body => body.onlyEmpty
  | concat items => allOnlyEmpty items
  | alternation branches => allOnlyEmpty branches

/-- Do all of the expressions match nothing but empty texts? -/
def allOnlyEmpty : List Expr → Bool
  | [] => true
  | item :: rest => item.onlyEmpty && allOnlyEmpty rest

end

/-! ## Comparing -/

mutual

/-- Are two expressions the same?  No capture is the same as another one. -/
def same : Expr → Expr → Bool
  | empty, empty => true
  | literal a, literal b => a = b
  | chars a unicode, chars b unicode' => a = b && unicode = unicode'
  | look a, look b => a = b
  | repetition a least most greedy, repetition b least' most' greedy' =>
    least = least' && most = most' && greedy = greedy' && same a b
  | concat as, concat bs => allSame as bs
  | alternation as, alternation bs => allSame as bs
  | _, _ => false

/-- Are two lists of expressions the same? -/
def allSame : List Expr → List Expr → Bool
  | [], [] => true
  | a :: as, b :: bs => same a b && allSame as bs
  | _, _ => false

end

/-- The items that two lists begin with. -/
def sharedItems : List Expr → List Expr → List Expr
  | a :: as, b :: bs => if same a b then a :: sharedItems as bs else []
  | _, _ => []

/-- The items that all of the lists begin with. -/
def itemsOfAll : List (List Expr) → List Expr
  | [] => []
  | first :: rest => rest.foldl sharedItems first

/-! ## Putting expressions together -/

/-- One character of a set.  The only character of a set is a literal. -/
def ofSet (set : CodeSet) (unicode : Bool) : Expr :=
  match set.ranges with
  | [] => chars .empty false
  | (first, last) :: _ =>
    if set.isSingleton then
      match scalar? first with
      | some char => literal [char]
      | none => chars ⟨[(first, last)]⟩ unicode
    else chars set unicode

/-- An expression repeated.  Repeating empty matches adds nothing after the first. -/
def repeated (body : Expr) (least : Nat) (most : Option Nat) (greedy : Bool) : Expr :=
  let (least, most) :=
    if body.onlyEmpty then (min least 1, some (min (most.getD 1) 1)) else (least, most)
  if most = some 0 then empty
  else if least = 1 ∧ most = some 1 then body
  else repetition body least most greedy

/-- The items of expressions after each other. -/
def items : Expr → List Expr
  | concat items => items
  | other => [other]

/-- Puts an item before others.  Literals after each other are one literal. -/
def joinItem : Expr → List Expr → List Expr
  | empty, rest => rest
  | literal text, literal more :: rest => literal (text ++ more) :: rest
  | item, rest => item :: rest

/-- Expressions after each other. -/
def concatAll (exprs : List Expr) : Expr :=
  match (exprs.flatMap items).foldr joinItem [] with
  | [] => empty
  | [only] => only
  | items => concat items

/-- The branches of a choice. -/
def branches : Expr → List Expr
  | alternation branches => branches
  | other => [other]

/-- The character of an expression that matches one character. -/
def char? : Expr → Option Char
  | literal [char] => some char
  | _ => none

/-- The set of an expression that matches one character of a set. -/
def set? : Expr → Option CodeSet
  | chars set _ => some set
  | _ => none

/-- The items of expressions after each other, if there are several. -/
def items? : Expr → Option (List Expr)
  | concat items => some items
  | _ => none

/-- Branches to choose from.  A choice between characters, or between sets of them, is a set. -/
def choice (exprs : List Expr) : Expr :=
  match exprs.flatMap branches with
  | [] => chars .empty false
  | [only] => only
  | branches =>
    match branches.mapM char? with
    | some text => ofSet (.ofCodes (text.map Char.toNat)) true
    | none =>
      match branches.mapM set? with
      | some sets => ofSet (.unions sets) true
      | none => alternation branches

/-- Expressions to choose from.  What all of them begin with comes once, before the choice. -/
def alternateAll (exprs : List Expr) : Expr :=
  match (exprs.flatMap branches).mapM items? with
  | none => choice exprs
  | some lists =>
    let start := itemsOfAll lists
    if start.isEmpty then choice exprs
    else
      concatAll (start ++ [choice (lists.map fun items => concatAll (items.drop start.length))])

end Expr

end PathRouting.Regex
