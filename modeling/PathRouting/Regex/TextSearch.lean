import PathRouting.Regex.Encoding
import PathRouting.Regex.Expr
set_option autoImplicit false

/-!
# Expressions that search for texts

What every match begins with can be collected from an expression, within limits on how much is
collected.  When the texts collected are the matches themselves, the expression is a search for some
texts and needs no automaton.
-/

namespace PathRouting.Regex

open Unicode (CodeSet)

/-- A text that matches begin with. -/
structure Beginning where
  bytes : Bytes
  /-- whether the text is all of the match -/
  exact : Bool
  deriving DecidableEq, Repr, Inhabited

/-- What matches begin with: every match begins with one of the texts, of which earlier ones are
preferred.  Nothing is known of the matches when there is no list. -/
abbrev Beginnings := Option (List Beginning)

/-! ## Limits -/

/-- The most bytes of a text that are kept. -/
def longestBeginning : Nat := 100

/-- The most texts that are collected. -/
def mostBeginnings : Nat := 250

/-- The most rounds of a repetition that are looked at. -/
def mostRounds : Nat := 10

/-- The most characters of a set that are looked at. -/
def mostChars : Nat := 10

/-! ## Texts -/

namespace Beginning

/-- Marks a text as a mere beginning. -/
def inexact (beginning : Beginning) : Beginning := { beginning with exact := false }

/-- Keeps so many bytes of a text. -/
def keep (count : Nat) (beginning : Beginning) : Beginning :=
  if beginning.bytes.length ≤ count then beginning else ⟨beginning.bytes.take count, false⟩

/-- A match and then the beginning of another one. -/
def append (first second : Beginning) : Beginning :=
  ⟨first.bytes ++ second.bytes, second.exact⟩

/-- Puts a text before others.  Of equal texts next to each other one remains, which is exact if
both are. -/
def consDistinct (first : Beginning) : List Beginning → List Beginning
  | [] => [first]
  | second :: rest =>
    if first.bytes = second.bytes then ⟨first.bytes, first.exact && second.exact⟩ :: rest
    else first :: second :: rest

/-- Leaves one of equal texts next to each other. -/
def distinct (beginnings : List Beginning) : List Beginning :=
  beginnings.foldr consDistinct []

/-- Leaves out every text that a kept one before it begins. -/
def minimized (beginnings : List Beginning) : List Beginning :=
  beginnings.foldl
    (fun kept beginning =>
      if kept.any fun before => before.bytes.isPrefixOf beginning.bytes then kept
      else kept ++ [beginning])
    []

end Beginning

namespace Beginnings

/-- The empty text, as a whole match. -/
def emptyText : Beginnings := some [⟨[], true⟩]

/-- Can nothing be added behind the texts? -/
def closed (beginnings : Beginnings) : Bool :=
  beginnings.all fun texts => texts.all fun text => !text.exact

/-- Marks all texts as mere beginnings. -/
def inexact (beginnings : Beginnings) : Beginnings :=
  beginnings.map fun texts => texts.map Beginning.inexact

/-- Texts with something unknown after them. -/
def unknownAfter (texts : List Beginning) : Beginnings :=
  if texts.any (·.bytes.isEmpty) then none else some (texts.map Beginning.inexact)

/-- Texts after texts. -/
def append : Beginnings → Beginnings → Beginnings
  | none, _ => none
  | some first, none => unknownAfter first
  | some first, some second =>
    if first.length * second.length > mostBeginnings then unknownAfter first
    else
      let texts := first.flatMap fun text =>
        if text.exact then second.map text.append else [text]
      some ((Beginning.distinct texts).map (Beginning.keep longestBeginning))

/-- One kind of texts or another.  When there are too many, four bytes of each are kept. -/
def choose : Beginnings → Beginnings → Beginnings
  | some first, some second =>
    if first.length + second.length ≤ mostBeginnings then
      some (Beginning.distinct (first ++ second))
    else
      let first := Beginning.distinct (first.map (Beginning.keep 4))
      let second := Beginning.distinct (second.map (Beginning.keep 4))
      if first.length + second.length ≤ mostBeginnings then
        some (Beginning.distinct (first ++ second))
      else none
  | _, _ => none

/-- Texts after each other, so many times, as long as anything can be added. -/
def power (beginnings : Beginnings) : Nat → Beginnings → Beginnings
  | 0, before => before
  | count + 1, before =>
    if before.closed then before else power beginnings count (before.append beginnings)

/-- The characters of a set, unless there are too many. -/
def ofSet (set : CodeSet) : Beginnings :=
  let codes := set.ranges.flatMap fun range =>
    (List.range (min (range.2 + 1 - range.1) (mostChars + 1))).map (range.1 + ·)
  if codes.length > mostChars then none
  else some (codes.map fun code => ⟨utf8 [Char.ofNat code], true⟩)

end Beginnings

/-! ## Collecting -/

mutual

/-- What the matches of an expression begin with. -/
def Expr.beginnings : Expr → Beginnings
  | .empty => .emptyText
  | .look _ => .emptyText
  | .literal text => some [(⟨utf8 text, true⟩ : Beginning).keep longestBeginning]
  | .chars set _ => .ofSet set
  | .capture body => body.beginnings
  | .repetition body least most greedy =>
    let once := body.beginnings
    if least = 0 then
      let texts := if most = some 1 then once else once.inexact
      if greedy then texts.choose .emptyText else Beginnings.emptyText.choose texts
    else
      let texts := once.power (min least mostRounds) .emptyText
      if most = some least ∧ least ≤ mostRounds then texts else texts.inexact
  | .concat items => Expr.beginningsOfItems items .emptyText
  | .alternation branches => Expr.beginningsOfBranches branches (some [])

/-- What the matches of expressions after each other begin with, after given beginnings. -/
def Expr.beginningsOfItems : List Expr → Beginnings → Beginnings
  | [], before => before
  | item :: rest, before =>
    if before.closed then before else Expr.beginningsOfItems rest (before.append item.beginnings)

/-- What the matches of any of the expressions begin with, besides given beginnings. -/
def Expr.beginningsOfBranches : List Expr → Beginnings → Beginnings
  | [], before => before
  | branch :: rest, before =>
    if before.isNone then none
    else Expr.beginningsOfBranches rest (before.choose branch.beginnings)

end

/-! ## Choosing what to search for -/

/-- The bytes that texts hold most often. -/
def commonBytes : CodeSet :=
  .ofText ["A D 20 28-29 2C-32 39-3A 5F 61-69 6C-70 72-76 78-79 7C 80-84 90 B1 B5-B7 B9-BD BF-FF"]

/-- The bytes that nearly every text holds. -/
def ubiquitousBytes : CodeSet := .ofText ["20 65 74 C0-FF"]

/-- Is a text of no use to search for, since nearly every text holds it? -/
def Beginning.isUbiquitous (beginning : Beginning) : Bool :=
  match beginning.bytes with
  | [] => true
  | [byte] => ubiquitousBytes.contains byte.toNat
  | _ => false

/-- What two sequences of bytes have in common from the start on. -/
def sharedBytes : Bytes → Bytes → Bytes
  | a :: as, b :: bs => if a = b then a :: sharedBytes as bs else []
  | _, _ => []

/-- What all texts begin with. -/
def sharedBeginning : List Beginning → Bytes
  | [] => []
  | first :: rest => rest.foldl (fun shared text => sharedBytes shared text.bytes) first.bytes

/-- Shortens texts to so many bytes each as long as there are more of them than a limit, for one
length and limit after the other. -/
def shortened : List (Nat × Nat) → List Beginning → List Beginning
  | [], texts => texts
  | (count, limit) :: rest, texts =>
    if texts.length ≤ limit then texts
    else shortened rest (Beginning.minimized (texts.map (Beginning.keep count)))

/-- The texts to search for, so that there are few and the search stops seldom.  Matches that are
known exactly stay so unless the texts that take their place are good ones. -/
def textsToSearch (beginnings : List Beginning) : Beginnings :=
  let texts := Beginning.minimized beginnings
  let shared := sharedBeginning texts
  let rare := shared.head?.any fun byte => !commonBytes.contains byte.toNat
  if beginnings.any (·.bytes.isEmpty) then none
  else if beginnings.length > 1 && shared.length ≤ 3 && rare then
    some (Beginning.distinct (texts.map (Beginning.keep 1)))
  else
    let few := texts.all (·.exact) && texts.length ≤ 16
    let texts :=
      if shared.length > 4 || (shared.length > 1 && !few) then
        Beginning.distinct (texts.map (Beginning.keep shared.length))
      else texts
    let short := shortened [(5, 10), (4, 10), (3, 64), (2, 64), (1, 10)] texts
    let ubiquitous := short.any Beginning.isUbiquitous
    let poor := ubiquitous || short.length > 64 || short.any fun text => text.bytes.length ≤ 2
    if texts.all (·.exact) && poor then some texts
    else if ubiquitous then none
    else some short

mutual

/-- Is the expression free of captures and of conditions on places? -/
def Expr.isPlain : Expr → Bool
  | .look _ => false
  | .capture _ => false
  | .repetition body _ _ _ => body.isPlain
  | .concat items => Expr.allPlain items
  | .alternation branches => Expr.allPlain branches
  | .empty => true
  | .literal _ => true
  | .chars _ _ => true

/-- Are all of the expressions free of captures and of conditions? -/
def Expr.allPlain : List Expr → Bool
  | [] => true
  | item :: rest => item.isPlain && Expr.allPlain rest

end

/-- Is the expression a literal? -/
def Expr.isLiteral : Expr → Bool
  | .literal _ => true
  | _ => false

/-- The number of literals from which on a choice between them is searched for as such. -/
def manyLiterals : Nat := 3000

/-- Is the expression a choice between very many literals? -/
def Expr.isLongList : Expr → Bool
  | .alternation branches => branches.length ≥ manyLiterals && branches.all Expr.isLiteral
  | _ => false

/-- Is a search for texts all that the expression asks for? -/
def Expr.isTextSearch (expr : Expr) : Bool :=
  expr.isLongList
    || (expr.isPlain && (expr.beginnings.bind textsToSearch).any fun texts =>
      !texts.isEmpty && texts.all (·.exact))

end PathRouting.Regex
