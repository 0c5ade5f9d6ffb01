import PathRouting.Text.Numeral
import PathRouting.Text.Pieces
set_option autoImplicit false

/-!
# Sets of code points

A set of code points is a list of ranges in ascending order, with a gap between each and the next.
Tables of the Unicode standard are written as texts of ranges in hexadecimal, which `CodeSet.ofText`
reads.
-/

namespace PathRouting.Unicode

open Text (cut numeral pieces)

/-- The largest code point. -/
def lastCode : Nat := 0x10FFFF

/-- A set of code points. -/
structure CodeSet where
  /-- first and last code point of each range, lowest range first -/
  ranges : List (Nat × Nat)
  deriving DecidableEq, Repr, Inhabited

/-! ## Runs as texts -/

/-- Code points at one distance from each other. -/
structure Run where
  first : Nat
  last : Nat
  step : Nat
  deriving DecidableEq, Repr, Inhabited

namespace Run

/-- Reads `A`, `A-B` or `A-B/S`, with numbers in hexadecimal. -/
def ofToken (token : List Char) : Run :=
  let (bounds, step) := cut '/' token
  let (first, last) := cut '-' bounds
  { first := numeral 16 first
    last := numeral 16 (if last = [] then first else last)
    step := if step = [] then 1 else numeral 16 step }

/-- The code points of a run. -/
def codes (run : Run) : List Nat :=
  (List.range ((run.last - run.first) / run.step + 1)).map fun i => run.first + run.step * i

/-- The ranges of a run. -/
def ranges (run : Run) : List (Nat × Nat) :=
  if run.step = 1 then [(run.first, run.last)] else run.codes.map fun code => (code, code)

end Run

namespace CodeSet

/-! ## Making sets -/

/-- Joins ranges, given by ascending first code points, to a range that starts no later. -/
def joinRanges (first last : Nat) : List (Nat × Nat) → List (Nat × Nat)
  | [] => [(first, last)]
  | (first', last') :: rest =>
    if first' ≤ last + 1 then joinRanges first (max last last') rest
    else (first, last) :: joinRanges first' last' rest

/-- The set covered by ranges in any order. -/
def ofRanges (ranges : List (Nat × Nat)) : CodeSet :=
  match ranges.mergeSort fun a b => a.1 ≤ b.1 with
  | [] => ⟨[]⟩
  | (first, last) :: rest => ⟨joinRanges first last rest⟩

/-- The set of the given code points. -/
def ofCodes (codes : List Nat) : CodeSet :=
  ofRanges (codes.map fun code => (code, code))

/-- Reads lines of runs with blanks between them. -/
def ofText (lines : List String) : CodeSet :=
  ofRanges (lines.flatMap fun line => (pieces ' ' line.toList).flatMap fun token =>
    (Run.ofToken token).ranges)

/-- The set without members. -/
def empty : CodeSet := ⟨[]⟩

/-- All code points. -/
def full : CodeSet := ⟨[(0, lastCode)]⟩

/-- The code points from one to another. -/
def range (first last : Nat) : CodeSet := ofRanges [(first, last)]

/-- The set of one character. -/
def singleton (char : Char) : CodeSet := ⟨[(char.toNat, char.toNat)]⟩

/-! ## Membership and algebra -/

/-- Is the code point in the set? -/
def contains (set : CodeSet) (code : Nat) : Bool :=
  set.ranges.any fun (first, last) => first ≤ code && code ≤ last

/-- Is the character in the set? -/
def hasChar (set : CodeSet) (char : Char) : Bool :=
  set.contains char.toNat

/-- The members of either set. -/
def union (a b : CodeSet) : CodeSet :=
  ofRanges (a.ranges ++ b.ranges)

/-- The members of any of the sets. -/
def unions (sets : List CodeSet) : CodeSet :=
  ofRanges (sets.flatMap (·.ranges))

/-- The character's code point after another; surrogates are skipped. -/
def codeAfter (code : Nat) : Nat := if code = 0xD7FF then 0xE000 else code + 1

/-- The character's code point before another. -/
def codeBefore (code : Nat) : Nat := if code = 0xE000 then 0xD7FF else code - 1

/-- What lies from a code point on between the ranges of a set. -/
def gaps (start : Nat) : List (Nat × Nat) → List (Nat × Nat)
  | [] => if start ≤ lastCode then [(start, lastCode)] else []
  | (first, last) :: rest =>
    if start < first then (start, codeBefore first) :: gaps (codeAfter last) rest
    else gaps (codeAfter last) rest

/-- The characters that are not in the set. -/
def complement (set : CodeSet) : CodeSet :=
  ⟨gaps 0 set.ranges⟩

/-- The characters that a negated class holds.  They are the ones that are not in the class, with
one exception: where a range ends right before the surrogates and the next one starts right behind
them, there is no gap between the two, and the two characters beside it are taken for one. -/
def negation (set : CodeSet) : CodeSet :=
  if set.ranges.any (·.2 = 0xD7FF) && set.ranges.any (·.1 = 0xE000) then
    set.complement.union (.range 0xD7FF 0xE000)
  else set.complement

/-- What two ranges share. -/
def overlap? (a b : Nat × Nat) : Option (Nat × Nat) :=
  if max a.1 b.1 ≤ min a.2 b.2 then some (max a.1 b.1, min a.2 b.2) else none

/-- The members of both sets. -/
def inter (a b : CodeSet) : CodeSet :=
  ofRanges (a.ranges.flatMap fun range => b.ranges.filterMap (overlap? range))

/-- The members of the first set that are not in the second. -/
def diff (a b : CodeSet) : CodeSet :=
  a.inter b.complement

/-- The members of exactly one of the sets. -/
def symmDiff (a b : CodeSet) : CodeSet :=
  (a.union b).diff (a.inter b)

/-- Is there exactly one member? -/
def isSingleton (set : CodeSet) : Bool :=
  match set.ranges with
  | [(first, last)] => first = last
  | _ => false

/-- Are all members ASCII characters? -/
def isAscii (set : CodeSet) : Bool :=
  set.ranges.all fun range => range.2 < 0x80

end CodeSet

end PathRouting.Unicode
