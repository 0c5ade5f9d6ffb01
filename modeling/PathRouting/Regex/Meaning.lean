import PathRouting.Regex.Ast
import PathRouting.Regex.Expr
import PathRouting.Unicode.CaseFolding
import PathRouting.Unicode.Query
set_option autoImplicit false

/-!
# What written expressions mean

The flags in force decide what the parts of an expression stand for.  Flags change from left to
right, within one group, across its branches.  An expression that could match part of a character's
encoding has no meaning, and neither has a name that is not known.
-/

namespace PathRouting.Regex

open Unicode (CodeSet)

/-! ## Flags in force -/

/-- The flags in force.  How the expression is spaced plays no part. -/
structure Flags where
  caseInsensitive : Bool
  multiLine : Bool
  dotMatchesNewline : Bool
  swapGreed : Bool
  unicode : Bool
  crlf : Bool
  deriving DecidableEq, Repr, Inhabited

namespace Flags

/-- The flags at the start of an expression: Unicode is on, and all else is off. -/
def start : Flags := ⟨false, false, false, false, true, false⟩

/-- Switches one flag. -/
def switch (flags : Flags) : Flag × Bool → Flags
  | (.caseInsensitive, on) => { flags with caseInsensitive := on }
  | (.multiLine, on) => { flags with multiLine := on }
  | (.dotMatchesNewline, on) => { flags with dotMatchesNewline := on }
  | (.unicode, on) => { flags with unicode := on }
  | (.crlf, on) => { flags with crlf := on }
  | (.swapGreed, on) => { flags with swapGreed := on }
  | (.verbose, _) => flags

/-- Makes changes in order. -/
def apply (flags : Flags) (changes : FlagChanges) : Flags :=
  changes.foldl switch flags

end Flags

/-! ## Classes -/

/-- A set closed under changes of case among the ASCII letters. -/
def asciiCaseClosure (set : CodeSet) : CodeSet :=
  set.union (.unions
    [.ofCodes (((List.range 26).map (· + 0x41)).filter fun code => set.contains (code + 32)),
      .ofCodes (((List.range 26).map (· + 0x61)).filter fun code => set.contains (code - 32))])

/-- The members of a set when case does not count, if it does not. -/
def foldCase (flags : Flags) (set : CodeSet) : CodeSet :=
  if !flags.caseInsensitive then set
  else if flags.unicode then set.caseClosure
  else asciiCaseClosure set

/-- Negates a set.  Without Unicode the negation would hold bytes that are no characters, so there
is none. -/
def negate? (flags : Flags) (negated : Bool) (set : CodeSet) : Option CodeSet :=
  if !negated then some set
  else if flags.unicode then some set.negation
  else none

/-- The characters of words. -/
def wordLetters (unicode : Bool) : CodeSet :=
  if unicode then
    .unions [Unicode.alphabetic, Unicode.categoriesUnion ["Mn", "Mc", "Me", "Nd", "Pc"],
      Unicode.listed "Join_Control"]
  else .ofText ["30-39 41-5A 5F 61-7A"]

/-- The members of a class that has a letter of its own. -/
def shorthandSet (unicode : Bool) : Shorthand → CodeSet
  | .digit => if unicode then Unicode.category "Nd" else .ofText ["30-39"]
  | .space => if unicode then Unicode.listed "White_Space" else .ofText ["9-D 20"]
  | .word => wordLetters unicode

/-- The members of such a class or of its negation. -/
def shorthandSet? (flags : Flags) (kind : Shorthand) (negated : Bool) : Option CodeSet :=
  negate? flags negated (shorthandSet flags.unicode kind)

/-- The members that a Unicode class asks for. -/
def PropertyQuery.set? : PropertyQuery → Option CodeSet
  | .named name => Unicode.named? name
  | .valued property value => Unicode.valued? property value

/-- The members of a Unicode class or of its negation. -/
def propertySet? (flags : Flags) (query : PropertyQuery) (negated : Bool) : Option CodeSet :=
  if flags.unicode then query.set?.bind fun set => negate? flags negated (foldCase flags set)
  else none

/-- The code point of a character in a class.  Without Unicode only ASCII characters can be there.
-/
def Literal.inClass? (flags : Flags) (literal : Literal) : Option Nat :=
  if flags.unicode || literal.char.toNat < 0x80 then some literal.char.toNat else none

/-- The members that an operator leaves. -/
def ClassOp.apply : ClassOp → CodeSet → CodeSet → CodeSet
  | .intersection => CodeSet.inter
  | .difference => CodeSet.diff
  | .symmetricDifference => CodeSet.symmDiff

mutual

/-- The members of what stands between brackets. -/
def ClassSet.members? (flags : Flags) : ClassSet → Option CodeSet
  | .empty => some .empty
  | .literal char => (char.inClass? flags).map fun code => .range code code
  | .range first last =>
    (first.inClass? flags).bind fun a => (last.inClass? flags).map fun b => .range a b
  | .ascii members negated => negate? flags negated (foldCase flags members)
  | .property query negated => propertySet? flags query negated
  | .shorthand kind negated => shorthandSet? flags kind negated
  | .bracketed negated set =>
    (set.members? flags).bind fun members => negate? flags negated (foldCase flags members)
  | .union items => ClassSet.unionMembers? flags items
  | .binary op left right =>
    (left.members? flags).bind fun a => (right.members? flags).map fun b =>
      op.apply (foldCase flags a) (foldCase flags b)

/-- The members of items side by side. -/
def ClassSet.unionMembers? (flags : Flags) : List ClassSet → Option CodeSet
  | [] => some .empty
  | item :: rest =>
    (item.members? flags).bind fun a => (ClassSet.unionMembers? flags rest).map fun b => a.union b

end

/-! ## Expressions -/

/-- What a character stands for outside a class.  A byte above the ASCII range is no character. -/
def Literal.expr? (flags : Flags) (literal : Literal) : Option Expr :=
  if !flags.unicode && literal.isByte && literal.char.toNat ≥ 0x80 then none
  else some (.ofSet (foldCase flags (.singleton literal.char)) flags.unicode)

/-- What a dot stands for: any character, except the end of a line unless it may match that too. -/
def dotExpr? (flags : Flags) : Option Expr :=
  if !flags.unicode then none
  else if flags.dotMatchesNewline then some (.chars .full true)
  else if flags.crlf then some (.chars (CodeSet.ofText ["A D"]).complement true)
  else some (.chars (CodeSet.ofText ["A"]).complement true)

/-- What a place stands for. -/
def Anchor.look (flags : Flags) : Anchor → Look
  | .lineStart => if flags.multiLine then .lineStart flags.crlf else .textStart
  | .lineEnd => if flags.multiLine then .lineEnd flags.crlf else .textEnd
  | .textStart => .textStart
  | .textEnd => .textEnd
  | .wordBoundary => .word .boundary (wordLetters flags.unicode)
  | .notWordBoundary => .word .notBoundary (wordLetters flags.unicode)
  | .wordStart => .word .start (wordLetters flags.unicode)
  | .wordEnd => .word .finish (wordLetters flags.unicode)
  | .wordStartHalf => .word .startHalf (wordLetters flags.unicode)
  | .wordEndHalf => .word .endHalf (wordLetters flags.unicode)

mutual

/-- What an expression stands for, and the flags in force behind it. -/
def Ast.expr? (flags : Flags) : Ast → Option (Expr × Flags)
  | .empty => some (.empty, flags)
  | .flags changes => some (.empty, flags.apply changes)
  | .literal char => (char.expr? flags).map fun expr => (expr, flags)
  | .dot => (dotExpr? flags).map fun expr => (expr, flags)
  | .anchor place => some (.look (place.look flags), flags)
  | .property query negated =>
    (propertySet? flags query negated).map fun set => (.ofSet set flags.unicode, flags)
  | .shorthand kind negated =>
    (shorthandSet? flags kind negated).map fun set => (.ofSet set flags.unicode, flags)
  | .bracketed negated set =>
    (set.members? flags).bind fun members =>
      (negate? flags negated (foldCase flags members)).map fun set =>
        (.ofSet set flags.unicode, flags)
  | .repetition least most greedy body =>
    (body.expr? flags).map fun (expr, after) =>
      (expr.repeated least most (xor greedy after.swapGreed), after)
  | .group changes captures body =>
    (body.expr? (flags.apply changes)).map fun (expr, _) =>
      (if captures then .capture expr else expr, flags)
  | .alternation branches =>
    (Ast.exprs? flags branches).map fun (exprs, after) => (.alternateAll exprs, after)
  | .concat items =>
    (Ast.exprs? flags items).map fun (exprs, after) => (.concatAll exprs, after)

/-- What expressions stand for, with the flags handed on from each to the next. -/
def Ast.exprs? (flags : Flags) : List Ast → Option (List Expr × Flags)
  | [] => some ([], flags)
  | item :: rest =>
    (item.expr? flags).bind fun (expr, between) =>
      (Ast.exprs? between rest).map fun (exprs, after) => (expr :: exprs, after)

end

end PathRouting.Regex
