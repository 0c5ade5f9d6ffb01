import PathRouting.Unicode.CodeSet
set_option autoImplicit false

/-!
# Expressions as written

The structure of a regular expression as its author wrote it, before flags and names of properties
are looked at.
-/

namespace PathRouting.Regex

open Unicode (CodeSet)

/-! ## Flags -/

/-- What can be switched on and off within an expression. -/
inductive Flag where
  /-- `i`: letters match in either case -/
  | caseInsensitive
  /-- `m`: `^` and `$` match at the ends of lines -/
  | multiLine
  /-- `s`: a dot matches the end of a line too -/
  | dotMatchesNewline
  /-- `U`: repetitions take as little as they can -/
  | swapGreed
  /-- `u`: classes hold all of Unicode -/
  | unicode
  /-- `R`: lines may end with a carriage return -/
  | crlf
  /-- `x`: blanks and comments in the expression do not count -/
  | verbose
  deriving DecidableEq, Repr, Inhabited

/-- The flag that a letter stands for. -/
def Flag.ofChar? : Char → Option Flag
  | 'i' => some .caseInsensitive
  | 'm' => some .multiLine
  | 's' => some .dotMatchesNewline
  | 'U' => some .swapGreed
  | 'u' => some .unicode
  | 'R' => some .crlf
  | 'x' => some .verbose
  | _ => none

/-- Flags switched on or off at one place, each at most once. -/
abbrev FlagChanges := List (Flag × Bool)

/-! ## Parts of an expression -/

/-- A character that stands for itself. -/
structure Literal where
  char : Char
  /-- written as one byte, with two hexadecimal digits -/
  isByte : Bool
  deriving DecidableEq, Repr, Inhabited

/-- A place in the text, as it is written. -/
inductive Anchor where
  | lineStart
  | lineEnd
  | textStart
  | textEnd
  | wordBoundary
  | notWordBoundary
  | wordStart
  | wordEnd
  | wordStartHalf
  | wordEndHalf
  deriving DecidableEq, Repr, Inhabited

/-- The classes that have a letter of their own. -/
inductive Shorthand where
  | digit
  | space
  | word
  deriving DecidableEq, Repr, Inhabited

/-- How a Unicode class is asked for. -/
inductive PropertyQuery where
  /-- by one name -/
  | named (name : String)
  /-- by a property and its value -/
  | valued (property value : String)
  deriving DecidableEq, Repr, Inhabited

/-- An operation between two classes. -/
inductive ClassOp where
  | intersection
  | difference
  | symmetricDifference
  deriving DecidableEq, Repr, Inhabited

/-- What stands between the brackets of a class. -/
inductive ClassSet where
  | empty
  | literal (literal : Literal)
  | range (first last : Literal)
  /-- a class such as `[:alpha:]` -/
  | ascii (members : CodeSet) (negated : Bool)
  | property (query : PropertyQuery) (negated : Bool)
  | shorthand (kind : Shorthand) (negated : Bool)
  | bracketed (negated : Bool) (set : ClassSet)
  /-- several items side by side -/
  | union (items : List ClassSet)
  | binary (op : ClassOp) (left right : ClassSet)
  deriving Inhabited

/-- An expression. -/
inductive Ast where
  | empty
  /-- flags for the rest of the group -/
  | flags (changes : FlagChanges)
  | literal (literal : Literal)
  | dot
  | anchor (anchor : Anchor)
  | property (query : PropertyQuery) (negated : Bool)
  | shorthand (kind : Shorthand) (negated : Bool)
  | bracketed (negated : Bool) (set : ClassSet)
  /-- at least and, if there is a bound, at most so many times; a greedy repetition takes as much as
  it can -/
  | repetition (least : Nat) (most : Option Nat) (greedy : Bool) (body : Ast)
  /-- a group, with the flags it is opened with -/
  | group (changes : FlagChanges) (captures : Bool) (body : Ast)
  | alternation (branches : List Ast)
  | concat (items : List Ast)
  deriving Inhabited

/-! ## Collecting parts -/

/-- Items side by side; one item needs no union. -/
def ClassSet.ofItems : List ClassSet → ClassSet
  | [] => .empty
  | [item] => item
  | items => .union items

/-- Items after each other; one item needs no concatenation. -/
def Ast.ofItems : List Ast → Ast
  | [] => .empty
  | [item] => item
  | items => .concat items

/-- Branches to choose from; one branch needs no alternation. -/
def Ast.ofBranches : List Ast → Ast
  | [] => .empty
  | [branch] => branch
  | branches => .alternation branches

/-! ## Depth -/

mutual

/-- How deep the parts of a class are nested. -/
def ClassSet.depth : ClassSet → Nat
  | .bracketed _ set => set.depth + 1
  | .union items => ClassSet.depthOfAll items + 1
  | .binary _ left right => max left.depth right.depth + 1
  | .empty => 0
  | .literal _ => 0
  | .range _ _ => 0
  | .ascii _ _ => 0
  | .property _ _ => 0
  | .shorthand _ _ => 0

/-- The depth of the deepest item. -/
def ClassSet.depthOfAll : List ClassSet → Nat
  | [] => 0
  | item :: rest => max item.depth (ClassSet.depthOfAll rest)

end

mutual

/-- How deep the parts of an expression are nested. -/
def Ast.depth : Ast → Nat
  | .bracketed _ set => set.depth + 1
  | .repetition _ _ _ body => body.depth + 1
  | .group _ _ body => body.depth + 1
  | .alternation branches => Ast.depthOfAll branches + 1
  | .concat items => Ast.depthOfAll items + 1
  | .empty => 0
  | .flags _ => 0
  | .literal _ => 0
  | .dot => 0
  | .anchor _ => 0
  | .property _ _ => 0
  | .shorthand _ _ => 0

/-- The depth of the deepest part. -/
def Ast.depthOfAll : List Ast → Nat
  | [] => 0
  | item :: rest => max item.depth (Ast.depthOfAll rest)

end

end PathRouting.Regex
