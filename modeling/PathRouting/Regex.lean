import PathRouting.Constraint
import PathRouting.Regex.Meaning
import PathRouting.Regex.Moves
import PathRouting.Regex.Reader
import PathRouting.Regex.Size
import PathRouting.Regex.TextSearch
set_option autoImplicit false

/-!
# Regular expressions as segment constraints

A regular expression accepts a segment when it matches somewhere in it; an expression that is to
match the whole segment says so with `^` and `$`.  An expression that does not compile is refused
without a word.
-/

namespace PathRouting

/-- A compiled regular expression. -/
structure Regex where
  /-- what it matches -/
  expr : Regex.Expr
  deriving Repr, Inhabited

namespace Regex

/-- How deep the parts of an expression may be nested. -/
def depthLimit : Nat := 250

/-- Compiles an expression, which must be well formed, nested no deeper than the limit, and
meaningful. Unless it is a search for texts, it must not be too large either. -/
def compile? (source : String) : Option Regex :=
  (Ast.read? source).bind fun ast =>
    if ast.depth ≤ depthLimit then
      (ast.expr? .start).bind fun (expr, _) =>
        if expr.fits || expr.isTextSearch then some ⟨expr⟩ else none
    else none

/-- Does the expression match somewhere in the text? -/
def accepts (regex : Regex) (text : String) : Bool :=
  regex.expr.matchesIn text

end Regex

instance : Constraint Regex where
  compile source :=
    match Regex.compile? source with
    | some regex => .ok regex
    | none => .error ""
  accepts := Regex.accepts

end PathRouting
