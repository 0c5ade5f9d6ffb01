set_option autoImplicit false

/-!
# Segment constraints

A `:name(source)` segment accepts the texts that its expression accepts.  The routing theory asks
only two things of a language of expressions, which this class holds: that a source text either
compiles or is refused in words, and that a compiled expression accepts or refuses a text.  Every
statement about routing trees is made for all such languages at once.
-/

namespace PathRouting

/-- A language of expressions that constrain one segment. -/
class Constraint (E : Type) where
  /-- the expression that a source text stands for, or what is wrong with the text, in words -/
  compile : String → Except String E
  /-- does the expression accept the text? -/
  accepts : E → String → Bool

end PathRouting
