set_option autoImplicit false

/-!
# White space

The characters that the Unicode standard counts as white space, and blank texts, which hold nothing
else.
-/

namespace PathRouting.Unicode

/-- Is the character white space? -/
def isWhiteSpace (char : Char) : Bool :=
  let code := char.toNat
  (0x09 ≤ code && code ≤ 0x0D) || code = 0x20 || code = 0x85 || code = 0xA0 || code = 0x1680
    || (0x2000 ≤ code && code ≤ 0x200A) || code = 0x2028 || code = 0x2029 || code = 0x202F
    || code = 0x205F || code = 0x3000

/-- Does a text hold nothing but white space? -/
def isBlank (text : String) : Bool :=
  text.toList.all isWhiteSpace

end PathRouting.Unicode
