import PathRouting.Unicode.DerivedProperty
set_option autoImplicit false

/-!
# Quoted texts

A text that is named in a message stands there between double quotes.  Inside the quotes, a
backslash begins the spelling of a character that is not shown as it is: the quote and the backslash
themselves, and the characters that have no shape of their own or would change that of the one
before.
-/

namespace PathRouting.Text

open Unicode (CodeSet categoriesUnion graphemeExtend)

/-- The code points whose characters are not shown.  The space, which is in one of the categories,
is told apart from the others by `isPrintable`. -/
def hidden : CodeSet :=
  (categoriesUnion ["Cc", "Cf", "Co", "Cn", "Zl", "Zp", "Zs"]).union graphemeExtend

/-- Is the character shown as it is? -/
def isPrintable (char : Char) : Bool :=
  if char.toNat < 0x20 then false
  else if char.toNat < 0x7F then true
  else !hidden.hasChar char

/-- The characters that are spelt by a backslash and a letter, each with its letter. -/
def shortSpellings : List (Char × Char) :=
  [('\x00', '0'), ('\t', 't'), ('\n', 'n'), ('\r', 'r'), ('"', '"'), ('\\', '\\')]

/-- How a character is spelt between quotes. -/
def spelling (char : Char) : List Char :=
  match shortSpellings.lookup char with
  | some letter => ['\\', letter]
  | none =>
    if isPrintable char then [char]
    else ['\\', 'u', '\x7b'] ++ Nat.toDigits 16 char.toNat ++ ['\x7d']

/-- A text between double quotes. -/
def quote (text : String) : String :=
  String.ofList ('"' :: text.toList.flatMap spelling ++ ['"'])

end PathRouting.Text
