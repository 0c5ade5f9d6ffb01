import PathRouting.Unicode.WhiteSpace
set_option autoImplicit false

/-!
# Blanks in verbose expressions

In a verbose expression white space does not count, and neither does a comment, from `#` to the end
of its line.  In any other expression every character counts.
-/

namespace PathRouting.Regex

open Unicode (isWhiteSpace)

/-- Skips white space and comments; the flag tells whether the text starts inside a comment. -/
def skipBlanks : Bool → List Char → List Char
  | _, [] => []
  | true, char :: rest => skipBlanks (char ≠ '\n') rest
  | false, char :: rest =>
    if isWhiteSpace char then skipBlanks false rest
    else if char = '#' then skipBlanks true rest
    else char :: rest

/-- Skips what does not count. -/
def skip (verbose : Bool) (text : List Char) : List Char :=
  if verbose then skipBlanks false text else text

theorem length_skipBlanks_le (inComment : Bool) (text : List Char) :
    (skipBlanks inComment text).length ≤ text.length := by
  induction text generalizing inComment with
  | nil => cases inComment <;> simp [skipBlanks]
  | cons char rest ih =>
    cases inComment with
    | true => exact Nat.le_succ_of_le (ih _)
    | false =>
      simp only [skipBlanks]
      split
      · exact Nat.le_succ_of_le (ih _)
      · split
        · exact Nat.le_succ_of_le (ih _)
        · exact Nat.le_refl _

theorem length_skip_le (verbose : Bool) (text : List Char) :
    (skip verbose text).length ≤ text.length := by
  cases verbose with
  | true => exact length_skipBlanks_le false text
  | false => exact Nat.le_refl _

/-- The longest run of characters of one kind, with blanks skipped after each, and what follows. -/
def takeSpaced (verbose : Bool) (wanted : Char → Bool) : List Char → List Char × List Char
  | [] => ([], [])
  | char :: rest =>
    if wanted char then
      let (chars, left) := takeSpaced verbose wanted (skip verbose rest)
      (char :: chars, left)
    else ([], char :: rest)
termination_by text => text.length
decreasing_by
  have := length_skip_le verbose rest
  simp only [List.length_cons]
  omega

/-- The next character that a hyphen in a class looks at to see whether it makes a range.  A comment
sign is passed over once, but not the comment behind it. -/
def peekSpaced (verbose : Bool) (text : List Char) : Option Char :=
  if verbose then
    let afterBlanks := text.dropWhile isWhiteSpace
    let afterSign :=
      match afterBlanks with
      | '#' :: rest => rest.dropWhile isWhiteSpace
      | other => other
    afterSign.head? <|> text.head?
  else text.head?

end PathRouting.Regex
