import PathRouting.Text.Quotation
set_option autoImplicit false

/-!
# Quoted texts can be read back

A quoted text gives away the text that was quoted.  `readSpelling` reads the spelling of one
character and leaves what comes behind it (`readSpelling_spelling`); a code point is read up to the
closing brace, which is no digit (`ne_brace_of_mem_toDigits`), and its digits stand for it
(`numeral_toDigits`).  So no two texts are quoted alike (`quote_injective`).  A text of plain
characters stands between its quotes as it is (`quote_of_plain`).
-/

namespace PathRouting.Text

/-! ## Digits -/

theorem digit?_digitChar {value : Nat} (hvalue : value < 16) :
    digit? 16 (Nat.digitChar value) = some value :=
  (by decide : ∀ value < 16, digit? 16 (Nat.digitChar value) = some value) value hvalue

theorem numeral_concat (base : Nat) (digits : List Char) (last : Char) :
    numeral base (digits ++ [last]) = numeral base digits * base + (digit? base last).getD 0 := by
  unfold numeral
  rw [List.foldl_append, List.foldl_cons, List.foldl_nil]

/-- The hexadecimal digits of a number stand for it. -/
theorem numeral_toDigits (number : Nat) : numeral 16 (Nat.toDigits 16 number) = number := by
  induction number using Nat.strongRecOn with
  | ind number ih =>
    by_cases hsmall : number < 16
    · rw [Nat.toDigits_of_lt_base hsmall, ← List.nil_append [Nat.digitChar number], numeral_concat,
        digit?_digitChar hsmall]
      exact Nat.zero_add number
    · have hmod : number % 16 < 16 := Nat.mod_lt number (by omega)
      rw [Nat.toDigits_of_base_le (by omega) (by omega), numeral_concat,
        ih (number / 16) (by omega), digit?_digitChar hmod, Option.getD_some]
      omega

theorem isDigit_of_mem_toDigits {number : Nat} {digit : Char}
    (hdigit : digit ∈ Nat.toDigits 16 number) : isDigit 16 digit = true := by
  induction number using Nat.strongRecOn with
  | ind number ih =>
    by_cases hsmall : number < 16
    · rw [Nat.toDigits_of_lt_base hsmall, List.mem_singleton] at hdigit
      rw [hdigit, isDigit, digit?_digitChar hsmall]
      rfl
    · rw [Nat.toDigits_of_base_le (by omega) (by omega), List.mem_append, List.mem_singleton]
        at hdigit
      rcases hdigit with hfront | hlast
      · exact ih (number / 16) (by omega) hfront
      · rw [hlast, isDigit, digit?_digitChar (Nat.mod_lt number (by omega))]
        rfl

theorem ne_brace_of_mem_toDigits {number : Nat} {digit : Char}
    (hdigit : digit ∈ Nat.toDigits 16 number) : digit ≠ '\x7d' := by
  rintro rfl
  cases isDigit_of_mem_toDigits hdigit

theorem cut_append {separator : Char} {before : List Char}
    (hbefore : ∀ char ∈ before, char ≠ separator) (after : List Char) :
    cut separator (before ++ separator :: after) = (before, after) := by
  have hpasses : ∀ char ∈ before, decide (char ≠ separator) = true := by simpa using hbefore
  unfold cut
  rw [List.takeWhile_append_of_pos hpasses, List.dropWhile_append_of_pos hpasses]
  simp

theorem scalar?_toNat (char : Char) : scalar? char.toNat = some char :=
  dif_pos char.valid

/-! ## Spellings -/

/-- Reads the spelling of one character. -/
def readSpelling : List Char → Option (Char × List Char)
  | [] => none
  | '\\' :: 'u' :: '\x7b' :: text =>
    let (digits, rest) := cut '\x7d' text
    (scalar? (numeral 16 digits)).map (·, rest)
  | '\\' :: letter :: rest =>
    (shortSpellings.find? fun short => short.2 = letter).map fun short => (short.1, rest)
  | char :: rest => some (char, rest)

theorem readSpelling_short {char letter : Char}
    (hshort : shortSpellings.lookup char = some letter) (rest : List Char) :
    readSpelling ('\\' :: letter :: rest) = some (char, rest) := by
  have hmem : (char, letter) ∈ shortSpellings := by
    obtain ⟨before, after, hlist, -⟩ := List.lookup_eq_some_iff.mp hshort
    simp [hlist]
  simp only [shortSpellings, List.mem_cons, List.not_mem_nil, or_false, Prod.mk.injEq] at hmem
  rcases hmem with ⟨rfl, rfl⟩ | ⟨rfl, rfl⟩ | ⟨rfl, rfl⟩ | ⟨rfl, rfl⟩ | ⟨rfl, rfl⟩ | ⟨rfl, rfl⟩
  all_goals rfl

theorem readSpelling_plain {char : Char} (hplain : char ≠ '\\') (rest : List Char) :
    readSpelling (char :: rest) = some (char, rest) := by
  unfold readSpelling
  split
  · next heq => cases heq
  · next heq => exact absurd (List.head_eq_of_cons_eq heq) hplain
  · next heq => exact absurd (List.head_eq_of_cons_eq heq) hplain
  · next heq =>
    obtain ⟨rfl, rfl⟩ := List.cons.inj heq
    rfl

theorem readSpelling_code (char : Char) (rest : List Char) :
    readSpelling ('\\' :: 'u' :: '\x7b' :: (Nat.toDigits 16 char.toNat ++ '\x7d' :: rest)) =
      some (char, rest) := by
  simp only [readSpelling, cut_append fun digit => ne_brace_of_mem_toDigits, numeral_toDigits,
    scalar?_toNat, Option.map_some]

/-- The spelling of a character is read back, and what comes behind it is left. -/
theorem readSpelling_spelling (char : Char) (rest : List Char) :
    readSpelling (spelling char ++ rest) = some (char, rest) := by
  unfold spelling
  cases hshort : shortSpellings.lookup char with
  | some letter => exact readSpelling_short hshort rest
  | none =>
    simp only
    split
    · refine readSpelling_plain (fun hbackslash => ?_) rest
      rw [hbackslash] at hshort
      cases hshort
    · rw [List.append_assoc, List.append_assoc]
      exact readSpelling_code char rest

theorem flatMap_spelling_injective {text other : List Char}
    (hsame : text.flatMap spelling = other.flatMap spelling) : text = other := by
  have hsome : ∀ (char : Char) (rest : List Char), spelling char ++ rest ≠ [] := by
    intro char rest hnil
    have hread := readSpelling_spelling char rest
    rw [hnil] at hread
    cases hread
  induction text generalizing other with
  | nil =>
    cases other with
    | nil => rfl
    | cons char rest => exact absurd hsame.symm (hsome char _)
  | cons char rest ih =>
    cases other with
    | nil => exact absurd hsame (hsome char _)
    | cons char' rest' =>
      have hread := congrArg readSpelling hsame
      rw [List.flatMap_cons, List.flatMap_cons, readSpelling_spelling, readSpelling_spelling]
        at hread
      obtain ⟨rfl, hrest⟩ := Prod.mk.inj (Option.some.inj hread)
      rw [ih hrest]

/-! ## Quotes -/

/-- No two texts are quoted alike. -/
theorem quote_injective {text other : String} (hsame : quote text = quote other) :
    text = other := by
  have hinner := List.append_cancel_right (List.tail_eq_of_cons_eq (String.ofList_inj.mp hsame))
  exact String.toList_inj.mp (flatMap_spelling_injective hinner)

/-- The characters that stand between quotes as they are, of those that are ASCII. -/
def IsPlain (char : Char) : Prop :=
  ' ' ≤ char ∧ char ≤ '~' ∧ char ≠ '"' ∧ char ≠ '\\'

theorem spelling_of_plain {char : Char} (hplain : IsPlain char) : spelling char = [char] := by
  obtain ⟨hlow, hhigh, hquote, hbackslash⟩ := hplain
  have hleast : 0x20 ≤ char.toNat := Char.le_def.mp hlow
  have hlast : char.toNat ≤ 0x7E := Char.le_def.mp hhigh
  have hcontrol : ∀ control : Char, control.toNat < 0x20 → char ≠ control := by
    rintro control hcontrol rfl
    omega
  have hshort : shortSpellings.lookup char = none := by
    simp [shortSpellings, List.lookup_eq_none_iff, hquote, hbackslash, hcontrol]
  have hprintable : isPrintable char = true := by
    rw [isPrintable, if_neg (by omega), if_pos (by omega)]
  rw [spelling, hshort]
  exact if_pos hprintable

theorem flatMap_spelling_of_plain {text : List Char} (hplain : ∀ char ∈ text, IsPlain char) :
    text.flatMap spelling = text := by
  induction text with
  | nil => rfl
  | cons char rest ih =>
    rw [List.flatMap_cons, spelling_of_plain (hplain char List.mem_cons_self),
      ih fun other hother => hplain other (List.mem_cons_of_mem _ hother)]
    rfl

/-- A text of plain characters stands between its quotes as it is. -/
theorem quote_of_plain {text : String} (hplain : ∀ char ∈ text.toList, IsPlain char) :
    quote text = "\"" ++ text ++ "\"" := by
  rw [quote, flatMap_spelling_of_plain hplain]
  exact String.ext (by simp)

end PathRouting.Text
