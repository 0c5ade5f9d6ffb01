import PathRouting.Proofs.Decoding
import PathRouting.Proofs.Quotation
set_option autoImplicit false

/-!
# Files and texts

Loading a file looks for white space of any kind before it reads the text, and the reader of
documents knows four white characters only.  The two notions do not get into each other's way: no
key begins with white space, so a blank text holds no line (`readLines_of_white`) and is the empty
document when it is a document at all (`Toml.blankIsEmpty`), which gives the default options as
well.  So a file has the options that its text has, and fails to load exactly when its text fails
and is not blank (`load_agrees`).
-/

namespace PathRouting

open Unicode (isWhiteSpace isBlank)

namespace Unicode

theorem isBlank_iff {text : String} :
    isBlank text = true ↔ ∀ char ∈ text.toList, isWhiteSpace char = true :=
  List.all_eq_true

theorem isBlank_eq_false_iff {text : String} :
    isBlank text = false ↔ ∃ char ∈ text.toList, isWhiteSpace char = false := by
  simp [isBlank]

theorem ne_of_isWhiteSpace {char other : Char} (hwhite : isWhiteSpace char = true)
    (hother : isWhiteSpace other = false) : char ≠ other := by
  rintro rfl
  rw [hwhite] at hother
  cases hother

end Unicode

namespace Toml

open Unicode (ne_of_isWhiteSpace)

/-! ## White space in documents -/

theorem isAlphanum_iff (char : Char) :
    char.isAlphanum = true ↔ (48 ≤ char.toNat ∧ char.toNat ≤ 57) ∨
      (65 ≤ char.toNat ∧ char.toNat ≤ 90) ∨ (97 ≤ char.toNat ∧ char.toNat ≤ 122) := by
  have hranges : char.isAlphanum =
      (decide (char.val ≥ 'A'.val ∧ char.val ≤ 'Z'.val) ||
        (decide (char.val ≥ 'a'.val) && decide (char.val ≤ 'z'.val)) ||
        (decide (char.val ≥ '0'.val) && decide (char.val ≤ '9'.val))) := rfl
  have hval : char.val.toNat = char.toNat := rfl
  rw [hranges]
  simp only [Bool.or_eq_true, Bool.and_eq_true, decide_eq_true_eq, ge_iff_le,
    UInt32.le_iff_toNat_le, hval]
  exact or_comm

theorem isKeyChar_of_isWhiteSpace {char : Char} (hwhite : isWhiteSpace char = true) :
    isKeyChar char = false := by
  have hunder : char ≠ '_' := ne_of_isWhiteSpace hwhite rfl
  have hdash : char ≠ '-' := ne_of_isWhiteSpace hwhite rfl
  have hword : char.isAlphanum = false := by
    simp only [isWhiteSpace, Bool.or_eq_true, Bool.and_eq_true, decide_eq_true_eq] at hwhite
    rw [Bool.eq_false_iff, ne_eq, isAlphanum_iff]
    omega
  simp [isKeyChar, hword, hunder, hdash]

/-- No line begins with white space that is not skipped. -/
theorem readLine_of_white {char : Char} (hwhite : isWhiteSpace char = true)
    (hblank : Toml.isBlank char = false) (rest : List Char) : readLine (char :: rest) = none := by
  have hbracket : char ≠ '[' := ne_of_isWhiteSpace hwhite rfl
  have hdouble : char ≠ '"' := ne_of_isWhiteSpace hwhite rfl
  have hsingle : char ≠ '\'' := ne_of_isWhiteSpace hwhite rfl
  have hkey : isKeyChar char = false := isKeyChar_of_isWhiteSpace hwhite
  -- A key begins with a quote or with a character of its own, and neither is white.
  have hpart : readKeyPart (char :: rest) = none := by
    simp [readKeyPart, hdouble, hsingle, hkey]
  have hstart : dropBlanks (char :: rest) = char :: rest := by
    simp [dropBlanks, hblank]
  have hparts : ∀ count, readKeyParts count (char :: rest) = none := by
    intro count
    cases count with
    | zero => rfl
    | succ count => rw [readKeyParts, hstart, hpart, Option.bind_none]
  have hpair : readPair (readValue nestingLimit) (char :: rest) = none := by
    rw [readPair, readKey, hparts, Option.bind_none, Option.bind_none]
  unfold readLine
  split
  · next hlist => exact absurd (List.head_eq_of_cons_eq hlist) hbracket
  · next hlist => exact absurd (List.head_eq_of_cons_eq hlist) hbracket
  · rw [hpair, Option.map_none]

/-- What is left of white space when all that may be skipped is gone. -/
theorem dropFiller_of_white {text : List Char} (htext : ∀ char ∈ text, isWhiteSpace char = true) :
    dropFiller false text = [] ∨ ∃ char rest, dropFiller false text = char :: rest ∧
      isWhiteSpace char = true ∧ Toml.isBlank char = false := by
  induction text with
  | nil => exact Or.inl rfl
  | cons char rest ih =>
    have hwhite : isWhiteSpace char = true := htext char List.mem_cons_self
    have hrest := ih fun other hother => htext other (List.mem_cons_of_mem _ hother)
    -- White space begins no comment, so the flag stays down.
    have hcomment : char ≠ '#' := ne_of_isWhiteSpace hwhite rfl
    rw [dropFiller, Bool.false_and, if_neg Bool.false_ne_true, Bool.not_false, Bool.true_and,
      Bool.true_and]
    split
    · exact hrest
    · split
      · exact hrest
      · next hblank =>
        rw [if_neg (by simpa using hcomment)]
        exact Or.inr ⟨char, rest, rfl, hwhite, by simpa using hblank⟩

/-- White space holds no line. -/
theorem readLines_of_white {rounds : Nat} {text : List Char}
    (htext : ∀ char ∈ text, isWhiteSpace char = true) {lines : List Line}
    (hread : readLines rounds text = some lines) : lines = [] := by
  cases rounds with
  | zero => cases hread
  | succ rounds =>
    obtain hall | ⟨char, rest, hleft, hwhite, hblank⟩ := dropFiller_of_white htext
    · rw [readLines, hall] at hread
      exact (Option.some.inj hread).symm
    · simp only [readLines, hleft, readLine_of_white hwhite hblank, Option.bind_none] at hread
      cases hread

/-- The mark at the beginning of a text is not white space. -/
theorem dropMark_of_white {text : List Char} (htext : ∀ char ∈ text, isWhiteSpace char = true) :
    dropMark text = text := by
  unfold dropMark
  split
  · next rest =>
    exact absurd rfl (ne_of_isWhiteSpace (htext '\ufeff' List.mem_cons_self) rfl)
  · rfl

/-- A document that holds white space alone is the empty document. -/
theorem blankIsEmpty : documentReader.BlankIsEmpty := by
  intro text document hblank hparse
  have htext := Unicode.isBlank_iff.mp hblank
  obtain ⟨lines, hlines, hdraft⟩ := Option.bind_eq_some_iff.mp hparse
  rw [dropMark_of_white htext] at hlines
  rw [readLines_of_white htext hlines] at hdraft
  cases hdraft
  rfl

end Toml

/-! ## Files -/

namespace FileContent

/-- The bytes of a text are read as this text. -/
theorem ofBytes_eq_text_iff {bytes : List UInt8} {text : String} :
    ofBytes bytes = .text text ↔ text.toByteArray = ⟨bytes.toArray⟩ := by
  unfold ofBytes String.fromUTF8?
  by_cases hvalid : (ByteArray.mk bytes.toArray).IsValidUTF8
  · simp only [hvalid, dif_pos, FileContent.text.injEq, ← String.toByteArray_inj]
    exact eq_comm
  · simp only [hvalid, dif_neg, not_false_eq_true, reduceCtorEq, false_iff]
    intro hbytes
    exact hvalid (hbytes ▸ text.isValidUTF8)

/-- Bytes of no text cannot be read. -/
theorem ofBytes_eq_unreadable_iff {bytes : List UInt8} :
    ofBytes bytes = .unreadable ↔ ∀ text : String, text.toByteArray ≠ ⟨bytes.toArray⟩ := by
  constructor
  · intro hbytes text htext
    rw [ofBytes_eq_text_iff.mpr htext] at hbytes
    cases hbytes
  · intro hnone
    cases hbytes : ofBytes bytes with
    | missing =>
      unfold ofBytes at hbytes
      split at hbytes <;> cases hbytes
    | unreadable => rfl
    | text text => exact absurd (ofBytes_eq_text_iff.mp hbytes) (hnone text)

end FileContent

namespace Config

section Reader

variable {reader : DocumentReader} {text : String}

theorem load_of_isBlank (path : String) (hblank : isBlank text = true) :
    load reader path (.text text) = .ok {} := by
  rw [load, if_pos hblank]

theorem load_of_failed (path : String) (hsolid : isBlank text = false) {cause : ConfigError}
    (hcause : ofText reader text = .error cause) :
    load reader path (.text text) = .error (.malformedFile path) := by
  rw [load, if_neg (by simp [hsolid])]
  simp only [hcause]

variable (hempty : reader.BlankIsEmpty)
include hempty

/-- A blank text that is a document has the default options. -/
theorem eq_default_of_isBlank (hblank : isBlank text = true) {config : Config}
    (hconfig : ofText reader text = .ok config) : config = {} := by
  obtain ⟨document, hparse, hdocument⟩ := ofText_eq_ok_iff.mp hconfig
  rw [hempty hblank hparse] at hdocument
  cases hdocument
  rfl

/-- What the reader takes is what the file gives, blank or not. -/
theorem load_of_ofText (path : String) {config : Config}
    (hconfig : ofText reader text = .ok config) : load reader path (.text text) = .ok config := by
  cases hblank : isBlank text with
  | true => rw [load_of_isBlank path hblank, eq_default_of_isBlank hempty hblank hconfig]
  | false =>
    rw [load, if_neg (by simp [hblank])]
    simp only [hconfig]

theorem load_eq_error_iff {path : String} {error : ConfigError} :
    load reader path (.text text) = .error error ↔
      isBlank text = false ∧ (∃ cause, ofText reader text = .error cause) ∧
        error = .malformedFile path := by
  cases hblank : isBlank text with
  | true => simp [load_of_isBlank path hblank]
  | false =>
    cases htext : ofText reader text with
    | ok config => simp [load_of_ofText hempty path htext]
    | error cause => simp [load_of_failed path hblank htext, eq_comm]

end Reader

/-- Nothing at the path gives the default options, and what cannot be read as text fails for this
reason alone; bytes can be read when they are those of a text.  A file whose text has options gives
these.  It fails when its text fails and holds more than white space, and then for the reason that
the text has, under one that names the file.  So a file succeeds where its text fails in one case
only, that of a blank text, which gives the default options.  The name of a file in these reasons is
its path in quotes: as it is, if it is plain, and such that no other path has this name. -/
theorem load_agrees (reader : DocumentReader) (hempty : reader.BlankIsEmpty) (path : String) :
    load reader path .missing = .ok {} ∧
    (∃ error, load reader path .unreadable = .error error ∧
      error.context = ["Failed to read config file: " ++ Text.quote path]) ∧
    (∀ bytes (text : String),
      FileContent.ofBytes bytes = .text text ↔ text.toByteArray = ⟨bytes.toArray⟩) ∧
    (∀ bytes, FileContent.ofBytes bytes = .unreadable ↔
      ∀ text : String, text.toByteArray ≠ ⟨bytes.toArray⟩) ∧
    (∀ text,
      (∀ config, ofText reader text = .ok config → load reader path (.text text) = .ok config) ∧
      ((∃ error, load reader path (.text text) = .error error) ↔
        (∃ char ∈ text.toList, isWhiteSpace char = false) ∧
          ∃ cause, ofText reader text = .error cause) ∧
      (∀ error cause, load reader path (.text text) = .error error →
        ofText reader text = .error cause →
        error.context = ("Failed to parse config file: " ++ Text.quote path) :: cause.context) ∧
      (¬ ((∃ config, load reader path (.text text) = .ok config) ↔
          ∃ config, ofText reader text = .ok config) ↔
        (∀ char ∈ text.toList, isWhiteSpace char = true) ∧
          ∃ cause, ofText reader text = .error cause) ∧
      ((∀ char ∈ text.toList, isWhiteSpace char = true) →
        load reader path (.text text) = .ok {})) ∧
    ((∀ char ∈ path.toList, ' ' ≤ char ∧ char ≤ '~' ∧ char ≠ '"' ∧ char ≠ '\\') →
      Text.quote path = "\"" ++ path ++ "\"") ∧
    ∀ other, Text.quote other = Text.quote path → other = path := by
  refine ⟨rfl, ⟨.unreadable path, rfl, rfl⟩, fun bytes text => FileContent.ofBytes_eq_text_iff,
    fun bytes => FileContent.ofBytes_eq_unreadable_iff,
    fun text => ⟨fun config => load_of_ofText hempty path, ?_, ?_, ?_,
      fun hwhite => load_of_isBlank path (Unicode.isBlank_iff.mpr hwhite)⟩,
    Text.quote_of_plain, fun other => Text.quote_injective⟩
  · rw [← Unicode.isBlank_eq_false_iff]
    simp [load_eq_error_iff hempty]
  · intro error cause hload hcause
    obtain ⟨-, -, rfl⟩ := (load_eq_error_iff hempty).mp hload
    rw [eq_malformed_of_ofText hcause]
    rfl
  · rw [← Unicode.isBlank_iff]
    cases htext : ofText reader text with
    | ok config => simp [load_of_ofText hempty path htext]
    | error cause =>
      cases hblank : isBlank text with
      | true => simp [load_of_isBlank path hblank]
      | false => simp [load_of_failed path hblank htext]

/-- A no-break space is blank and no document; a name in quotes is. -/
theorem load_agrees_noBreakSpace :
    Toml.documentReader.BlankIsEmpty ∧
    (∃ cause, ofText Toml.documentReader "\u00a0" = .error cause) ∧
    load Toml.documentReader "etc/router.toml" (.text "\u00a0") = .ok {} ∧
    ∃ error, load Toml.documentReader "etc/router.toml" (.text "router = 1") = .error error ∧
      error.context = ["Failed to parse config file: \"etc/router.toml\"",
        "Failed to parse router configuration"] := by
  obtain ⟨-, -, -, -, htexts, hplain, -⟩ :=
    load_agrees Toml.documentReader Toml.blankIsEmpty "etc/router.toml"
  have hquoted := hplain (by simp)
  obtain ⟨-, -, -, -, hwhite⟩ := htexts "\u00a0"
  obtain ⟨-, hfails, hcontext, -⟩ := htexts "router = 1"
  have hcause : ofText Toml.documentReader "router = 1" = .error .malformed := rfl
  obtain ⟨error, hload⟩ := hfails.mpr ⟨⟨'r', by simp, rfl⟩, .malformed, hcause⟩
  refine ⟨Toml.blankIsEmpty, ⟨.malformed, rfl⟩, hwhite (Unicode.isBlank_iff.mp rfl), error, hload,
    ?_⟩
  rw [hcontext error .malformed hload hcause, hquoted]
  rfl

end Config

end PathRouting
