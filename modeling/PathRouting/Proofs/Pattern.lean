import PathRouting.Path
import PathRouting.Segment
set_option autoImplicit false

/-!
# Patterns and their segments

A route pattern and the list of its segments determine each other.  `isSegment_of_patternSegments`
says what a segment may be, `render_of_patternSegments` that writing the segments gives the pattern
back, `patternSegments_render` that reading what was written gives the segments back, and
`slashed_injective` that a list of segments can be told from its text.  A segment and its
text determine each other too (`Segment.text_ofText`).
-/

namespace PathRouting

namespace Text

variable {separator : Char}

/-! ## Pieces -/

theorem pieces_ne_nil (text : List Char) : pieces separator text ≠ [] := by
  cases text with
  | nil => simp [pieces]
  | cons char rest =>
    unfold pieces
    split
    · simp
    · split <;> simp

theorem pieces_cons_self (rest : List Char) :
    pieces separator (separator :: rest) = [] :: pieces separator rest := by
  simp [pieces]

/-- A character that is no separator joins the first piece. -/
theorem pieces_cons_of_ne {char : Char} (hne : char ≠ separator) (rest : List Char) :
    ∃ piece others, pieces separator rest = piece :: others ∧
      pieces separator (char :: rest) = (char :: piece) :: others := by
  obtain ⟨piece, others, hpieces⟩ :=
    List.exists_cons_of_ne_nil (pieces_ne_nil rest)
  exact ⟨piece, others, hpieces, by simp [pieces, hne, hpieces]⟩

theorem separator_not_mem_of_mem_pieces {text piece : List Char}
    (hpiece : piece ∈ pieces separator text) : separator ∉ piece := by
  induction text generalizing piece with
  | nil =>
    have hnil : piece = [] := List.mem_singleton.mp hpiece
    simp [hnil]
  | cons char rest ih =>
    by_cases hsame : char = separator
    · subst hsame
      rw [pieces_cons_self] at hpiece
      cases List.mem_cons.mp hpiece with
      | inl hfirst => simp [hfirst]
      | inr hlater => exact ih hlater
    · obtain ⟨first, others, hrest, hall⟩ := pieces_cons_of_ne hsame rest
      rw [hall] at hpiece
      cases List.mem_cons.mp hpiece with
      | inl hfirst =>
        have hnot : separator ∉ first := ih (hrest ▸ List.mem_cons_self)
        rw [hfirst, List.mem_cons, not_or]
        exact ⟨Ne.symm hsame, hnot⟩
      | inr hlater => exact ih (hrest ▸ List.mem_cons_of_mem _ hlater)

/-- The pieces of a text, each after a separator, are the text after a separator. -/
theorem flatMap_pieces (text : List Char) :
    (pieces separator text).flatMap (separator :: ·) = separator :: text := by
  induction text with
  | nil => simp [pieces]
  | cons char rest ih =>
    by_cases hsame : char = separator
    · subst hsame
      rw [pieces_cons_self, List.flatMap_cons, ih, List.singleton_append]
    · obtain ⟨first, others, hrest, hall⟩ := pieces_cons_of_ne hsame rest
      rw [hrest, List.flatMap_cons, List.cons_append] at ih
      rw [hall, List.flatMap_cons, List.cons_append, List.cons_append, List.tail_eq_of_cons_eq ih]

theorem pieces_of_separator_not_mem {word : List Char} (hword : separator ∉ word) :
    pieces separator word = [word] := by
  induction word with
  | nil => rfl
  | cons char rest ih =>
    rw [List.mem_cons, not_or] at hword
    simp [pieces, Ne.symm hword.1, ih hword.2]

theorem pieces_append_separator {word : List Char} (hword : separator ∉ word)
    (rest : List Char) :
    pieces separator (word ++ separator :: rest) = word :: pieces separator rest := by
  induction word with
  | nil => exact pieces_cons_self rest
  | cons char word ih =>
    rw [List.mem_cons, not_or] at hword
    simp [pieces, Ne.symm hword.1, ih hword.2]

/-- Words without separators are the pieces of the text that they make up. -/
theorem pieces_flatMap {words : List (List Char)} (hwords : ∀ word ∈ words, separator ∉ word) :
    pieces separator (words.flatMap (separator :: ·)) = [] :: words := by
  -- The word in front of the first separator grows along the induction.
  suffices hlead : ∀ lead : List Char, separator ∉ lead →
      pieces separator (lead ++ words.flatMap (separator :: ·)) = lead :: words by
    simpa using hlead [] (by simp)
  induction words with
  | nil =>
    intro lead hlead
    rw [List.flatMap_nil, List.append_nil, pieces_of_separator_not_mem hlead]
  | cons word others ih =>
    intro lead hlead
    rw [List.flatMap_cons, List.cons_append, pieces_append_separator hlead,
      ih (fun other hother => hwords other (List.mem_cons_of_mem _ hother)) word
        (hwords word List.mem_cons_self)]

/-! ## Ends of texts -/

/-- A text ends with a mark of one character when this is its last one. -/
theorem exists_eq_append_iff {mark : String} {char : Char} (hmark : mark.toList = [char])
    (text : String) : (∃ front, text = front ++ mark) ↔ text.toList.getLast? = some char := by
  constructor
  · rintro ⟨front, rfl⟩
    simp [hmark]
  · intro hlast
    obtain ⟨front, hfront⟩ := List.getLast?_eq_some_iff.mp hlast
    exact ⟨String.ofList front, String.ext (by simp [hfront, hmark])⟩

end Text

namespace Path

open Text

/-! ## What a segment may be -/

/-- A text that can be one segment of a pattern. -/
def IsSegment (text : String) : Prop :=
  text ≠ "" ∧ '/' ∉ text.toList

/-- In a text without two slashes in a row and without one at its end, only the first piece can be
empty. -/
theorem nil_not_mem_tail_pieces {text : List Char} (hdouble : hasEmptySegment text = false)
    (hlast : text.getLast? ≠ some '/') : [] ∉ (pieces '/' text).tail := by
  induction text with
  | nil => simp [pieces]
  | cons char rest ih =>
    simp only [hasEmptySegment, Bool.or_eq_false_iff, Bool.and_eq_false_iff,
      decide_eq_false_iff_not] at hdouble
    obtain ⟨hhere, hrest⟩ := hdouble
    cases rest with
    | nil =>
      have hchar : char ≠ '/' := by simpa using hlast
      simp [pieces, hchar]
    | cons next others =>
      have htail := ih hrest (by simpa [List.getLast?_cons_cons] using hlast)
      by_cases hchar : char = '/'
      · subst hchar
        have hnext : next ≠ '/' := by simpa using hhere
        obtain ⟨piece, later, -, hpieces⟩ := pieces_cons_of_ne hnext others
        rw [pieces_cons_self, List.tail_cons, hpieces, List.mem_cons, not_or]
        rw [hpieces, List.tail_cons] at htail
        exact ⟨by simp, htail⟩
      · obtain ⟨piece, later, hnext, hpieces⟩ := pieces_cons_of_ne hchar (next :: others)
        rw [hpieces, List.tail_cons]
        rw [hnext, List.tail_cons] at htail
        exact htail

/-- What a text without a fault looks like. -/
theorem shape_of_patternFault?_eq_none {text : List Char} (hfault : patternFault? text = none) :
    ∃ rest, text = '/' :: rest ∧
      (rest ≠ [] → text.getLast? ≠ some '/' ∧ hasEmptySegment text = false) := by
  unfold patternFault? at hfault
  split at hfault
  · simp at hfault
  · split at hfault
    · simp at hfault
    · next hempty hlead =>
      cases text with
      | nil => exact absurd rfl hempty
      | cons char rest =>
        have hchar : char = '/' := by simpa using hlead
        subst hchar
        refine ⟨rest, rfl, fun hrest => ?_⟩
        split at hfault
        · simp at hfault
        · next htrailing =>
          split at hfault
          · simp at hfault
          · next hdouble =>
            refine ⟨fun hlast => htrailing ⟨by simpa using hrest, hlast⟩, ?_⟩
            simpa using hdouble

/-- The segments of a pattern are the pieces of what follows its first slash. -/
theorem patternSegments_cases {pattern : String} {segments : List String}
    (hsegments : patternSegments pattern = .ok segments) :
    (pattern = "/" ∧ segments = []) ∨
      ∃ rest, rest ≠ [] ∧ pattern.toList = '/' :: rest ∧
        segments = (pieces '/' rest).map String.ofList ∧ [] ∉ pieces '/' rest := by
  unfold patternSegments at hsegments
  split at hsegments
  · simp at hsegments
  · next hfault =>
    obtain ⟨rest, htext, hshape⟩ := shape_of_patternFault?_eq_none hfault
    split at hsegments
    · next hroot =>
      exact Or.inl ⟨String.ext hroot, (Except.ok.inj hsegments).symm⟩
    · next hroot =>
      have hrest : rest ≠ [] := by
        intro hnil
        exact hroot (hnil ▸ htext)
      obtain ⟨hlast, hdouble⟩ := hshape hrest
      refine Or.inr ⟨rest, hrest, htext, ?_, ?_⟩
      · rw [htext, List.tail_cons] at hsegments
        exact (Except.ok.inj hsegments).symm
      · have hpieces := nil_not_mem_tail_pieces hdouble hlast
        rwa [htext, pieces_cons_self, List.tail_cons] at hpieces

theorem isSegment_of_patternSegments {pattern : String} {segments : List String}
    (hsegments : patternSegments pattern = .ok segments) {segment : String}
    (hmem : segment ∈ segments) : IsSegment segment := by
  obtain ⟨-, hnil⟩ | ⟨rest, -, -, hpieces, hempty⟩ := patternSegments_cases hsegments
  · simp [hnil] at hmem
  · rw [hpieces] at hmem
    obtain ⟨piece, hpiece, rfl⟩ := List.mem_map.mp hmem
    constructor
    · intro hsegment
      have hnil : piece = [] := by simpa using congrArg String.toList hsegment
      exact hempty (hnil ▸ hpiece)
    · rw [String.toList_ofList]
      exact separator_not_mem_of_mem_pieces hpiece

/-! ## Writing segments -/

/-- Segments, each after a slash. -/
def slashed (segments : List String) : String :=
  String.join (segments.map fun segment => "/" ++ segment)

@[simp] theorem slashed_nil : slashed [] = "" := by
  simp [slashed]

@[simp] theorem slashed_cons (segment : String) (rest : List String) :
    slashed (segment :: rest) = "/" ++ segment ++ slashed rest := by
  simp [slashed]

theorem toList_slashed (segments : List String) :
    (slashed segments).toList = (segments.map String.toList).flatMap ('/' :: ·) := by
  induction segments with
  | nil => simp
  | cons segment rest ih => simp [ih]

theorem pieces_slashed {segments : List String} (hall : ∀ text ∈ segments, IsSegment text) :
    pieces '/' (slashed segments).toList = [] :: segments.map String.toList := by
  rw [toList_slashed]
  refine pieces_flatMap fun word hword => ?_
  obtain ⟨text, htext, rfl⟩ := List.mem_map.mp hword
  exact (hall text htext).2

/-- Segments can be told from their text. -/
theorem slashed_injective {left right : List String} (hleft : ∀ text ∈ left, IsSegment text)
    (hright : ∀ text ∈ right, IsSegment text) (hsame : slashed left = slashed right) :
    left = right := by
  have hlists : left.map String.toList = right.map String.toList := by
    have hpieces := pieces_slashed hleft
    rw [hsame, pieces_slashed hright] at hpieces
    exact (List.tail_eq_of_cons_eq hpieces).symm
  exact (List.map_inj_right fun _ _ => String.ext).mp hlists

theorem render_eq_slashed {segments : List String} (hne : segments ≠ []) :
    render segments = slashed segments := by
  cases segments with
  | nil => exact absurd rfl hne
  | cons segment rest => rfl

/-- Writing the segments of a pattern gives the pattern back. -/
theorem render_of_patternSegments {pattern : String} {segments : List String}
    (hsegments : patternSegments pattern = .ok segments) : render segments = pattern := by
  obtain ⟨hroot, hnil⟩ | ⟨rest, -, htext, hpieces, -⟩ := patternSegments_cases hsegments
  · rw [hroot, hnil]
    rfl
  · have hne : segments ≠ [] := by
      rw [hpieces]
      simpa using pieces_ne_nil rest
    refine String.ext ?_
    have hwords : segments.map String.toList = pieces '/' rest := by
      rw [hpieces, List.map_map]
      simp [Function.comp_def]
    rw [render_eq_slashed hne, toList_slashed, hwords, flatMap_pieces, htext]

/-- What the text of some segments looks like. -/
theorem exists_toList_slashed {segments : List String} (hall : ∀ text ∈ segments, IsSegment text)
    (hne : segments ≠ []) :
    ∃ char rest, char ≠ '/' ∧ (slashed segments).toList = '/' :: char :: rest := by
  cases segments with
  | nil => exact absurd rfl hne
  | cons segment others =>
    obtain ⟨hsome, hslash⟩ := hall segment List.mem_cons_self
    cases htext : segment.toList with
    | nil => exact absurd (String.ext htext) hsome
    | cons char word =>
      have hchar : char ≠ '/' := by
        rw [htext, List.mem_cons, not_or] at hslash
        exact Ne.symm hslash.1
      exact ⟨char, word ++ (slashed others).toList, hchar, by simp [htext]⟩

theorem getLast?_slashed {segments : List String} (hall : ∀ text ∈ segments, IsSegment text) :
    (slashed segments).toList.getLast? ≠ some '/' := by
  induction segments with
  | nil => simp
  | cons segment rest ih =>
    obtain ⟨hsome, hslash⟩ := hall segment List.mem_cons_self
    have hword : segment.toList ≠ [] := fun hnil => hsome (String.ext hnil)
    have hrest := ih fun text hmem => hall text (List.mem_cons_of_mem _ hmem)
    rw [slashed_cons, String.toList_append, List.getLast?_append, String.toList_append,
      List.getLast?_append, List.getLast?_eq_some_getLast hword, Option.some_or]
    cases hlast : (slashed rest).toList.getLast? with
    | some char =>
      rw [hlast] at hrest
      exact hrest
    | none =>
      intro hslashed
      exact hslash (Option.some.inj hslashed ▸ List.getLast_mem hword)

theorem hasEmptySegment_append {word : List Char} (hword : '/' ∉ word) (rest : List Char) :
    hasEmptySegment (word ++ rest) = hasEmptySegment rest := by
  induction word with
  | nil => rfl
  | cons char word ih =>
    rw [List.mem_cons, not_or] at hword
    simp [hasEmptySegment, Ne.symm hword.1, ih hword.2]

theorem hasEmptySegment_slashed {segments : List String}
    (hall : ∀ text ∈ segments, IsSegment text) :
    hasEmptySegment (slashed segments).toList = false := by
  induction segments with
  | nil => simp [hasEmptySegment]
  | cons segment rest ih =>
    obtain ⟨char, others, hchar, htext⟩ := exists_toList_slashed hall (List.cons_ne_nil _ _)
    have hword : segment.toList ++ (slashed rest).toList = char :: others := by
      have htail := congrArg List.tail htext
      simpa using htail
    have hrest : hasEmptySegment (char :: others) = false := by
      rw [← hword, hasEmptySegment_append (hall segment List.mem_cons_self).2]
      exact ih fun text hmem => hall text (List.mem_cons_of_mem _ hmem)
    rw [htext, hasEmptySegment, hrest]
    simp [hchar]

/-- Writing segments gives a pattern, and they are its segments. -/
theorem patternSegments_render {segments : List String}
    (hall : ∀ text ∈ segments, IsSegment text) :
    patternSegments (render segments) = .ok segments := by
  by_cases hne : segments = []
  · subst hne
    rfl
  · obtain ⟨char, rest, hchar, htext⟩ := exists_toList_slashed hall hne
    have hfault : patternFault? (slashed segments).toList = none := by
      have hlast := getLast?_slashed hall
      have hdouble := hasEmptySegment_slashed hall
      rw [htext] at hlast hdouble ⊢
      unfold patternFault?
      rw [if_neg (by simp), if_neg (by simp), if_neg fun hends => hlast hends.2, hdouble]
      rfl
    have hwords : pieces '/' (char :: rest) = segments.map String.toList := by
      have hpieces := pieces_slashed hall
      rw [htext, pieces_cons_self] at hpieces
      exact List.tail_eq_of_cons_eq hpieces
    rw [render_eq_slashed hne, patternSegments, hfault]
    simp only [htext, List.tail_cons, hwords]
    rw [if_neg (by simp), List.map_map]
    simp [Function.comp_def]

/-- Segments are determined by the pattern that they are written as. -/
theorem render_injective {segments others : List String}
    (hall : ∀ text ∈ segments, IsSegment text) (hall' : ∀ text ∈ others, IsSegment text)
    (hsame : render segments = render others) : segments = others := by
  have hparsed := patternSegments_render hall
  rw [hsame, patternSegments_render hall'] at hparsed
  exact (Except.ok.inj hparsed).symm

/-- A pattern is determined by its segments. -/
theorem pattern_eq_of_patternSegments {left right : String} {segments : List String}
    (hleft : patternSegments left = .ok segments) (hright : patternSegments right = .ok segments) :
    left = right :=
  (render_of_patternSegments hleft).symm.trans (render_of_patternSegments hright)

end Path

namespace Segment

/-! ## Reading a segment -/

theorem forall_ne_opening {name : List Char} (hname : '(' ∉ name) :
    ∀ char ∈ name, decide (char ≠ '(') = true := by
  intro char hchar
  simpa using fun hsame : char = '(' => hname (hsame ▸ hchar)

theorem ofCapture_of_not_mem {rest : List Char} (hopening : '(' ∉ rest) :
    ofCapture rest = .param (String.ofList rest) := by
  have hdrop : (rest ++ []).dropWhile (· ≠ '(') = [] :=
    List.dropWhile_append_of_pos (forall_ne_opening hopening)
  rw [List.append_nil] at hdrop
  rw [ofCapture, hdrop]

/-- The first opening parenthesis ends the name. -/
theorem ofCapture_append {name : List Char} (hname : '(' ∉ name) (tail : List Char) :
    ofCapture (name ++ '(' :: tail) =
      if tail.getLast? = some ')' then
        .regex (String.ofList name) (String.ofList tail.dropLast)
      else .param (String.ofList (name ++ '(' :: tail)) := by
  have hdrop : (name ++ '(' :: tail).dropWhile (· ≠ '(') = '(' :: tail := by
    rw [List.dropWhile_append_of_pos (forall_ne_opening hname)]
    simp
  have htake : (name ++ '(' :: tail).takeWhile (· ≠ '(') = name := by
    rw [List.takeWhile_append_of_pos (forall_ne_opening hname)]
    simp
  rw [ofCapture, hdrop, htake]

theorem getLast?_append_opening (name tail : List Char) :
    (name ++ '(' :: tail).getLast? = some ')' ↔ tail.getLast? = some ')' := by
  cases tail with
  | nil => simp
  | cons char rest => simp [List.getLast?_cons_cons]

/-- A capture has an expression when its text can be taken apart that way, and else it is a bare
name. -/
theorem ofCapture_cases (rest : List Char) :
    (∃ name source, '(' ∉ name ∧ rest = name ++ '(' :: (source ++ [')']) ∧
      ofCapture rest = .regex (String.ofList name) (String.ofList source)) ∨
    (¬ ('(' ∈ rest ∧ rest.getLast? = some ')') ∧ ofCapture rest = .param (String.ofList rest)) := by
  by_cases hopening : '(' ∈ rest
  · obtain ⟨name, tail, rfl, hname⟩ := List.eq_append_cons_of_mem hopening
    by_cases hclosed : tail.getLast? = some ')'
    · obtain ⟨source, rfl⟩ := List.getLast?_eq_some_iff.mp hclosed
      refine Or.inl ⟨name, source, hname, rfl, ?_⟩
      rw [ofCapture_append hname, if_pos hclosed, List.dropLast_concat]
    · refine Or.inr ⟨fun hboth => hclosed ((getLast?_append_opening name tail).mp hboth.2), ?_⟩
      rw [ofCapture_append hname, if_neg hclosed]
  · exact Or.inr ⟨fun hboth => hopening hboth.1, ofCapture_of_not_mem hopening⟩

theorem text_ofCapture (rest : List Char) : (ofCapture rest).text.toList = ':' :: rest := by
  obtain ⟨name, source, -, hrest, hregex⟩ | ⟨-, hparam⟩ := ofCapture_cases rest
  · rw [hregex, hrest]
    simp [text]
  · rw [hparam]
    simp [text]

/-- Writing a segment gives back the text that it was read from. -/
theorem text_ofText (source : String) : (ofText source).text = source := by
  refine String.ext ?_
  unfold ofText
  split
  · next hstar => rw [hstar]; rfl
  · next rest hcolon => rw [hcolon, text_ofCapture]
  · rfl

theorem eq_text_of_ofText {source : String} {segment : Segment}
    (hsegment : ofText source = segment) : source = segment.text := by
  rw [← hsegment, text_ofText]

/-- A star is a wildcard, and nothing else is. -/
theorem ofText_eq_wildcard_iff {source : String} : ofText source = wildcard ↔ source = "*" := by
  constructor
  · exact eq_text_of_ofText
  · rintro rfl
    rfl

end Segment

end PathRouting
