import PathRouting.Proofs.RequestPath
set_option autoImplicit false

/-!
# The grammar of route patterns

A text is a route pattern when it is `/` or is written as non-empty segments without slashes, each
after a slash, and then these are its segments.  The check looks for faults in the text as a whole,
and the segments come from cutting it: `patternSegments_grammar` says that both agree, which fault
is found in which text, and that a pattern that is taken as a request path has the same segments.
-/

namespace PathRouting.Path

open Text

/-! ## Faults -/

/-- Does a text begin with a slash? -/
def BeginsWithSlash (text : String) : Prop := ∃ rest, text = "/" ++ rest

/-- Does a text end with a slash? -/
def EndsWithSlash (text : String) : Prop := ∃ front, text = front ++ "/"

/-- Do two slashes follow each other in a text? -/
def HasDoubleSlash (text : String) : Prop := ∃ before after, text = before ++ "//" ++ after

theorem beginsWithSlash_iff (text : String) :
    BeginsWithSlash text ↔ text.toList.head? = some '/' := by
  constructor
  · rintro ⟨rest, rfl⟩
    simp
  · intro hhead
    obtain ⟨rest, hrest⟩ := List.head?_eq_some_iff.mp hhead
    exact ⟨String.ofList rest, String.ext (by simp [hrest])⟩

theorem endsWithSlash_iff (text : String) :
    EndsWithSlash text ↔ text.toList.getLast? = some '/' :=
  exists_eq_append_iff rfl text

theorem hasEmptySegment_iff (text : List Char) :
    hasEmptySegment text = true ↔ ∃ before after, text = before ++ '/' :: '/' :: after := by
  induction text with
  | nil => simp [hasEmptySegment]
  | cons char rest ih =>
    rw [hasEmptySegment, Bool.or_eq_true, Bool.and_eq_true, decide_eq_true_iff, decide_eq_true_iff,
      ih]
    constructor
    · rintro (⟨rfl, hnext⟩ | ⟨before, after, rfl⟩)
      · obtain ⟨others, rfl⟩ := List.head?_eq_some_iff.mp hnext
        exact ⟨[], others, rfl⟩
      · exact ⟨char :: before, after, rfl⟩
    · rintro ⟨before, after, htext⟩
      cases before with
      | nil =>
        obtain ⟨rfl, rfl⟩ := List.cons.inj htext
        exact Or.inl ⟨rfl, rfl⟩
      | cons first front =>
        obtain ⟨-, rfl⟩ := List.cons.inj htext
        exact Or.inr ⟨front, after, rfl⟩

theorem hasDoubleSlash_iff (text : String) :
    HasDoubleSlash text ↔ hasEmptySegment text.toList = true := by
  rw [hasEmptySegment_iff]
  constructor
  · rintro ⟨before, after, rfl⟩
    exact ⟨before.toList, after.toList, by simp⟩
  · rintro ⟨before, after, htext⟩
    exact ⟨String.ofList before, String.ofList after, String.ext (by simp [htext])⟩

/-- What makes a text no pattern.  Of several faults the first one counts, so an empty segment is
looked for in a text that has none of the others. -/
def Spoils (pattern : String) : PatternFault → Prop
  | .empty => pattern = ""
  | .missingLeadingSlash => pattern ≠ "" ∧ ¬ BeginsWithSlash pattern
  | .trailingSlash => BeginsWithSlash pattern ∧ pattern ≠ "/" ∧ EndsWithSlash pattern
  | .emptySegment =>
    pattern ≠ "" ∧ BeginsWithSlash pattern ∧ ¬ (pattern ≠ "/" ∧ EndsWithSlash pattern) ∧
      HasDoubleSlash pattern

theorem patternFault?_eq_some_iff (pattern : String) (fault : PatternFault) :
    patternFault? pattern.toList = some fault ↔ Spoils pattern fault := by
  have hempty : pattern.toList = [] ↔ pattern = "" := String.toList_eq_nil_iff
  have hroot : pattern.toList = ['/'] ↔ pattern = "/" :=
    ⟨fun hslash => String.ext hslash, by rintro rfl; rfl⟩
  unfold patternFault?
  -- Each test comes after the ones before it have failed.
  cases fault with
  | empty =>
    simp only [Spoils, ← hempty]
    grind
  | missingLeadingSlash =>
    simp only [Spoils, beginsWithSlash_iff, ← hempty, ne_eq]
    grind
  | trailingSlash =>
    simp only [Spoils, beginsWithSlash_iff, endsWithSlash_iff, ← hroot, ne_eq]
    grind
  | emptySegment =>
    simp only [Spoils, beginsWithSlash_iff, endsWithSlash_iff, hasDoubleSlash_iff, ← hempty,
      ← hroot, ne_eq]
    grind

theorem patternSegments_eq_error_iff (pattern : String) (fault : PatternFault) :
    patternSegments pattern = .error fault ↔ Spoils pattern fault := by
  rw [← patternFault?_eq_some_iff, patternSegments]
  cases patternFault? pattern.toList with
  | some found => simp
  | none =>
    simp only
    split <;> simp

/-! ## Patterns -/

theorem patternSegments_eq_ok_iff (pattern : String) (segments : List String) :
    patternSegments pattern = .ok segments ↔
      (∀ text ∈ segments, IsSegment text) ∧ pattern = render segments := by
  constructor
  · intro hsegments
    exact ⟨fun text hmem => isSegment_of_patternSegments hsegments hmem,
      (render_of_patternSegments hsegments).symm⟩
  · rintro ⟨hall, rfl⟩
    exact patternSegments_render hall

theorem isNormal_of_isSegment {segments : List String} (hne : segments ≠ [])
    (hall : ∀ text ∈ segments, IsSegment text) : IsNormal segments where
  nonempty := hne
  slashFree := fun text hmem => (hall text hmem).2
  head := fun hhead => (hall "" (List.mem_of_head? hhead)).1 rfl
  last := fun hlast => (hall "" (List.mem_of_getLast? hlast)).1 rfl

theorem slashed_eq_intercalate {segments : List String} (hne : segments ≠ []) :
    slashed segments = slashes 1 ++ String.intercalate "/" segments ++ slashes 0 := by
  refine String.ext ?_
  rw [toList_slashed, ← cons_intercalate (by simpa using hne), String.toList_append,
    String.toList_append, toList_intercalate_slash]
  simp [slashes]

/-- A pattern that is taken as a request path has the same segments. -/
theorem requestSegments_of_patternSegments {pattern : String} {segments : List String}
    (hsegments : patternSegments pattern = .ok segments) : requestSegments pattern = segments := by
  obtain ⟨hall, rfl⟩ := (patternSegments_eq_ok_iff pattern segments).mp hsegments
  by_cases hne : segments = []
  · subst hne
    rfl
  · rw [render_eq_slashed hne, slashed_eq_intercalate hne, requestSegments_around,
      requestSegments_intercalate (isNormal_of_isSegment hne hall)]

/-- A text is a pattern with given segments when these are non-empty and hold no slashes, and the
text is `/` or has each of them after a slash; so such lists of segments and patterns belong
together one to one.  A text that is no pattern is refused for the first fault that it has, and one
that is has the same segments as a request path. -/
theorem patternSegments_grammar :
    (∀ pattern segments, patternSegments pattern = .ok segments ↔
      (∀ text ∈ segments, IsSegment text) ∧ pattern = render segments) ∧
    (∀ segments, (∀ text ∈ segments, IsSegment text) →
      ∃ pattern, ∀ other, patternSegments other = .ok segments ↔ other = pattern) ∧
    (∀ pattern fault, patternSegments pattern = .error fault ↔ Spoils pattern fault) ∧
    ∀ pattern segments, patternSegments pattern = .ok segments →
      requestSegments pattern = segments := by
  refine ⟨patternSegments_eq_ok_iff, fun segments hall => ⟨render segments, fun other => ?_⟩,
    patternSegments_eq_error_iff, fun pattern segments => requestSegments_of_patternSegments⟩
  rw [patternSegments_eq_ok_iff]
  exact ⟨fun hboth => hboth.2, fun hsame => ⟨hall, hsame⟩⟩

/-- Two slashes alone end with a slash, which is found before the empty segment. -/
example : patternSegments "//" = .error .trailingSlash ∧
    patternSegments "//a" = .error .emptySegment :=
  ⟨rfl, rfl⟩

end PathRouting.Path
