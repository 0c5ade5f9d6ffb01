import PathRouting.Proofs.Pattern
set_option autoImplicit false

/-!
# How segments are spelled

Every text is the spelling of one segment (`text_ofText`), but not every segment has a spelling: a
literal that looks like a capture would be read as one, and so would a bare name that looks like a
name with an expression.  `Spellable` says which segments remain: only these are read
(`spellable_ofText`), and each of them is read from its spelling (`ofText_text`).  Both follow from
the two ways in which a capture is read (`ofCapture_cases`).  So reading and writing are inverse to
each other (`ofText_spells`).
-/

namespace PathRouting.Segment

/-- Is there a text that the segment is read from? -/
def Spellable : Segment → Prop
  | literal text => text ≠ "*" ∧ ¬ ∃ rest, text = ":" ++ rest
  | param name => ¬ ('(' ∈ name.toList ∧ ∃ front, name = front ++ ")")
  | regex name _ => '(' ∉ name.toList
  | wildcard => True

/-! ## Reading what is written -/

theorem ofCapture_of_bare {name : List Char}
    (hbare : ¬ ('(' ∈ name ∧ name.getLast? = some ')')) :
    ofCapture name = .param (String.ofList name) := by
  obtain ⟨start, source, -, rfl, -⟩ | ⟨-, hparam⟩ := ofCapture_cases name
  · exact absurd ⟨by simp, (getLast?_append_opening _ _).mpr (by simp)⟩ hbare
  · exact hparam

theorem ofText_colon (rest : String) : ofText (":" ++ rest) = ofCapture rest.toList := by
  simp [ofText]

/-- What is neither a star nor begins with a colon stands for itself. -/
theorem ofText_of_plain {text : String} (hstar : text ≠ "*")
    (hcolon : ¬ ∃ rest, text = ":" ++ rest) : ofText text = .literal text := by
  unfold ofText
  split
  · next hlist => exact absurd (String.ext hlist) hstar
  · next rest hlist =>
    exact absurd ⟨String.ofList rest, String.ext (by simp [hlist])⟩ hcolon
  · rfl

theorem spellable_param_iff {name : String} :
    (param name).Spellable ↔ ¬ ('(' ∈ name.toList ∧ name.toList.getLast? = some ')') := by
  have hmark : ")".toList = [')'] := rfl
  rw [Spellable, Text.exists_eq_append_iff hmark]

theorem spellable_ofText (source : String) : (ofText source).Spellable := by
  by_cases hstar : source = "*"
  · rw [ofText_eq_wildcard_iff.mpr hstar]
    trivial
  · by_cases hcolon : ∃ rest, source = ":" ++ rest
    · obtain ⟨rest, rfl⟩ := hcolon
      rw [ofText_colon]
      obtain ⟨name, expression, hname, -, hregex⟩ | ⟨hbare, hparam⟩ := ofCapture_cases rest.toList
      · rw [hregex]
        simpa [Spellable] using hname
      · rw [hparam, spellable_param_iff, String.toList_ofList]
        exact hbare
    · rw [ofText_of_plain hstar hcolon]
      exact ⟨hstar, hcolon⟩

/-- A segment that has a spelling is read from it. -/
theorem ofText_text {segment : Segment} (hspellable : segment.Spellable) :
    ofText segment.text = segment := by
  cases segment with
  | literal text => exact ofText_of_plain hspellable.1 hspellable.2
  | param name =>
    rw [text, ofText_colon, ofCapture_of_bare (spellable_param_iff.mp hspellable),
      String.ofList_toList]
  | regex name source =>
    have hlist : (name ++ "(" ++ source ++ ")").toList =
        name.toList ++ '(' :: (source.toList ++ [')']) := by
      simp
    have htext : (regex name source).text = ":" ++ (name ++ "(" ++ source ++ ")") := by
      simp only [text, String.append_assoc]
    rw [htext, ofText_colon, hlist, ofCapture_append hspellable, if_pos (by simp),
      List.dropLast_concat, String.ofList_toList, String.ofList_toList]
  | wildcard => rfl

theorem ofText_text_iff (segment : Segment) :
    ofText segment.text = segment ↔ segment.Spellable :=
  ⟨fun hread => hread ▸ spellable_ofText segment.text, ofText_text⟩

theorem ofText_inj {left right : String} : ofText left = ofText right ↔ left = right := by
  constructor
  · intro hsame
    rw [← text_ofText left, hsame, text_ofText]
  · rintro rfl
    rfl

/-- Reading and writing segments are inverse to each other.  Writing what was read gives the text
back, so texts that are read alike are the same, and of two texts with an expression only the names
and the expressions have to be compared.  A segment is read from what it is written as, and from any
text at all, exactly when it is spellable. -/
theorem ofText_spells :
    (∀ source, (ofText source).text = source) ∧
    (∀ left right, ofText left = ofText right ↔ left = right) ∧
    (∀ left right name source name' source', ofText left = .regex name source →
      ofText right = .regex name' source' → (left = right ↔ name = name' ∧ source = source')) ∧
    (∀ segment, ofText segment.text = segment ↔ segment.Spellable) ∧
    ∀ segment, (∃ source, ofText source = segment) ↔ segment.Spellable := by
  refine ⟨text_ofText, fun left right => ofText_inj, ?_, ofText_text_iff, fun segment => ?_⟩
  · intro left right name source name' source' hleft hright
    rw [← ofText_inj, hleft, hright, Segment.regex.injEq]
  · constructor
    · rintro ⟨source, rfl⟩
      exact spellable_ofText source
    · exact fun hspellable => ⟨segment.text, ofText_text hspellable⟩

/-- The first opening parenthesis counts, and one that is not closed at the end belongs to a name. -/
example : ofText ":a(b(c))" = .regex "a" "b(c)" ∧ ofText ":a)b(c" = .param "a)b(c" :=
  ⟨rfl, rfl⟩

end PathRouting.Segment
