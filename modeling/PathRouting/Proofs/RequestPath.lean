import PathRouting.Proofs.Captures
set_option autoImplicit false

/-!
# Request paths and their segments

A request path is cut into segments after the slashes at its ends are taken away.  What is left has
none at its ends (`exists_trimSlashes`), so no first or last segment is empty, while the empty ones
in the middle stay: the segments of a path are in a normal form (`isNormal_requestSegments`), and a
list in normal form is what the path made of it is cut into (`requestSegments_intercalate`).  A
lookup sees a path through its segments only, and so it does not see the slashes at its ends
(`outerSlashes_ignored`).
-/

namespace PathRouting

namespace Text

variable {separator : Char}

/-! ## Pieces put together -/

theorem cons_intercalate {words : List (List Char)} (hne : words ≠ []) :
    separator :: [separator].intercalate words = words.flatMap (separator :: ·) := by
  induction words with
  | nil => exact absurd rfl hne
  | cons word others ih =>
    cases others with
    | nil => simp
    | cons next rest =>
      rw [List.intercalate_cons_cons, List.flatMap_cons, ← ih (List.cons_ne_nil _ _)]
      simp

/-- Words without separators are the pieces of what they are joined to. -/
theorem pieces_intercalate {words : List (List Char)} (hne : words ≠ [])
    (hwords : ∀ word ∈ words, separator ∉ word) :
    pieces separator ([separator].intercalate words) = words := by
  have hpieces := pieces_flatMap hwords
  rw [← cons_intercalate hne, pieces_cons_self] at hpieces
  exact List.tail_eq_of_cons_eq hpieces

/-- The pieces of a text can be joined to it again. -/
theorem intercalate_pieces (text : List Char) :
    [separator].intercalate (pieces separator text) = text := by
  have hpieces : (pieces separator text).flatMap (separator :: ·) = separator :: text :=
    flatMap_pieces text
  rw [← cons_intercalate (pieces_ne_nil text)] at hpieces
  exact List.tail_eq_of_cons_eq hpieces

/-- The first piece is empty when the text begins with a separator, or when there is no text. -/
theorem head?_pieces_eq_nil_iff (text : List Char) :
    (pieces separator text).head? = some [] ↔ text = [] ∨ text.head? = some separator := by
  cases text with
  | nil => simp [pieces]
  | cons char rest =>
    by_cases hsame : char = separator
    · subst hsame
      simp [pieces_cons_self]
    · obtain ⟨piece, others, -, hpieces⟩ := pieces_cons_of_ne hsame rest
      simp [hpieces, hsame]

theorem getLast?_cons_eq_self_iff (text : List Char) :
    (separator :: text).getLast? = some separator ↔
      text = [] ∨ text.getLast? = some separator := by
  cases text with
  | nil => simp
  | cons char rest => simp [List.getLast?_cons_cons]

/-- The last piece is empty when the text ends with a separator, or when there is no text. -/
theorem getLast?_pieces_eq_nil_iff (text : List Char) :
    (pieces separator text).getLast? = some [] ↔ text = [] ∨ text.getLast? = some separator := by
  obtain ⟨front, last, hpieces⟩ : ∃ front last, pieces separator text = front ++ [last] :=
    ⟨_, _, (List.dropLast_concat_getLast (pieces_ne_nil text)).symm⟩
  have hends : (separator :: text).getLast? = (separator :: last).getLast? := by
    rw [← flatMap_pieces text, hpieces, List.flatMap_append, List.flatMap_singleton,
      List.getLast?_append, List.getLast?_cons]
    rfl
  have hmem : last ∈ pieces separator text := by simp [hpieces]
  have hlast : separator ∉ last := separator_not_mem_of_mem_pieces hmem
  have hnot : last.getLast? ≠ some separator := fun hsome => hlast (List.mem_of_getLast? hsome)
  rw [← getLast?_cons_eq_self_iff, hends, getLast?_cons_eq_self_iff, hpieces,
    List.getLast?_concat, Option.some.injEq]
  simp [hnot]

end Text

namespace Path

open Text

/-! ## Slashes at the ends -/

/-- A text of slashes. -/
def slashes (count : Nat) : String :=
  String.ofList (List.replicate count '/')

theorem dropWhile_slashes (count : Nat) {rest : List Char} (hrest : rest.head? ≠ some '/') :
    (List.replicate count '/' ++ rest).dropWhile (· = '/') = rest := by
  rw [List.dropWhile_append_of_pos (by simp)]
  cases rest with
  | nil => rfl
  | cons char others => exact List.dropWhile_cons_of_neg (by simpa using hrest)

/-- What has no slashes at its ends is what is left when slashes around it are taken away. -/
theorem trimSlashes_padded {core : List Char} (hhead : core.head? ≠ some '/')
    (hlast : core.getLast? ≠ some '/') (before after : Nat) :
    trimSlashes (List.replicate before '/' ++ core ++ List.replicate after '/') = core := by
  by_cases hcore : core = []
  · subst hcore
    have hfront : (List.replicate (before + after) '/').dropWhile (· = '/') = [] := by
      simp
    rw [List.append_nil, List.replicate_append_replicate, trimSlashes, hfront]
    rfl
  · have hfirst : (core ++ List.replicate after '/').head? ≠ some '/' := by
      rw [List.head?_append, List.head?_eq_some_head hcore, Option.some_or,
        ← List.head?_eq_some_head hcore]
      exact hhead
    rw [trimSlashes, List.append_assoc, dropWhile_slashes _ hfirst, List.reverse_append,
      List.reverse_replicate, dropWhile_slashes _ (by rw [List.head?_reverse]; exact hlast),
      List.reverse_reverse]

theorem exists_dropWhile_slashes (text : List Char) :
    ∃ count, text = List.replicate count '/' ++ text.dropWhile (· = '/') := by
  induction text with
  | nil => exact ⟨0, rfl⟩
  | cons char rest ih =>
    by_cases hslash : char = '/'
    · obtain ⟨count, hrest⟩ := ih
      refine ⟨count + 1, ?_⟩
      rw [List.dropWhile_cons_of_pos (by simpa using hslash), List.replicate_succ, List.cons_append,
        ← hrest, hslash]
    · refine ⟨0, ?_⟩
      rw [List.dropWhile_cons_of_neg (by simpa using hslash), List.replicate_zero, List.nil_append]

theorem head?_dropWhile_slashes (text : List Char) :
    (text.dropWhile (· = '/')).head? ≠ some '/' := by
  have hhead := List.head?_dropWhile_not (fun char => decide (char = '/')) text
  intro hslash
  rw [hslash] at hhead
  simp at hhead

theorem exists_trimSlashes_back (text : List Char) :
    ∃ after, text.dropWhile (· = '/') = trimSlashes text ++ List.replicate after '/' := by
  obtain ⟨after, hafter⟩ := exists_dropWhile_slashes (text.dropWhile (· = '/')).reverse
  have hrest := congrArg List.reverse hafter
  rw [List.reverse_reverse, List.reverse_append, List.reverse_replicate] at hrest
  exact ⟨after, hrest⟩

/-- A text is what is left of it, with slashes around. -/
theorem exists_trimSlashes (text : List Char) :
    ∃ before after,
      text = List.replicate before '/' ++ trimSlashes text ++ List.replicate after '/' := by
  obtain ⟨before, hbefore⟩ := exists_dropWhile_slashes text
  obtain ⟨after, hafter⟩ := exists_trimSlashes_back text
  rw [hafter, ← List.append_assoc] at hbefore
  exact ⟨before, after, hbefore⟩

theorem head?_trimSlashes (text : List Char) : (trimSlashes text).head? ≠ some '/' := by
  obtain ⟨after, hafter⟩ := exists_trimSlashes_back text
  have hhead := head?_dropWhile_slashes text
  intro hslash
  rw [hafter, List.head?_append, hslash] at hhead
  exact hhead rfl

theorem getLast?_trimSlashes (text : List Char) : (trimSlashes text).getLast? ≠ some '/' := by
  rw [trimSlashes, List.getLast?_reverse]
  exact head?_dropWhile_slashes _

/-- Slashes around a text do not matter. -/
theorem trimSlashes_around (text : List Char) (before after : Nat) :
    trimSlashes (List.replicate before '/' ++ text ++ List.replicate after '/') =
      trimSlashes text := by
  obtain ⟨front, back, htext⟩ := exists_trimSlashes text
  have haround : List.replicate before '/' ++ text ++ List.replicate after '/' =
      List.replicate (before + front) '/' ++ trimSlashes text ++
        List.replicate (back + after) '/' := by
    rw [← List.replicate_append_replicate, ← List.replicate_append_replicate]
    refine (congrArg (List.replicate before '/' ++ · ++ List.replicate after '/') htext).trans ?_
    simp only [List.append_assoc]
  rw [haround]
  exact trimSlashes_padded (head?_trimSlashes text) (getLast?_trimSlashes text) _ _

theorem trimSlashes_eq_nil_iff (text : List Char) :
    trimSlashes text = [] ↔ ∀ char ∈ text, char = '/' := by
  constructor
  · intro hnil
    obtain ⟨before, after, htext⟩ := exists_trimSlashes text
    rw [hnil, List.append_nil, List.replicate_append_replicate] at htext
    intro char hchar
    rw [htext] at hchar
    exact List.eq_of_mem_replicate hchar
  · intro hall
    have haround := trimSlashes_around [] text.length 0
    rw [List.append_nil, List.replicate_zero, List.append_nil, ← List.eq_replicate_of_mem hall]
      at haround
    exact haround

/-! ## The normal form -/

/-- A list of segments is what a path with something between its slashes is cut into: the segments
hold no slashes, and only those in the middle may be empty. -/
structure IsNormal (segments : List String) : Prop where
  nonempty : segments ≠ []
  slashFree : ∀ text ∈ segments, '/' ∉ text.toList
  head : segments.head? ≠ some ""
  last : segments.getLast? ≠ some ""

theorem requestSegments_of_trimmed {path : String} (hsome : trimSlashes path.toList ≠ []) :
    requestSegments path = (pieces '/' (trimSlashes path.toList)).map String.ofList :=
  if_neg hsome

theorem requestSegments_eq_nil_iff (path : String) :
    requestSegments path = [] ↔ ∀ char ∈ path.toList, char = '/' := by
  rw [← trimSlashes_eq_nil_iff]
  by_cases hnil : trimSlashes path.toList = []
  · exact ⟨fun _ => hnil, fun _ => if_pos hnil⟩
  · rw [requestSegments_of_trimmed hnil, List.map_eq_nil_iff]
    exact ⟨fun hpieces => absurd hpieces (pieces_ne_nil _), fun htrimmed => absurd htrimmed hnil⟩

/-- Slashes around a path do not change its segments. -/
theorem requestSegments_around (path : String) (before after : Nat) :
    requestSegments (slashes before ++ path ++ slashes after) = requestSegments path := by
  unfold requestSegments slashes
  simp only [String.toList_append, String.toList_ofList, trimSlashes_around]

theorem toList_intercalate_slash (segments : List String) :
    (String.intercalate "/" segments).toList = ['/'].intercalate (segments.map String.toList) :=
  String.toList_intercalate

/-- Between its slashes, a path is its segments put together. -/
theorem trimSlashes_eq_intercalate {path : String} (hsome : trimSlashes path.toList ≠ []) :
    trimSlashes path.toList = (String.intercalate "/" (requestSegments path)).toList := by
  rw [toList_intercalate_slash, requestSegments_of_trimmed hsome, List.map_map]
  have hid : String.toList ∘ String.ofList = id := funext fun _ => String.toList_ofList
  rw [hid, List.map_id, intercalate_pieces]

theorem isNormal_requestSegments {path : String} (hsome : trimSlashes path.toList ≠ []) :
    IsNormal (requestSegments path) := by
  rw [requestSegments_of_trimmed hsome]
  refine ⟨by simpa using pieces_ne_nil _, ?_, ?_, ?_⟩
  · intro text htext
    obtain ⟨piece, hpiece, rfl⟩ := List.mem_map.mp htext
    rw [String.toList_ofList]
    exact separator_not_mem_of_mem_pieces hpiece
  · intro hhead
    rw [List.head?_map, Option.map_eq_some_iff] at hhead
    obtain ⟨piece, hpiece, hword⟩ := hhead
    rw [String.ofList_eq_empty_iff.mp hword, head?_pieces_eq_nil_iff] at hpiece
    exact hpiece.elim hsome (head?_trimSlashes _)
  · intro hlast
    rw [List.getLast?_map, Option.map_eq_some_iff] at hlast
    obtain ⟨piece, hpiece, hword⟩ := hlast
    rw [String.ofList_eq_empty_iff.mp hword, getLast?_pieces_eq_nil_iff] at hpiece
    exact hpiece.elim hsome (getLast?_trimSlashes _)

/-- A list in normal form is what its segments, put together, are cut into. -/
theorem requestSegments_intercalate {segments : List String} (hnormal : IsNormal segments) :
    requestSegments (String.intercalate "/" segments) = segments := by
  have hwords :
      pieces '/' (String.intercalate "/" segments).toList = segments.map String.toList := by
    rw [toList_intercalate_slash]
    refine pieces_intercalate (by simpa using hnormal.nonempty) fun word hword => ?_
    obtain ⟨text, htext, rfl⟩ := List.mem_map.mp hword
    exact hnormal.slashFree text htext
  have hhead : ¬ ((String.intercalate "/" segments).toList = [] ∨
      (String.intercalate "/" segments).toList.head? = some '/') := by
    rw [← head?_pieces_eq_nil_iff, hwords, List.head?_map, Option.map_eq_some_iff]
    rintro ⟨text, htext, hnil⟩
    exact hnormal.head (String.toList_eq_nil_iff.mp hnil ▸ htext)
  have hlast : ¬ ((String.intercalate "/" segments).toList = [] ∨
      (String.intercalate "/" segments).toList.getLast? = some '/') := by
    rw [← getLast?_pieces_eq_nil_iff, hwords, List.getLast?_map, Option.map_eq_some_iff]
    rintro ⟨text, htext, hnil⟩
    exact hnormal.last (String.toList_eq_nil_iff.mp hnil ▸ htext)
  rw [not_or] at hhead hlast
  have htrimmed := trimSlashes_padded hhead.2 hlast.2 0 0
  rw [List.replicate_zero, List.nil_append, List.append_nil] at htrimmed
  rw [requestSegments_of_trimmed (by rw [htrimmed]; exact hhead.1), htrimmed, hwords, List.map_map]
  simp [Function.comp_def]

end Path

namespace Router

open PathRouting.Path

variable {E H : Type} [Constraint E]

/-- A path has no segments when it is made of slashes; otherwise its segments are in normal form,
and joined by slashes they are the path without the slashes at its ends.  Every list in normal form
comes about so, whatever slashes are put around it.  Lookups for a path do not see the slashes at
its ends, and a path of slashes leads to the root of a tree and captures nothing. -/
theorem outerSlashes_ignored (path : String) :
    (requestSegments path = [] ↔ ∀ char ∈ path.toList, char = '/') ∧
    ((¬ ∀ char ∈ path.toList, char = '/') →
      IsNormal (requestSegments path) ∧
      ∃ before after,
        path = slashes before ++ String.intercalate "/" (requestSegments path) ++ slashes after) ∧
    (∀ segments, IsNormal segments → ∀ before after,
      requestSegments (slashes before ++ String.intercalate "/" segments ++ slashes after) =
        segments) ∧
    ∀ router : Router E H, router.Reachable → ∀ method,
      (∀ before after,
        (router.matchRoute method (slashes before ++ path ++ slashes after)).answer =
          (router.matchRoute method path).answer) ∧
      ((∀ char ∈ path.toList, char = '/') → ∀ tree, router.tree? method = some tree →
        tree.kind = .root ∧ (router.matchRoute method path).answer = some ⟨tree, .empty⟩) := by
  refine ⟨requestSegments_eq_nil_iff path, fun hsome => ?_, fun segments hnormal before after => ?_,
    fun router hreachable method => ⟨fun before after => ?_, fun hslashes tree htree => ?_⟩⟩
  · rw [← trimSlashes_eq_nil_iff] at hsome
    refine ⟨isNormal_requestSegments hsome, ?_⟩
    obtain ⟨before, after, htext⟩ := exists_trimSlashes path.toList
    rw [trimSlashes_eq_intercalate hsome] at htext
    refine ⟨before, after, String.ext ?_⟩
    rw [String.toList_append, String.toList_append, slashes, slashes, String.toList_ofList,
      String.toList_ofList]
    exact htext
  · rw [requestSegments_around, requestSegments_intercalate hnormal]
  · rw [matchRoute_answer_eq hreachable, matchRoute_answer_eq hreachable, requestSegments_around]
  · refine ⟨(hreachable.root_eq htree).1, ?_⟩
    rw [matchRoute_answer_eq hreachable, htree, (requestSegments_eq_nil_iff path).mpr hslashes,
      Option.bind_some, Node.trail?, Option.map_some, Node.capturesOn_nil]

end Router

end PathRouting
