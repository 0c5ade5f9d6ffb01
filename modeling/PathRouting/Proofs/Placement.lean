import PathRouting.Node.Insert
import PathRouting.Proofs.Arrangement
set_option autoImplicit false

/-!
# Placing a child

What the two moves of a registration do to a well-arranged node.  Locating a segment finds the child
with its text, or its rival, or a free place (`locate_of_present`, `locate_of_absent`); attaching a
child fills its place and touches no other (`child?_attach`), which keeps the arrangement
(`arranged_attach`).
-/

namespace PathRouting

variable {E H : Type}

namespace Node

/-! ## Places and rivals -/

/-- Some child of the node has the text. -/
def HasChild (node : Node E H) (text : String) : Prop :=
  ∃ step child, node.child? step = some child ∧ child.segment = text

/-- The text of the child that a segment cannot stand beside, unless that child has its very text.
-/
def rival? (node : Node E H) (incoming : String) : Option String :=
  match Segment.ofText incoming with
  | .literal _ => none
  | .param _ => (node.wildcardChild?.or node.paramChild?).map (·.segment)
  | .regex _ source =>
    (node.wildcardChild?.or (node.regexChildren.find? (hasSource source))).map (·.segment)
  | .wildcard => (node.paramChild?.or node.regexChildren.head?).map (·.segment)

/-- The dynamic slot is not taken by children that the new one cannot share it with. -/
def HasRoom (node child : Node E H) : Prop :=
  match child.kind with
  | .root => True
  | .literal => True
  | .param _ => node.wildcardChild? = none
  | .regex _ _ _ => node.wildcardChild? = none
  | .wildcard => node.paramChild? = none ∧ node.regexChildren = []

/-! ## Expressions -/

theorem getElem?_placeRegex (source : String) (child : Node E H) (regexes : List (Node E H))
    (index : Nat) :
    (placeRegex source child regexes)[index]? =
      if index = regexes.findIdx (hasSource source) then some child else regexes[index]? := by
  induction regexes generalizing index with
  | nil =>
    cases index with
    | zero => simp [placeRegex]
    | succ index => simp [placeRegex]
  | cons other rest ih =>
    rw [placeRegex, List.findIdx_cons]
    cases hother : other.hasSource source with
    | true =>
      cases index with
      | zero => simp
      | succ index => simp
    | false =>
      cases index with
      | zero => simp
      | succ index => simpa using ih index

theorem mem_placeRegex {source : String} {child other : Node E H} {regexes : List (Node E H)}
    (hmem : other ∈ placeRegex source child regexes) : other = child ∨ other ∈ regexes := by
  obtain ⟨index, hindex⟩ := List.mem_iff_getElem?.mp hmem
  rw [getElem?_placeRegex] at hindex
  split at hindex
  · exact Or.inl (Option.some.inj hindex).symm
  · exact Or.inr (List.mem_iff_getElem?.mpr ⟨index, hindex⟩)

/-- Placing an expression keeps the texts of expressions apart. -/
theorem pairwise_placeRegex {source : String} {child : Node E H} {regexes : List (Node E H)}
    (hchild : child.kind.source? = some source)
    (hpairs : regexes.Pairwise fun a b => a.kind.source? ≠ b.kind.source?) :
    (placeRegex source child regexes).Pairwise fun a b => a.kind.source? ≠ b.kind.source? := by
  induction regexes with
  | nil => exact List.pairwise_singleton _ _
  | cons other rest ih =>
    obtain ⟨hother, hrest⟩ := List.pairwise_cons.mp hpairs
    rw [placeRegex]
    split
    · next hsame =>
      refine List.pairwise_cons.mpr ⟨fun later hlater => ?_, hrest⟩
      rw [hchild, ← hasSource_iff.mp hsame]
      exact hother later hlater
    · next hdiffers =>
      refine List.pairwise_cons.mpr ⟨fun later hlater => ?_, ih hrest⟩
      cases mem_placeRegex hlater with
      | inl hnew =>
        rw [hnew, hchild]
        exact fun hsame => hdiffers (hasSource_iff.mpr hsame)
      | inr hold => exact hother later hold

/-! ## Attaching a child -/

@[simp] theorem attach_kind (node child : Node E H) : (node.attach child).kind = node.kind := by
  unfold attach
  split <;> rfl

@[simp] theorem attach_segment (node child : Node E H) :
    (node.attach child).segment = node.segment := by
  unfold attach
  split <;> rfl

@[simp] theorem attach_fullRoute (node child : Node E H) :
    (node.attach child).fullRoute = node.fullRoute := by
  unfold attach
  split <;> rfl

@[simp] theorem attach_handler (node child : Node E H) :
    (node.attach child).handler = node.handler := by
  unfold attach
  split <;> rfl

@[simp] theorem attach_stem (node child : Node E H) : (node.attach child).stem = node.stem := by
  unfold stem
  rw [attach_kind, attach_fullRoute]

/-- Attaching a child fills its place and leaves every other place as it was. -/
theorem child?_attach {node child : Node E H} (hroom : node.HasRoom child) (step : Descent) :
    (node.attach child).child? step =
      if step = node.place child then some child else node.child? step := by
  cases hkind : child.kind with
  | root =>
    simp only [attach, place, hkind]
    cases step with
    | literal text => simp [child?, staticChild?, Table.get?_insert]
    | param => simp [child?, paramChild?]
    | regex index => simp [child?, regexChildren]
    | wildcard => simp [child?, wildcardChild?]
  | literal =>
    simp only [attach, place, hkind]
    cases step with
    | literal text => simp [child?, staticChild?, Table.get?_insert]
    | param => simp [child?, paramChild?]
    | regex index => simp [child?, regexChildren]
    | wildcard => simp [child?, wildcardChild?]
  | param name =>
    simp only [HasRoom, hkind] at hroom
    simp only [attach, place, hkind]
    cases step with
    | literal text => simp [child?, staticChild?]
    | param => simp [child?, paramChild?]
    | regex index => simp [child?, regexChildren]
    | wildcard =>
      simp only [child?, hroom, reduceCtorEq, if_false]
      rfl
  | regex name source expression =>
    simp only [HasRoom, hkind] at hroom
    simp only [attach, place, hkind]
    cases step with
    | literal text => simp [child?, staticChild?]
    | param => simp [child?, paramChild?]
    | regex index =>
      show (placeRegex source child node.regexChildren)[index]? = _
      rw [getElem?_placeRegex]
      simp [child?]
    | wildcard =>
      simp only [child?, hroom, reduceCtorEq, if_false]
      rfl
  | wildcard =>
    simp only [HasRoom, hkind] at hroom
    simp only [attach, place, hkind]
    cases step with
    | literal text => simp [child?, staticChild?]
    | param =>
      simp only [child?, hroom.1, reduceCtorEq, if_false]
      rfl
    | regex index =>
      simp only [child?, hroom.2, reduceCtorEq, if_false]
      rfl
    | wildcard => simp [child?, wildcardChild?]

theorem child?_attach_place {node child : Node E H} (hroom : node.HasRoom child) :
    (node.attach child).child? (node.place child) = some child := by
  rw [child?_attach hroom, if_pos rfl]

theorem child?_attach_of_ne {node child : Node E H} (hroom : node.HasRoom child) {step : Descent}
    (hne : step ≠ node.place child) : (node.attach child).child? step = node.child? step := by
  rw [child?_attach hroom, if_neg hne]

/-- A child of the kind that its text calls for has a place that admits it. -/
theorem admits_place (node : Node E H) {child : Node E H} (hkind : child.kind ≠ .root) :
    (node.place child).Admits child := by
  unfold place
  cases hchild : child.kind with
  | root => exact absurd hchild hkind
  | literal => exact ⟨hchild, rfl⟩
  | param name => exact ⟨name, hchild⟩
  | regex name source expression => exact ⟨name, source, expression, hchild⟩
  | wildcard => exact hchild

theorem statics_attach_sorted {node : Node E H} (hsorted : node.statics.Sorted)
    (child : Node E H) : (node.attach child).statics.Sorted := by
  unfold attach
  split
  · exact Table.sorted_insert hsorted _ _
  · exact Table.sorted_insert hsorted _ _
  all_goals exact hsorted

theorem separate_attach {node child : Node E H}
    (hpairs : node.regexChildren.Pairwise fun a b => a.kind.source? ≠ b.kind.source?) :
    (node.attach child).regexChildren.Pairwise fun a b => a.kind.source? ≠ b.kind.source? := by
  unfold attach
  cases hkind : child.kind with
  | root => exact hpairs
  | literal => exact hpairs
  | param name => exact hpairs
  | regex name source expression =>
    exact pairwise_placeRegex (by rw [hkind]; rfl) hpairs
  | wildcard => exact List.Pairwise.nil

theorem occupied_attach {node : Node E H} (hoccupied : node.dynamic ≠ .captures none [])
    (child : Node E H) : (node.attach child).dynamic ≠ .captures none [] := by
  unfold attach
  cases child.kind with
  | root => exact hoccupied
  | literal => exact hoccupied
  | param name => simp
  | regex name source expression =>
    have hne : placeRegex source child node.regexChildren ≠ [] := by
      cases node.regexChildren with
      | nil => simp [placeRegex]
      | cons other rest =>
        rw [placeRegex]
        split <;> simp
    simp [hne]
  | wildcard => simp

variable [Constraint E]

/-- Attaching a child that fits keeps the children in order. -/
theorem arranged_attach {node child : Node E H} (harranged : node.Arranged)
    (hroom : node.HasRoom child) (hfits : node.Fits (node.place child) child) :
    (node.attach child).Arranged where
  sorted := statics_attach_sorted harranged.sorted child
  fits := by
    intro step other hother
    have hfitsHere : node.Fits step other := by
      rw [child?_attach hroom] at hother
      split at hother
      · next hstep =>
        have hsame : child = other := Option.some.inj hother
        rw [← hsame, hstep]
        exact hfits
      · exact harranged.fits hother
    exact ⟨hfitsHere.admitted, hfitsHere.called, by rw [attach_stem, hfitsHere.routed],
      hfitsHere.isSegment⟩
  separate := separate_attach harranged.separate
  occupied := occupied_attach harranged.occupied child

/-! ## Locating a segment -/

/-- Where a child stands there is room for a newcomer of its kind. -/
theorem hasRoom_of_child? {node child fresh : Node E H} (harranged : node.Arranged)
    {step : Descent} (hchild : node.child? step = some child) (hkind : fresh.kind = child.kind) :
    node.HasRoom fresh := by
  have hadmits := (harranged.fits hchild).admitted
  unfold HasRoom
  rw [hkind]
  cases step with
  | literal text => simp [hadmits.1]
  | param =>
    obtain ⟨name, hparam⟩ := hadmits
    obtain ⟨regexes, hdynamic⟩ := dynamic_of_param hchild
    simp [hparam, wildcardChild?, hdynamic]
  | regex index =>
    obtain ⟨name, source, expression, hregex⟩ := hadmits
    obtain ⟨param, regexes, hdynamic, -⟩ := dynamic_of_regex hchild
    simp [hregex, wildcardChild?, hdynamic]
  | wildcard =>
    have hwildcard : child.kind = .wildcard := hadmits
    simp [hwildcard, paramChild?, regexChildren, dynamic_of_wildcard hchild]

/-- Every wildcard has the same text. -/
theorem segment_of_wildcardChild {node child : Node E H} (harranged : node.Arranged)
    (hchild : node.child? .wildcard = some child) : child.segment = "*" := by
  have hfits := harranged.fits hchild
  have hkind : child.kind = .wildcard := hfits.admitted
  rcases called_cases hfits.called with
    ⟨text, -, hother⟩ | ⟨name, -, hother⟩ | ⟨name, source, expression, -, -, hother⟩ |
      ⟨hsegment, -⟩
  · simp [hkind] at hother
  · simp [hkind] at hother
  · simp [hkind] at hother
  · exact Segment.eq_text_of_ofText hsegment

/-- A segment whose text a child has already leads to that child. -/
theorem locate_of_present {node child fresh : Node E H} (harranged : node.Arranged)
    (hcalled : NodeKind.ofSegment (Segment.ofText fresh.segment) = .ok fresh.kind)
    {step : Descent} (hchild : node.child? step = some child)
    (htext : child.segment = fresh.segment) : node.locate fresh = .ok child := by
  have hkind := kind_eq_of_text_eq harranged hchild hcalled htext
  have hadmits := (harranged.fits hchild).admitted
  unfold locate
  rw [hkind]
  cases step with
  | literal text =>
    obtain ⟨hliteral, hown⟩ := hadmits
    have hbound : node.statics.get? fresh.segment = some child := by
      rw [← htext, hown]
      exact hchild
    simp [hliteral, hbound]
  | param =>
    obtain ⟨name, hparam⟩ := hadmits
    obtain ⟨regexes, hdynamic⟩ := dynamic_of_param hchild
    simp [hparam, hdynamic, htext]
  | regex index =>
    obtain ⟨name, source, expression, hregex⟩ := hadmits
    obtain ⟨param, regexes, hdynamic, hplaced⟩ := dynamic_of_regex hchild
    have hseparate := harranged.separate
    simp only [regexChildren, hdynamic] at hseparate
    have hindex : regexes.findIdx (hasSource source) = index :=
      findIdx_hasSource hseparate hplaced (by rw [hregex]; rfl)
    have hfind : regexes.find? (hasSource source) = some child := by
      rw [List.find?_eq_getElem?_findIdx, hindex, hplaced]
    simp [hregex, hdynamic, hfind, htext]
  | wildcard =>
    have hwildcard : child.kind = .wildcard := hadmits
    simp [hwildcard, dynamic_of_wildcard hchild]

/-- A segment whose text no child has meets its rival, or finds its place free. -/
theorem locate_of_absent {node fresh : Node E H} (harranged : node.Arranged)
    (hcalled : NodeKind.ofSegment (Segment.ofText fresh.segment) = .ok fresh.kind)
    (habsent : ¬ node.HasChild fresh.segment) :
    node.locate fresh =
      match node.rival? fresh.segment with
      | some existing => .error existing
      | none => .ok fresh := by
  unfold locate rival?
  rcases called_cases hcalled with
    ⟨text, hsegment, hkind⟩ | ⟨name, hsegment, hkind⟩ |
      ⟨name, source, expression, hsegment, -, hkind⟩ | ⟨hsegment, hkind⟩
  · rw [hkind, hsegment]
    cases hbound : node.statics.get? fresh.segment with
    | none => simp
    | some child =>
      have hfits : node.Fits (.literal fresh.segment) child := harranged.fits hbound
      exact absurd ⟨.literal fresh.segment, child, hbound, hfits.admitted.2⟩ habsent
  · rw [hkind, hsegment]
    cases hdynamic : node.dynamic with
    | vacant => simp [wildcardChild?, paramChild?, hdynamic]
    | captures param regexes =>
      cases param with
      | none => simp [wildcardChild?, paramChild?, hdynamic]
      | some existing =>
        have hdiffers : existing.segment ≠ fresh.segment := fun hsame =>
          habsent ⟨.param, existing, by simp [child?, paramChild?, hdynamic], hsame⟩
        simp [wildcardChild?, paramChild?, hdynamic, hdiffers]
    | wildcard only => simp [wildcardChild?, hdynamic]
  · rw [hkind, hsegment]
    cases hdynamic : node.dynamic with
    | vacant => simp [wildcardChild?, regexChildren, hdynamic]
    | captures param regexes =>
      cases hfind : regexes.find? (hasSource source) with
      | none => simp [wildcardChild?, regexChildren, hdynamic, hfind]
      | some existing =>
        obtain ⟨index, hindex⟩ := List.mem_iff_getElem?.mp (List.mem_of_find?_eq_some hfind)
        have hdiffers : existing.segment ≠ fresh.segment := fun hsame =>
          habsent ⟨.regex index, existing, by simpa [child?, regexChildren, hdynamic] using hindex,
            hsame⟩
        simp [wildcardChild?, regexChildren, hdynamic, hfind, hdiffers]
    | wildcard only => simp [wildcardChild?, hdynamic]
  · rw [hkind, hsegment]
    cases hdynamic : node.dynamic with
    | vacant => simp [paramChild?, regexChildren, hdynamic]
    | captures param regexes =>
      cases param with
      | some existing => simp [occupant, paramChild?, hdynamic]
      | none =>
        cases regexes with
        | nil => exact absurd hdynamic harranged.occupied
        | cons existing rest => simp [occupant, paramChild?, regexChildren, hdynamic]
    | wildcard only =>
      -- Every wildcard has the same text, so this one would not be absent.
      have hchild : node.child? .wildcard = some only := by
        simp [child?, wildcardChild?, hdynamic]
      have hstar := (segment_of_wildcardChild harranged hchild).trans
        (Segment.eq_text_of_ofText hsegment).symm
      exact absurd ⟨.wildcard, only, hchild, hstar⟩ habsent

/-! ## Free places -/

/-- Without a rival there is room. -/
theorem hasRoom_of_rival?_eq_none {node : Node E H} (fresh : Node E H)
    (hcalled : NodeKind.ofSegment (Segment.ofText fresh.segment) = .ok fresh.kind)
    (hfree : node.rival? fresh.segment = none) : node.HasRoom fresh := by
  unfold rival? at hfree
  unfold HasRoom
  rcases called_cases hcalled with
    ⟨text, hsegment, hkind⟩ | ⟨name, hsegment, hkind⟩ |
      ⟨name, source, expression, hsegment, -, hkind⟩ | ⟨hsegment, hkind⟩
  · simp [hkind]
  · rw [hsegment, Option.map_eq_none_iff, Option.or_eq_none_iff] at hfree
    simp only [hkind]
    exact hfree.1
  · rw [hsegment, Option.map_eq_none_iff, Option.or_eq_none_iff] at hfree
    simp only [hkind]
    exact hfree.1
  · rw [hsegment, Option.map_eq_none_iff, Option.or_eq_none_iff] at hfree
    simp only [hkind]
    exact ⟨hfree.1, List.head?_eq_none_iff.mp hfree.2⟩

/-- Without a rival, the place of a text that no child has is free. -/
theorem child?_place_of_absent {node : Node E H} (fresh : Node E H) (harranged : node.Arranged)
    (hcalled : NodeKind.ofSegment (Segment.ofText fresh.segment) = .ok fresh.kind)
    (habsent : ¬ node.HasChild fresh.segment) (hfree : node.rival? fresh.segment = none) :
    node.child? (node.place fresh) = none := by
  unfold rival? at hfree
  unfold place
  rcases called_cases hcalled with
    ⟨text, hsegment, hkind⟩ | ⟨name, hsegment, hkind⟩ |
      ⟨name, source, expression, hsegment, -, hkind⟩ | ⟨hsegment, hkind⟩
  · simp only [hkind]
    cases hbound : node.child? (.literal fresh.segment) with
    | none => rfl
    | some child =>
      exact absurd ⟨_, child, hbound, (harranged.fits hbound).admitted.2⟩ habsent
  · rw [hsegment, Option.map_eq_none_iff, Option.or_eq_none_iff] at hfree
    simp only [hkind]
    exact hfree.2
  · rw [hsegment, Option.map_eq_none_iff, Option.or_eq_none_iff] at hfree
    simp only [hkind, child?]
    rw [← List.find?_eq_getElem?_findIdx]
    exact hfree.2
  · simp only [hkind]
    cases hbound : node.child? .wildcard with
    | none => rfl
    | some child =>
      have hstar := (segment_of_wildcardChild harranged hbound).trans
        (Segment.eq_text_of_ofText hsegment).symm
      exact absurd ⟨.wildcard, child, hbound, hstar⟩ habsent

/-- Putting back a child that is there changes nothing. -/
theorem attach_eq_self {node child : Node E H} (harranged : node.Arranged) {step : Descent}
    (hchild : node.child? step = some child) : node.attach child = node := by
  have hadmits := (harranged.fits hchild).admitted
  unfold attach
  cases step with
  | literal text =>
    obtain ⟨hliteral, hown⟩ := hadmits
    have hstatics : node.statics.insert child.segment child = node.statics :=
      Table.insert_eq_self harranged.sorted (by rw [hown]; exact hchild)
    simp only [hliteral, hstatics]
    cases node
    rfl
  | param =>
    obtain ⟨name, hparam⟩ := hadmits
    obtain ⟨regexes, hdynamic⟩ := dynamic_of_param hchild
    have hslot : Dynamic.captures (some child) node.regexChildren = node.dynamic := by
      rw [regexChildren, hdynamic]
    simp only [hparam, hslot]
    cases node
    rfl
  | regex index =>
    obtain ⟨name, source, expression, hregex⟩ := hadmits
    obtain ⟨param, regexes, hdynamic, -⟩ := dynamic_of_regex hchild
    have hplaced : placeRegex source child node.regexChildren = node.regexChildren := by
      have hindex : node.regexChildren.findIdx (hasSource source) = index :=
        findIdx_hasSource harranged.separate hchild (by rw [hregex]; rfl)
      refine List.ext_getElem? fun other => ?_
      rw [getElem?_placeRegex, hindex]
      split
      · next hsame =>
        subst hsame
        exact hchild.symm
      · rfl
    have hslot : Dynamic.captures node.paramChild? node.regexChildren = node.dynamic := by
      rw [paramChild?, regexChildren, hdynamic]
    simp only [hregex, hplaced, hslot]
    cases node
    rfl
  | wildcard =>
    have hwildcard : child.kind = .wildcard := hadmits
    simp only [hwildcard, ← dynamic_of_wildcard hchild]
    cases node
    rfl

end Node

end PathRouting
