import Mathlib.Data.List.Forall2
import PathRouting.Proofs.Listing
set_option autoImplicit false

/-!
# Trees of the same routes

Routing trees that are records of the same routes are `Similar`: they differ in the order of the
expressions below a node, and in nothing else (`similar_of_records`).  Where the expressions stand
in the same order too, the trees are the same (`eq_of_records`).  Both are proved by going down the
two trees together, from a child to the child with the same text (`twins_induction`).
-/

namespace PathRouting

variable {E H : Type}

namespace Node

/-! ## Trees that differ in the order of expressions -/

/-- Two trees are the same up to the order of the expressions below each node. -/
inductive Similar : Node E H → Node E H → Prop where
  | intro {node other : Node E H} {order : List (Node E H)}
      (kind : other.kind = node.kind)
      (segment : other.segment = node.segment)
      (fullRoute : other.fullRoute = node.fullRoute)
      (handler : other.handler = node.handler)
      (statics : ∀ text, Option.Rel Similar (node.staticChild? text) (other.staticChild? text))
      (param : Option.Rel Similar node.paramChild? other.paramChild?)
      (wildcard : Option.Rel Similar node.wildcardChild? other.wildcardChild?)
      (reordered : node.regexChildren.Perm order)
      (regexes : List.Forall₂ Similar order other.regexChildren) : Similar node other

/-! ## A node and its children -/

/-- What stands in the dynamic slot can be told from the children in it. -/
theorem dynamic_eq {node : Node E H} (hoccupied : node.dynamic ≠ .captures none []) :
    node.dynamic =
      match node.wildcardChild? with
      | some child => .wildcard child
      | none =>
        match node.paramChild?, node.regexChildren with
        | none, [] => .vacant
        | param, regexes => .captures param regexes := by
  unfold wildcardChild? paramChild? regexChildren
  cases hdynamic : node.dynamic with
  | vacant => rfl
  | wildcard child => rfl
  | captures param regexes =>
    cases param with
    | some child => rfl
    | none =>
      cases regexes with
      | nil => exact absurd hdynamic hoccupied
      | cons first rest => rfl

/-- Two nodes say the same of themselves. -/
structure SameLabel (node other : Node E H) : Prop where
  kind : other.kind = node.kind
  segment : other.segment = node.segment
  fullRoute : other.fullRoute = node.fullRoute

theorem SameLabel.stem_eq {node other : Node E H} (hlabel : SameLabel node other) :
    other.stem = node.stem := by
  unfold stem
  rw [hlabel.kind, hlabel.fullRoute]

/-- Where a child is put does not depend on the node, unless it is an expression. -/
theorem place_cases (node other child : Node E H) :
    other.place child = node.place child ∨
      ∃ index index', node.place child = .regex index ∧ other.place child = .regex index' := by
  unfold place
  cases child.kind with
  | root => exact Or.inl rfl
  | literal => exact Or.inl rfl
  | param name => exact Or.inl rfl
  | regex name source expression => exact Or.inr ⟨_, _, rfl, rfl⟩
  | wildcard => exact Or.inl rfl

variable [Constraint E]

/-- A node is determined by its label, its handler and its children. -/
theorem eq_of_child?_eq {node other : Node E H} (harranged : node.Arranged)
    (harranged' : other.Arranged) (hlabel : SameLabel node other)
    (hhandler : other.handler = node.handler)
    (hchild : ∀ step, other.child? step = node.child? step) : other = node := by
  have hstatics : other.statics = node.statics :=
    Table.eq_of_get?_eq harranged'.sorted harranged.sorted fun text => hchild (.literal text)
  have hparam : other.paramChild? = node.paramChild? := hchild .param
  have hwildcard : other.wildcardChild? = node.wildcardChild? := hchild .wildcard
  have hregexes : other.regexChildren = node.regexChildren :=
    List.ext_getElem? fun index => hchild (.regex index)
  have hdynamic : other.dynamic = node.dynamic := by
    rw [dynamic_eq harranged'.occupied, dynamic_eq harranged.occupied, hwildcard, hparam, hregexes]
  have hkind := hlabel.kind
  have hsegment := hlabel.segment
  have hroute := hlabel.fullRoute
  cases node
  cases other
  simp only at hkind hsegment hroute hhandler hstatics hdynamic
  rw [hkind, hsegment, hroute, hhandler, hstatics, hdynamic]

/-! ## Nodes with the same texts below them -/

/-- Children with the same text are related. -/
def Matched (related : Node E H → Node E H → Prop) (node other : Node E H) : Prop :=
  ∀ {step step' : Descent} {child twin : Node E H}, node.child? step = some child →
    other.child? step' = some twin → twin.segment = child.segment → related child twin

omit [Constraint E] in
theorem Matched.rel_child? {related : Node E H → Node E H → Prop} {node other : Node E H}
    (hmatched : Matched related node other) {step : Descent}
    (hsame : (other.child? step).map (·.segment) = (node.child? step).map (·.segment)) :
    Option.Rel related (node.child? step) (other.child? step) := by
  cases hchild : node.child? step with
  | some child =>
    rw [hchild, Option.map_some, Option.map_eq_some_iff] at hsame
    obtain ⟨twin, htwin, htext⟩ := hsame
    rw [htwin]
    exact .some (hmatched hchild htwin htext)
  | none =>
    rw [hchild, Option.map_none, Option.map_eq_none_iff] at hsame
    rw [hsame]
    exact .none

/-- Two nodes in order are alike but for what their children hold and how expressions stand. -/
structure Twins (node other : Node E H) : Prop extends SameLabel node other where
  arranged : node.Arranged
  arranged' : other.Arranged
  handler : other.handler = node.handler
  texts : ∀ text, node.HasChild text ↔ other.HasChild text

namespace Twins

variable {node other : Node E H}

theorem symm (htwins : Twins node other) : Twins other node where
  kind := htwins.kind.symm
  segment := htwins.segment.symm
  fullRoute := htwins.fullRoute.symm
  arranged := htwins.arranged'
  arranged' := htwins.arranged
  handler := htwins.handler.symm
  texts text := (htwins.texts text).symm

/-- Children with the same text say the same of themselves. -/
theorem sameLabel (htwins : Twins node other) {step step' : Descent} {child twin : Node E H}
    (hchild : node.child? step = some child) (htwin : other.child? step' = some twin)
    (htext : twin.segment = child.segment) : SameLabel child twin := by
  have hfits := htwins.arranged.fits hchild
  have hfits' := htwins.arranged'.fits htwin
  have hkind : twin.kind = child.kind :=
    kind_eq_of_text_eq htwins.arranged hchild hfits'.called htext.symm
  have hroute : twin.fullRoute = child.fullRoute := by
    rw [hfits.routed, hfits'.routed, htwins.stem_eq, htext]
  exact ⟨hkind, htext, hroute⟩

/-- A child has its counterpart under the other node, which stands in the same place unless it is an
expression. -/
theorem exists_twin (htwins : Twins node other) {step : Descent} {child : Node E H}
    (hchild : node.child? step = some child) :
    ∃ step' twin, other.child? step' = some twin ∧ twin.segment = child.segment ∧
      (step' = step ∨ ∃ index index', step = .regex index ∧ step' = .regex index') := by
  obtain ⟨step', twin, htwin, htext⟩ := (htwins.texts child.segment).mp ⟨step, child, hchild, rfl⟩
  have hkind := (htwins.sameLabel hchild htwin htext).kind
  have hplace : node.place twin = step := place_eq_of_child? htwins.arranged hchild hkind htext
  have hplace' : other.place twin = step' := place_eq_of_child? htwins.arranged' htwin rfl rfl
  refine ⟨step', twin, htwin, htext, ?_⟩
  rw [← hplace, ← hplace']
  exact place_cases node other twin

/-- Away from the expressions the same places are taken, by children with the same texts. -/
theorem map_segment_child? (htwins : Twins node other) {step : Descent}
    (hstep : ∀ index, step ≠ .regex index) :
    (other.child? step).map (·.segment) = (node.child? step).map (·.segment) := by
  cases hchild : node.child? step with
  | some child =>
    obtain ⟨step', twin, htwin, htext, hsame | ⟨index, -, hregex, -⟩⟩ := htwins.exists_twin hchild
    · rw [← hsame, htwin, Option.map_some, Option.map_some, htext]
    · exact absurd hregex (hstep index)
  | none =>
    cases htwin : other.child? step with
    | none => rfl
    | some twin =>
      obtain ⟨step', child, hchild', -, hsame | ⟨index, -, hregex, -⟩⟩ :=
        htwins.symm.exists_twin htwin
      · rw [hsame, hchild] at hchild'
        cases hchild'
      · exact absurd hregex (hstep index)

theorem nodup_regexTexts (harranged : node.Arranged) :
    (node.regexChildren.map (·.segment)).Nodup := by
  refine (nodup_children harranged).sublist (List.Sublist.map _ ?_)
  unfold children
  exact (List.sublist_append_right _ _).trans
    ((List.sublist_append_left _ _).trans (List.sublist_append_left _ _))

/-- Every expression is an expression under the other node too. -/
theorem mem_regexTexts (htwins : Twins node other) {text : String}
    (hmem : text ∈ node.regexChildren.map (·.segment)) :
    text ∈ other.regexChildren.map (·.segment) := by
  obtain ⟨child, hchild, rfl⟩ := List.mem_map.mp hmem
  obtain ⟨index, hindex⟩ := List.mem_iff_getElem?.mp hchild
  have hplaced : node.child? (.regex index) = some child := hindex
  obtain ⟨step', twin, htwin, htext, hstep⟩ := htwins.exists_twin hplaced
  obtain ⟨index', rfl⟩ : ∃ index', step' = .regex index' := by
    rcases hstep with hsame | ⟨_, index', -, hregex⟩
    · exact ⟨index, hsame⟩
    · exact ⟨index', hregex⟩
  exact List.mem_map.mpr ⟨twin, List.mem_iff_getElem?.mpr ⟨index', htwin⟩, htext⟩

theorem regexTexts_perm (htwins : Twins node other) :
    (node.regexChildren.map (·.segment)).Perm (other.regexChildren.map (·.segment)) :=
  (List.perm_ext_iff_of_nodup (nodup_regexTexts htwins.arranged)
    (nodup_regexTexts htwins.arranged')).mpr fun _ =>
      ⟨htwins.mem_regexTexts, htwins.symm.mem_regexTexts⟩

/-- Nodes whose children are similar, text by text, are similar. -/
theorem similar (htwins : Twins node other) (hbelow : Matched Similar node other) :
    Similar node other := by
  have horder : Relation.Comp (· = List.map (·.segment) ·) List.Perm
      (other.regexChildren.map (·.segment)) node.regexChildren := by
    rw [List.eq_map_comp_perm]
    exact htwins.regexTexts_perm.symm
  obtain ⟨order, htexts, hperm⟩ := horder
  have hlength : order.length = other.regexChildren.length := by
    simpa using (congrArg List.length htexts).symm
  have helsewhere : ∀ step : Descent, (∀ index, step ≠ .regex index) →
      Option.Rel Similar (node.child? step) (other.child? step) := fun step hstep =>
    hbelow.rel_child? (htwins.map_segment_child? hstep)
  refine .intro htwins.kind htwins.segment htwins.fullRoute htwins.handler
    (fun text => helsewhere (.literal text) (by simp)) (helsewhere .param (by simp))
    (helsewhere .wildcard (by simp)) hperm.symm
    (List.forall₂_iff_get.mpr ⟨hlength, fun index hindex hindex' => ?_⟩)
  obtain ⟨place, hplace⟩ := List.mem_iff_getElem?.mp (hperm.mem_iff.mp (List.getElem_mem hindex))
  have hchild : node.child? (.regex place) = some order[index] := hplace
  have htwin : other.child? (.regex index) = some other.regexChildren[index] :=
    List.getElem?_eq_getElem hindex'
  have htext : (other.regexChildren[index]).segment = (order[index]).segment := by
    have hentry := congrArg (·[index]?) htexts
    simpa [hindex, hindex'] using hentry
  exact hbelow hchild htwin htext

/-- Nodes whose children are the same, text by text, are the same when their expressions stand in the
same order. -/
theorem eq_of_order (htwins : Twins node other) (hbelow : Matched Eq node other)
    (horder : other.regexChildren.map (·.segment) = node.regexChildren.map (·.segment)) :
    node = other := by
  refine (eq_of_child?_eq htwins.arranged htwins.arranged' htwins.toSameLabel htwins.handler
    fun step => ?_).symm
  have hsame : (other.child? step).map (·.segment) = (node.child? step).map (·.segment) := by
    cases step with
    | literal text => exact htwins.map_segment_child? (by simp)
    | param => exact htwins.map_segment_child? (by simp)
    | wildcard => exact htwins.map_segment_child? (by simp)
    | regex index =>
      show other.regexChildren[index]?.map (·.segment) = node.regexChildren[index]?.map (·.segment)
      rw [← List.getElem?_map, ← List.getElem?_map, horder]
  have hrel := hbelow.rel_child? hsame
  generalize node.child? step = child at hrel
  generalize other.child? step = twin at hrel
  cases hrel with
  | some hchild => rw [hchild]
  | none => rfl

end Twins

/-! ## Records of the same routes -/

omit [Constraint E] in
/-- Of a record without doubles the handler is that of the entry that ends here. -/
theorem Records.handler_eq_some_iff {node : Node E H} {entries : RouteList H}
    (hrecords : Records node entries) (honce : entries.patterns.Nodup) (handler : H) :
    node.handler = some handler ↔ ([], handler) ∈ entries := by
  refine ⟨hrecords.mem_of_handler, ?_⟩
  intro hmem
  obtain ⟨bound, hbound⟩ :=
    Option.isSome_iff_exists.mp (hrecords.handler_isSome_iff.mpr ⟨handler, hmem⟩)
  have hentry := List.inj_on_of_nodup_map honce (hrecords.mem_of_handler hbound) hmem rfl
  rw [hbound, (Prod.mk.inj hentry).2]

/-- Records of the same routes, whatever their order, have the same texts below them. -/
theorem Records.twins {node other : Node E H} {entries entries' : RouteList H}
    (hrecords : Records node entries) (hrecords' : Records other entries')
    (hperm : entries.Perm entries') (honce : entries.patterns.Nodup) (harranged : node.Arranged)
    (harranged' : other.Arranged) (hlabel : SameLabel node other) : Twins node other where
  toSameLabel := hlabel
  arranged := harranged
  arranged' := harranged'
  handler := by
    have honce' : entries'.patterns.Nodup := (hperm.map _).nodup_iff.mp honce
    apply Option.ext
    intro handler
    rw [hrecords'.handler_eq_some_iff honce', hrecords.handler_eq_some_iff honce, hperm.mem_iff]
  texts text := by
    rw [hrecords.hasChild_iff, hrecords'.hasChild_iff]
    exact (hperm.filterMap _).mem_iff

/-- What holds of twins once it holds of their children with the same text holds of all records of
the same routes. -/
theorem twins_induction {motive : Node E H → Node E H → Prop}
    (hstep : ∀ {node other : Node E H}, Twins node other → Matched motive node other →
      motive node other)
    {node other : Node E H} {entries entries' : RouteList H} (hwell : node.WellFormed)
    (hwell' : other.WellFormed) (hrecords : Records node entries)
    (hrecords' : Records other entries') (hperm : entries.Perm entries')
    (honce : entries.patterns.Nodup) (hlabel : SameLabel node other) : motive node other := by
  induction hwell generalizing other entries entries' with
  | @intro node harranged hbelow ih =>
    have htwins := hrecords.twins hrecords' hperm honce harranged hwell'.arranged hlabel
    apply hstep htwins
    intro step step' child twin hchild htwin htext
    exact ih hchild (hwell'.child htwin) (hrecords.child hchild) (htext ▸ hrecords'.child htwin)
      (hperm.filterMap _) (RouteList.nodup_patterns_below honce child.segment)
      (htwins.sameLabel hchild htwin htext)

/-- Records of the same routes are similar. -/
theorem similar_of_records {node other : Node E H} {entries entries' : RouteList H}
    (hwell : node.WellFormed) (hwell' : other.WellFormed) (hrecords : Records node entries)
    (hrecords' : Records other entries') (hperm : entries.Perm entries')
    (honce : entries.patterns.Nodup) (hlabel : SameLabel node other) : Similar node other :=
  twins_induction Twins.similar hwell hwell' hrecords hrecords' hperm honce hlabel

/-- After the same texts the expressions stand in the same order in both trees. -/
def SameOrder (node other : Node E H) : Prop :=
  ∀ {texts : List String} {steps steps' : List Descent} {final final' : Node E H},
    node.Reaches steps texts final → other.Reaches steps' texts final' →
      final'.regexChildren.map (·.segment) = final.regexChildren.map (·.segment)

/-- Records of the same routes are the same when their expressions stand in the same order. -/
theorem eq_of_records {node other : Node E H} {entries entries' : RouteList H}
    (hwell : node.WellFormed) (hwell' : other.WellFormed) (hrecords : Records node entries)
    (hrecords' : Records other entries') (hperm : entries.Perm entries')
    (honce : entries.patterns.Nodup) (hlabel : SameLabel node other)
    (horder : SameOrder node other) : node = other := by
  refine twins_induction (motive := fun node other => SameOrder node other → node = other) ?_
    hwell hwell' hrecords hrecords' hperm honce hlabel horder
  intro node other htwins hbelow horder
  refine htwins.eq_of_order ?_ (horder (.here node) (.here other))
  intro step step' child twin hchild htwin htext
  apply hbelow hchild htwin htext
  intro texts steps steps' final final' hreaches hreaches'
  have htwinReaches : other.Reaches (step' :: steps') (child.segment :: texts) final' :=
    htext ▸ .down htwin hreaches'
  exact horder (.down hchild hreaches) htwinReaches

end Node

end PathRouting
