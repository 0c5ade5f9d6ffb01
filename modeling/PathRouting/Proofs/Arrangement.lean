import PathRouting.Node.Insert
import PathRouting.Proofs.Pattern
import PathRouting.Proofs.Table
set_option autoImplicit false

/-!
# The arrangement of a routing tree

`Node.WellFormed` is the invariant of routing trees: below every node each child stands in the place
that its own text calls for, no place holds two children, and the routes are written along the way
down.  It follows that siblings differ in their texts (`child?_unique`) and that one walk only leads
to a node (`walk?_injective`).
-/

namespace PathRouting

variable {E H : Type}

/-! ## Places -/

/-- The children that may stand at the end of a step. -/
def Descent.Admits : Descent → Node E H → Prop
  | .literal text, child => child.kind = .literal ∧ child.segment = text
  | .param, child => ∃ name, child.kind = .param name
  | .regex _, child => ∃ name source expression, child.kind = .regex name source expression
  | .wildcard, child => child.kind = .wildcard

namespace Node

/-- The route that the routes of a node's children go on from; a root adds nothing to it. -/
def stem (node : Node E H) : String :=
  match node.kind with
  | .root => ""
  | .literal => node.fullRoute
  | .param _ => node.fullRoute
  | .regex _ _ _ => node.fullRoute
  | .wildcard => node.fullRoute

theorem stem_of_kind_ne_root {node : Node E H} (hkind : node.kind ≠ .root) :
    node.stem = node.fullRoute := by
  unfold stem
  split
  · next hroot => exact absurd hroot hkind
  all_goals rfl

/-- The place that a child is put in. -/
def place (node child : Node E H) : Descent :=
  match child.kind with
  | .root => .literal child.segment
  | .literal => .literal child.segment
  | .param _ => .param
  | .regex _ source _ => .regex (node.regexChildren.findIdx (hasSource source))
  | .wildcard => .wildcard

theorem hasSource_iff {source : String} {node : Node E H} :
    node.hasSource source = true ↔ node.kind.source? = some source := by
  simp [hasSource]

theorem findIdx_hasSource {regexes : List (Node E H)}
    (hpairs : regexes.Pairwise fun a b => a.kind.source? ≠ b.kind.source?) {index : Nat}
    {child : Node E H} {source : String} (hchild : regexes[index]? = some child)
    (hsource : child.kind.source? = some source) : regexes.findIdx (hasSource source) = index := by
  obtain ⟨hlt, hget⟩ := List.getElem?_eq_some_iff.mp hchild
  refine (List.findIdx_eq hlt).mpr ⟨hasSource_iff.mpr (by rw [hget, hsource]), fun j hj => ?_⟩
  have hdiffers := List.pairwise_iff_getElem.mp hpairs j index (Nat.lt_trans hj hlt) hlt hj
  rw [hget, hsource] at hdiffers
  exact Bool.eq_false_iff.mpr fun hsame => hdiffers (hasSource_iff.mp hsame)

/-! ## The slot of the other children -/

theorem dynamic_of_param {node child : Node E H} (hchild : node.child? .param = some child) :
    ∃ regexes, node.dynamic = .captures (some child) regexes := by
  simp only [child?, paramChild?] at hchild
  cases hdynamic : node.dynamic with
  | vacant => simp [hdynamic] at hchild
  | captures param regexes =>
    rw [hdynamic] at hchild
    exact ⟨regexes, congrArg (Dynamic.captures · regexes) hchild⟩
  | wildcard only => simp [hdynamic] at hchild

theorem dynamic_of_regex {node child : Node E H} {index : Nat}
    (hchild : node.child? (.regex index) = some child) :
    ∃ param regexes, node.dynamic = .captures param regexes ∧ regexes[index]? = some child := by
  simp only [child?, regexChildren] at hchild
  cases hdynamic : node.dynamic with
  | vacant => simp [hdynamic] at hchild
  | captures param regexes =>
    rw [hdynamic] at hchild
    exact ⟨param, regexes, rfl, hchild⟩
  | wildcard only => simp [hdynamic] at hchild

theorem dynamic_of_wildcard {node child : Node E H} (hchild : node.child? .wildcard = some child) :
    node.dynamic = .wildcard child := by
  simp only [child?, wildcardChild?] at hchild
  cases hdynamic : node.dynamic with
  | vacant => simp [hdynamic] at hchild
  | captures param regexes => simp [hdynamic] at hchild
  | wildcard only =>
    rw [hdynamic] at hchild
    exact congrArg Dynamic.wildcard (Option.some.inj hchild)

variable [Constraint E]

/-! ## Order -/

/-- A child fits below a node: it stands where its kind belongs, its kind is the one that its text
calls for, and its route goes on from the node's. -/
structure Fits (node : Node E H) (step : Descent) (child : Node E H) : Prop where
  admitted : step.Admits child
  called : NodeKind.ofSegment (Segment.ofText child.segment) = .ok child.kind
  routed : child.fullRoute = node.stem ++ "/" ++ child.segment
  isSegment : Path.IsSegment child.segment

/-- The children of a node are in order. -/
structure Arranged (node : Node E H) : Prop where
  sorted : node.statics.Sorted
  fits : ∀ {step : Descent} {child : Node E H}, node.child? step = some child → node.Fits step child
  separate : node.regexChildren.Pairwise fun a b => a.kind.source? ≠ b.kind.source?
  occupied : node.dynamic ≠ .captures none []

/-- The children of a node are in order, and so is everything below them. -/
inductive WellFormed : Node E H → Prop where
  | intro {node : Node E H} (arranged : node.Arranged)
      (below : ∀ {step : Descent} {child : Node E H},
        node.child? step = some child → WellFormed child) : WellFormed node

theorem WellFormed.arranged {node : Node E H} (hwell : node.WellFormed) : node.Arranged := by
  cases hwell with
  | intro arranged _ => exact arranged

theorem WellFormed.child {node child : Node E H} {step : Descent} (hwell : node.WellFormed)
    (hchild : node.child? step = some child) : child.WellFormed := by
  cases hwell with
  | intro _ below => exact below hchild

/-! ## Kinds -/

/-- The kinds of nodes that segments call for. -/
theorem called_cases {segment : Segment} {kind : NodeKind E}
    (hcalled : NodeKind.ofSegment segment = .ok kind) :
    (∃ text, segment = .literal text ∧ kind = .literal) ∨
    (∃ name, segment = .param name ∧ kind = .param name) ∨
    (∃ name source expression, segment = .regex name source ∧
      Constraint.compile source = .ok expression ∧ kind = .regex name source expression) ∨
    (segment = .wildcard ∧ kind = .wildcard) := by
  cases segment with
  | literal text => exact Or.inl ⟨text, rfl, (Except.ok.inj hcalled).symm⟩
  | param name => exact Or.inr (Or.inl ⟨name, rfl, (Except.ok.inj hcalled).symm⟩)
  | regex name source =>
    simp only [NodeKind.ofSegment] at hcalled
    split at hcalled
    · cases hcalled
    · next expression hcompiled =>
      exact Or.inr (Or.inr (Or.inl
        ⟨name, source, expression, rfl, hcompiled, (Except.ok.inj hcalled).symm⟩))
  | wildcard => exact Or.inr (Or.inr (Or.inr ⟨rfl, (Except.ok.inj hcalled).symm⟩))

theorem kind_ne_root_of_called {kind : NodeKind E} {segment : Segment}
    (hcalled : NodeKind.ofSegment segment = .ok kind) : kind ≠ .root := by
  rcases called_cases hcalled with
    ⟨text, -, rfl⟩ | ⟨name, -, rfl⟩ | ⟨name, source, expression, -, -, rfl⟩ | ⟨-, rfl⟩
  all_goals simp

theorem Fits.stem_eq {node child : Node E H} {step : Descent} (hfits : node.Fits step child) :
    child.stem = node.stem ++ "/" ++ child.segment := by
  rw [stem_of_kind_ne_root (kind_ne_root_of_called hfits.called), hfits.routed]

omit [Constraint E] in
theorem child?_bare (kind : NodeKind E) (segment fullRoute : String) (step : Descent) :
    (bare kind segment fullRoute : Node E H).child? step = none := by
  cases step with
  | literal text => rfl
  | param => rfl
  | regex index => rfl
  | wildcard => rfl

/-- A node without children is in order. -/
theorem wellFormed_bare (kind : NodeKind E) (segment fullRoute : String) :
    (bare kind segment fullRoute : Node E H).WellFormed := by
  refine .intro ⟨Table.sorted_empty, ?_, List.Pairwise.nil, by simp [bare]⟩ ?_
  · intro step child hchild
    rw [child?_bare] at hchild
    cases hchild
  · intro step child hchild
    rw [child?_bare] at hchild
    cases hchild

/-! ## Siblings -/

/-- A child stands where a newcomer with its text and kind would be put. -/
theorem place_eq_of_child? {node child fresh : Node E H} (harranged : node.Arranged)
    {step : Descent} (hchild : node.child? step = some child) (hkind : fresh.kind = child.kind)
    (htext : fresh.segment = child.segment) : node.place fresh = step := by
  have hadmits := (harranged.fits hchild).admitted
  unfold place
  cases step with
  | literal text =>
    obtain ⟨hliteral, hown⟩ := hadmits
    rw [hkind, hliteral]
    exact congrArg Descent.literal (htext.trans hown)
  | param =>
    obtain ⟨name, hparam⟩ := hadmits
    rw [hkind, hparam]
  | regex index =>
    obtain ⟨name, source, expression, hregex⟩ := hadmits
    rw [hkind, hregex]
    exact congrArg Descent.regex
      (findIdx_hasSource harranged.separate hchild (by rw [hregex]; rfl))
  | wildcard =>
    have hwildcard : child.kind = .wildcard := hadmits
    rw [hkind, hwildcard]

/-- Two texts of the same kind of segment call for the same kind of node. -/
theorem kind_eq_of_text_eq {node child fresh : Node E H} (harranged : node.Arranged)
    {step : Descent} (hchild : node.child? step = some child)
    (hcalled : NodeKind.ofSegment (Segment.ofText fresh.segment) = .ok fresh.kind)
    (htext : child.segment = fresh.segment) : fresh.kind = child.kind := by
  have hkind := (harranged.fits hchild).called
  rw [htext, hcalled] at hkind
  exact Except.ok.inj hkind

/-- No two places hold children with the same text. -/
theorem child?_unique {node : Node E H} (harranged : node.Arranged) {step other : Descent}
    {child sibling : Node E H} (hchild : node.child? step = some child)
    (hsibling : node.child? other = some sibling) (htext : child.segment = sibling.segment) :
    step = other := by
  have hkind : child.kind = sibling.kind :=
    kind_eq_of_text_eq harranged hsibling (harranged.fits hchild).called htext.symm
  rw [← place_eq_of_child? harranged hchild rfl rfl]
  exact place_eq_of_child? harranged hsibling hkind htext

/-! ## Walks -/

omit [Constraint E] in
theorem walk?_cons {node final : Node E H} {step : Descent} {rest : List Descent} :
    node.walk? (step :: rest) = some final ↔
      ∃ child, node.child? step = some child ∧ child.walk? rest = some final := by
  rw [walk?]
  cases node.child? step with
  | none => simp
  | some child => simp

omit [Constraint E] in
/-- The steps lead from the first node to the last one, through children with the given texts. -/
inductive Reaches : Node E H → List Descent → List String → Node E H → Prop where
  | here (node : Node E H) : Reaches node [] [] node
  | down {node child final : Node E H} {step : Descent} {steps : List Descent}
      {texts : List String} (hchild : node.child? step = some child)
      (hrest : Reaches child steps texts final) :
      Reaches node (step :: steps) (child.segment :: texts) final

omit [Constraint E] in
theorem reaches_of_walk? {node final : Node E H} {steps : List Descent}
    (hwalk : node.walk? steps = some final) : ∃ texts, Reaches node steps texts final := by
  induction steps generalizing node with
  | nil =>
    have hhere : node = final := Option.some.inj hwalk
    exact ⟨[], hhere ▸ .here node⟩
  | cons step rest ih =>
    obtain ⟨child, hchild, htail⟩ := walk?_cons.mp hwalk
    obtain ⟨texts, hreaches⟩ := ih htail
    exact ⟨child.segment :: texts, .down hchild hreaches⟩

theorem Reaches.isSegment {node final : Node E H} {steps : List Descent} {texts : List String}
    (hreaches : Reaches node steps texts final) (hwell : node.WellFormed) :
    ∀ text ∈ texts, Path.IsSegment text := by
  induction hreaches with
  | here node => simp
  | down hchild _ ih =>
    intro text hmem
    cases List.mem_cons.mp hmem with
    | inl hfirst => exact hfirst ▸ (hwell.arranged.fits hchild).isSegment
    | inr hlater => exact ih (hwell.child hchild) text hlater

/-- The route at the end of a walk spells out the texts on the way. -/
theorem Reaches.stem_eq {node final : Node E H} {steps : List Descent} {texts : List String}
    (hreaches : Reaches node steps texts final) (hwell : node.WellFormed) :
    final.stem = node.stem ++ Path.slashed texts := by
  induction hreaches with
  | here node => simp
  | down hchild _ ih =>
    rw [ih (hwell.child hchild), (hwell.arranged.fits hchild).stem_eq, Path.slashed_cons]
    simp only [String.append_assoc]

omit [Constraint E] in
theorem Reaches.length_eq {node final : Node E H} {steps : List Descent} {texts : List String}
    (hreaches : Reaches node steps texts final) : texts.length = steps.length := by
  induction hreaches with
  | here node => rfl
  | down _ _ ih => rw [List.length_cons, List.length_cons, ih]

omit [Constraint E] in
theorem Reaches.walk?_eq {node final : Node E H} {steps : List Descent} {texts : List String}
    (hreaches : Reaches node steps texts final) : node.walk? steps = some final := by
  induction hreaches with
  | here node => rfl
  | down hchild _ ih => exact walk?_cons.mpr ⟨_, hchild, ih⟩

/-- The last node of a walk fits below the one before it, and its text is the last on the way. -/
theorem Reaches.exists_parent {node final : Node E H} {steps : List Descent} {texts : List String}
    (hreaches : Reaches node steps texts final) (hwell : node.WellFormed) (hsome : texts ≠ []) :
    ∃ parent step, Fits parent step final ∧ texts.getLast? = some final.segment := by
  induction hreaches with
  | here node => exact absurd rfl hsome
  | @down node child final step steps texts hchild hrest ih =>
    cases hrest with
    | here => exact ⟨node, step, hwell.arranged.fits hchild, rfl⟩
    | down _ _ =>
      obtain ⟨parent, step, hfits, hlast⟩ := ih (hwell.child hchild) (List.cons_ne_nil _ _)
      exact ⟨parent, step, hfits, by rw [List.getLast?_cons_cons, hlast]⟩

/-- The route of a node is the pattern that the texts on the way are written as. -/
theorem Reaches.fullRoute_eq {tree node : Node E H} {steps : List Descent} {texts : List String}
    (hreaches : Reaches tree steps texts node) (hwell : tree.WellFormed)
    (hkind : tree.kind = .root) (hroute : tree.fullRoute = "/") :
    node.fullRoute = Path.render texts := by
  by_cases hnil : texts = []
  · subst hnil
    cases hreaches
    exact hroute
  · obtain ⟨parent, step, hfits, -⟩ := hreaches.exists_parent hwell hnil
    have hstem := hreaches.stem_eq hwell
    rw [stem_of_kind_ne_root (kind_ne_root_of_called hfits.called)] at hstem
    rw [hstem, Path.render_eq_slashed hnil, stem, hkind, String.empty_append]

/-- The texts on the way determine the steps. -/
theorem Reaches.steps_unique {node final other : Node E H} {steps steps' : List Descent}
    {texts : List String} (hreaches : Reaches node steps texts final) (hwell : node.WellFormed)
    (hreaches' : Reaches node steps' texts other) : steps = steps' := by
  induction hreaches generalizing steps' with
  | here node =>
    cases hreaches'
    rfl
  | @down node child final step steps texts hchild hrest ih =>
    generalize htexts : child.segment :: texts = all at hreaches'
    cases hreaches' with
    | here => cases htexts
    | @down _ sibling _ step' steps' texts' hsibling hrest' =>
      obtain ⟨htext, htail⟩ := List.cons.inj htexts
      have hstep : step = step' := child?_unique hwell.arranged hchild hsibling htext
      subst hstep
      subst htail
      have hsame : child = sibling := Option.some.inj (hchild.symm.trans hsibling)
      subst hsame
      rw [ih (hwell.child hchild) hrest']

/-- A node stands at one place of its tree only. -/
theorem walk?_injective {tree node : Node E H} {steps steps' : List Descent}
    (hwell : tree.WellFormed) (hwalk : tree.walk? steps = some node)
    (hwalk' : tree.walk? steps' = some node) : steps = steps' := by
  obtain ⟨texts, hreaches⟩ := reaches_of_walk? hwalk
  obtain ⟨texts', hreaches'⟩ := reaches_of_walk? hwalk'
  have hstems : tree.stem ++ Path.slashed texts = tree.stem ++ Path.slashed texts' :=
    (hreaches.stem_eq hwell).symm.trans (hreaches'.stem_eq hwell)
  have hslashed : Path.slashed texts = Path.slashed texts' := by
    refine String.ext ?_
    have hlists := congrArg String.toList hstems
    rw [String.toList_append, String.toList_append] at hlists
    exact List.append_cancel_left hlists
  have htexts : texts = texts' :=
    Path.slashed_injective (hreaches.isSegment hwell) (hreaches'.isSegment hwell) hslashed
  subst htexts
  exact hreaches.steps_unique hwell hreaches'

end Node

end PathRouting
