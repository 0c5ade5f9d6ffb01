import PathRouting.Proofs.Placement
set_option autoImplicit false

/-!
# Insertion into a tree

`insert_cases` says all that one step of a registration can do: go on below the child that is there,
stop at a rival, or go on below a new child.  From it follow that a registration keeps a tree in
order (`wellFormed_insert`) and that one that fails leaves the tree as it was
(`insert_eq_self_of_error`): rivals and bound handlers are met only at nodes that were there before,
and nothing is put above them that was not there.
-/

namespace PathRouting.Node

variable {E H : Type}

/-! ## What an insertion leaves alone -/

/-- What neither attaching a child nor binding a handler changes, an insertion does not change. -/
theorem insert_unchanged {α : Type} (view : Node E H → α)
    (hattach : ∀ node child, view (attach node child) = view node)
    (hbind : ∀ (node : Node E H) handler, view { node with handler := handler } = view node)
    (handler : H) (nodes : List (Node E H)) (node : Node E H) :
    view (insert handler nodes node).1 = view node := by
  cases nodes with
  | nil =>
    unfold insert
    split
    · rfl
    · exact hbind node _
  | cons fresh rest =>
    unfold insert
    split
    · rfl
    · exact hattach node _

@[simp] theorem insert_kind (handler : H) (nodes : List (Node E H)) (node : Node E H) :
    (insert handler nodes node).1.kind = node.kind :=
  insert_unchanged (·.kind) attach_kind (fun _ _ => rfl) handler nodes node

@[simp] theorem insert_segment (handler : H) (nodes : List (Node E H)) (node : Node E H) :
    (insert handler nodes node).1.segment = node.segment :=
  insert_unchanged (·.segment) attach_segment (fun _ _ => rfl) handler nodes node

@[simp] theorem insert_fullRoute (handler : H) (nodes : List (Node E H)) (node : Node E H) :
    (insert handler nodes node).1.fullRoute = node.fullRoute :=
  insert_unchanged (·.fullRoute) attach_fullRoute (fun _ _ => rfl) handler nodes node

theorem place_insert (node child : Node E H) (handler : H) (nodes : List (Node E H)) :
    node.place (insert handler nodes child).1 = node.place child := by
  unfold place
  rw [insert_kind, insert_segment]

theorem hasRoom_insert {node child : Node E H} (hroom : node.HasRoom child) (handler : H)
    (nodes : List (Node E H)) : node.HasRoom (insert handler nodes child).1 := by
  unfold HasRoom at hroom ⊢
  rw [insert_kind]
  exact hroom

@[simp] theorem child?_bind (node : Node E H) (handler : Option H) (step : Descent) :
    ({ node with handler := handler } : Node E H).child? step = node.child? step := by
  cases step with
  | literal text => rfl
  | param => rfl
  | regex index => rfl
  | wildcard => rfl

theorem locate_bare (kind : NodeKind E) (segment fullRoute : String) (fresh : Node E H) :
    (bare kind segment fullRoute : Node E H).locate fresh = .ok fresh := by
  unfold locate bare
  cases fresh.kind with
  | root => rfl
  | literal => rfl
  | param name => rfl
  | regex name source expression => rfl
  | wildcard => rfl

theorem admits_congr {child other : Node E H} {step : Descent} (hkind : other.kind = child.kind)
    (htext : other.segment = child.segment) (hadmits : step.Admits child) : step.Admits other := by
  cases step with
  | literal text => exact ⟨hkind.trans hadmits.1, htext.trans hadmits.2⟩
  | param =>
    obtain ⟨name, hparam⟩ := hadmits
    exact ⟨name, hkind.trans hparam⟩
  | regex index =>
    obtain ⟨name, source, expression, hregex⟩ := hadmits
    exact ⟨name, source, expression, hkind.trans hregex⟩
  | wildcard => exact hkind.trans hadmits

variable [Constraint E]

/-! ## The nodes of a pattern -/

theorem chain_cons {above segment : String} {rest : List String} {nodes : List (Node E H)} :
    chain above (segment :: rest) = .ok nodes ↔
      ∃ kind tail, NodeKind.ofSegment (Segment.ofText segment) = .ok kind ∧
        chain (above ++ "/" ++ segment) rest = .ok tail ∧
        nodes = bare kind segment (above ++ "/" ++ segment) :: tail := by
  rw [chain]
  cases hkind : NodeKind.ofSegment (E := E) (Segment.ofText segment) with
  | error reason => simp
  | ok kind =>
    cases htail : chain (E := E) (H := H) (above ++ "/" ++ segment) rest with
    | error bad => simp [htail]
    | ok tail => simp [htail, eq_comm]

/-- Nothing is in the way below a node without handler and children. -/
theorem insert_bare_ok {handler : H} {above : String} {segments : List String}
    {nodes : List (Node E H)} (hchain : chain above segments = .ok nodes) (kind : NodeKind E)
    (segment fullRoute : String) :
    (insert handler nodes (bare kind segment fullRoute)).2 = .ok () := by
  induction segments generalizing above nodes kind segment fullRoute with
  | nil =>
    have hnil : nodes = [] := (Except.ok.inj hchain).symm
    rw [hnil]
    rfl
  | cons first rest ih =>
    obtain ⟨kind', tail, -, htail, rfl⟩ := chain_cons.mp hchain
    rw [insert, locate_bare]
    exact ih htail kind' first _

/-! ## One step -/

/-- All that one step of an insertion can do. -/
theorem insert_cases {node : Node E H} (fresh : Node E H) (harranged : node.Arranged)
    (hcalled : NodeKind.ofSegment (Segment.ofText fresh.segment) = .ok fresh.kind)
    (handler : H) (rest : List (Node E H)) :
    (∃ step child, node.child? step = some child ∧ child.segment = fresh.segment ∧
      insert handler (fresh :: rest) node =
        (node.attach (insert handler rest child).1, (insert handler rest child).2)) ∨
    (¬ node.HasChild fresh.segment ∧ ∃ existing, node.rival? fresh.segment = some existing ∧
      insert handler (fresh :: rest) node = (node, .error (.sibling existing fresh.segment))) ∨
    (¬ node.HasChild fresh.segment ∧ node.rival? fresh.segment = none ∧
      insert handler (fresh :: rest) node =
        (node.attach (insert handler rest fresh).1, (insert handler rest fresh).2)) := by
  by_cases hpresent : node.HasChild fresh.segment
  · obtain ⟨step, child, hchild, htext⟩ := hpresent
    refine Or.inl ⟨step, child, hchild, htext, ?_⟩
    rw [insert, locate_of_present harranged hcalled hchild htext]
  · have hlocate := locate_of_absent harranged hcalled hpresent
    cases hrival : node.rival? fresh.segment with
    | some existing =>
      refine Or.inr (Or.inl ⟨hpresent, existing, rfl, ?_⟩)
      rw [hrival] at hlocate
      rw [insert, hlocate]
    | none =>
      refine Or.inr (Or.inr ⟨hpresent, rfl, ?_⟩)
      rw [hrival] at hlocate
      rw [insert, hlocate]

/-! ## Order is kept -/

/-- What goes on below a child does not change how it fits. -/
theorem Fits.insert {node child : Node E H} {step : Descent} (hfits : node.Fits step child)
    (handler : H) (nodes : List (Node E H)) : node.Fits step (insert handler nodes child).1 where
  admitted := admits_congr (insert_kind ..) (insert_segment ..) hfits.admitted
  called := by rw [insert_kind, insert_segment, hfits.called]
  routed := by rw [insert_fullRoute, insert_segment, hfits.routed]
  isSegment := by
    rw [insert_segment]
    exact hfits.isSegment

theorem WellFormed.attach {node child : Node E H} (hwell : node.WellFormed)
    (hroom : node.HasRoom child) (hfits : node.Fits (node.place child) child)
    (hchild : child.WellFormed) : (node.attach child).WellFormed := by
  refine .intro (arranged_attach hwell.arranged hroom hfits) ?_
  intro step other hother
  rw [child?_attach hroom] at hother
  split at hother
  · exact Option.some.inj hother ▸ hchild
  · exact hwell.child hother

theorem WellFormed.bind {node : Node E H} (hwell : node.WellFormed) (handler : Option H) :
    ({ node with handler := handler } : Node E H).WellFormed := by
  have harranged := hwell.arranged
  refine .intro ⟨harranged.sorted, ?_, harranged.separate, harranged.occupied⟩ ?_
  · intro step child hchild
    rw [child?_bind] at hchild
    have hfits := harranged.fits hchild
    exact ⟨hfits.admitted, hfits.called, hfits.routed, hfits.isSegment⟩
  · intro step child hchild
    rw [child?_bind] at hchild
    exact hwell.child hchild

/-- A new node fits below the node that its pattern has led to. -/
theorem fits_bare (node : Node E H) {segment : String} {kind : NodeKind E}
    (hcalled : NodeKind.ofSegment (Segment.ofText segment) = .ok kind)
    (hsegment : Path.IsSegment segment) :
    node.Fits (node.place (bare kind segment (node.stem ++ "/" ++ segment)))
      (bare kind segment (node.stem ++ "/" ++ segment)) where
  admitted := admits_place node (kind_ne_root_of_called hcalled)
  called := hcalled
  routed := rfl
  isSegment := hsegment

/-- Registering along the nodes of a pattern keeps a tree in order. -/
theorem wellFormed_insert {node : Node E H} (hwell : node.WellFormed) {segments : List String}
    (hsegments : ∀ text ∈ segments, Path.IsSegment text) {nodes : List (Node E H)}
    (hchain : chain node.stem segments = .ok nodes) (handler : H) :
    (insert handler nodes node).1.WellFormed := by
  induction segments generalizing node nodes with
  | nil =>
    have hnil : nodes = [] := (Except.ok.inj hchain).symm
    rw [hnil, insert]
    split
    · exact hwell
    · exact hwell.bind _
  | cons segment rest ih =>
    obtain ⟨kind, tail, hcalled, htail, rfl⟩ := chain_cons.mp hchain
    have hrest : ∀ text ∈ rest, Path.IsSegment text := fun text hmem =>
      hsegments text (List.mem_cons_of_mem _ hmem)
    rcases insert_cases (bare kind segment (node.stem ++ "/" ++ segment)) hwell.arranged hcalled
        handler tail with
      ⟨step, child, hchild, htext, hinsert⟩ | ⟨-, existing, -, hinsert⟩ | ⟨-, hfree, hinsert⟩
    · -- The walk goes on below a child that is there.
      have hfits := hwell.arranged.fits hchild
      have htextHere : child.segment = segment := htext
      have hstem : child.stem = node.stem ++ "/" ++ segment := htextHere ▸ hfits.stem_eq
      rw [hinsert]
      have hplace : node.place child = step :=
        place_eq_of_child? hwell.arranged hchild rfl rfl
      refine hwell.attach (hasRoom_insert (hasRoom_of_child? hwell.arranged hchild rfl) _ _) ?_
        (ih (hwell.child hchild) hrest (hstem ▸ htail))
      rw [place_insert, hplace]
      exact hfits.insert handler tail
    · rw [hinsert]
      exact hwell
    · -- The walk goes on below a new child.
      have hfits := fits_bare node hcalled (hsegments segment List.mem_cons_self)
      have hstem : (bare kind segment (node.stem ++ "/" ++ segment) : Node E H).stem =
          node.stem ++ "/" ++ segment := stem_of_kind_ne_root (kind_ne_root_of_called hcalled)
      have hroom := hasRoom_of_rival?_eq_none (bare kind segment (node.stem ++ "/" ++ segment))
        hcalled hfree
      rw [hinsert]
      refine hwell.attach (hasRoom_insert hroom _ _) ?_
        (ih (wellFormed_bare _ _ _) hrest (by rw [hstem]; exact htail))
      rw [place_insert]
      exact hfits.insert handler tail

/-! ## Failures -/

/-- A registration that fails leaves the tree as it was. -/
theorem insert_eq_self_of_error {node : Node E H} (hwell : node.WellFormed) {above : String}
    {segments : List String} {nodes : List (Node E H)} (hchain : chain above segments = .ok nodes)
    {handler : H} {obstacle : Obstacle} (herror : (insert handler nodes node).2 = .error obstacle) :
    (insert handler nodes node).1 = node := by
  induction segments generalizing above node nodes with
  | nil =>
    have hnil : nodes = [] := (Except.ok.inj hchain).symm
    subst hnil
    rw [insert] at herror ⊢
    split
    · rfl
    · next hfree =>
      rw [hfree] at herror
      cases herror
  | cons segment rest ih =>
    obtain ⟨kind, tail, hcalled, htail, rfl⟩ := chain_cons.mp hchain
    rcases insert_cases (bare kind segment (above ++ "/" ++ segment)) hwell.arranged hcalled
        handler tail with
      ⟨step, child, hchild, -, hinsert⟩ | ⟨-, existing, -, hinsert⟩ | ⟨-, -, hinsert⟩
    · rw [hinsert] at herror ⊢
      rw [ih (hwell.child hchild) htail herror]
      exact attach_eq_self hwell.arranged hchild
    · rw [hinsert]
    · -- Below a new child nothing can fail.
      rw [hinsert, insert_bare_ok htail] at herror
      cases herror

end PathRouting.Node
