import PathRouting.Regex
import PathRouting.Proofs.Captures
import PathRouting.Proofs.Regularity
set_option autoImplicit false

/-!
# One more route

What a registration that succeeds does to the lookups that come after it.  `Grows` says once what
such a registration does to a tree: it goes down along the segments of its pattern, through children
that were there or are new, touches no other child, and binds the handler at the end.  Walks of the
old tree are walks of the new one (`Grows.reaches`), and a walk that is new stays on the way of the
new pattern (`Grows.reaches_old`).  So a new route can only win lookups for itself and the nodes
above it: `register_favours_itself`.
-/

namespace PathRouting

variable {E H : Type}

namespace Node

/-! ## Growth along a pattern -/

/-- The second node is the first one with one more route below it. -/
inductive Grows (handler : H) : List String → Node E H → Node E H → Prop where
  /-- where the pattern ends, the handler is bound -/
  | bind {node : Node E H} (free : node.handler = none) :
      Grows handler [] node { node with handler := some handler }
  /-- above, only the child on the way changes, which was there or is new -/
  | down {node grown child child' : Node E H} {place : Descent} {rest : List String}
      (kind : grown.kind = node.kind)
      (bound : grown.handler = node.handler)
      (found : node.child? place = some child ∨
        node.child? place = none ∧ ∃ kind segment fullRoute, child = bare kind segment fullRoute)
      (apart : ∀ {step : Descent} {other : Node E H}, node.child? step = some other →
        step ≠ place → other.segment ≠ child.segment)
      (text : child'.segment = child.segment)
      (children : ∀ step, grown.child? step = if step = place then some child' else node.child? step)
      (below : Grows handler rest child child') :
      Grows handler (child.segment :: rest) node grown

section Walks

variable {handler : H} {segments : List String} {node grown : Node E H}

/-- A walk of the old tree is a walk of the new one.  It ends at a node of the same kind and with the
same handler, unless it goes along the whole new route. -/
theorem Grows.reaches (hgrows : Grows handler segments node grown) {steps : List Descent}
    {texts : List String} {final : Node E H} (hreaches : Reaches node steps texts final) :
    ∃ final', Reaches grown steps texts final' ∧ final'.kind = final.kind ∧
      ((texts ≠ segments ∧ final'.handler = final.handler) ∨
        (texts = segments ∧ final.handler = none ∧ final'.handler = some handler)) := by
  induction hgrows generalizing steps texts with
  | bind free =>
    cases hreaches with
    | here => exact ⟨_, .here _, rfl, Or.inr ⟨rfl, free, rfl⟩⟩
    | down hchild hrest =>
      refine ⟨final, .down ?_ hrest, rfl, Or.inl ⟨List.cons_ne_nil _ _, rfl⟩⟩
      rw [child?_bind]
      exact hchild
  | @down node grown child child' place rest kind bound found apart text children below ih =>
    cases hreaches with
    | here => exact ⟨grown, .here grown, kind, Or.inl ⟨(List.cons_ne_nil _ _).symm, bound⟩⟩
    | @down _ next _ step steps texts hchild hrest =>
      by_cases hstep : step = place
      · subst hstep
        have hsame : child = next := by
          rcases found with hfound | ⟨hfree, -⟩
          · exact Option.some.inj (hfound.symm.trans hchild)
          · rw [hfree] at hchild
            cases hchild
        subst hsame
        obtain ⟨final', hreaches', hkind, hhandler⟩ := ih hrest
        have hplaced : grown.child? step = some child' := by rw [children, if_pos rfl]
        refine ⟨final', text ▸ .down hplaced hreaches', hkind, ?_⟩
        rcases hhandler with ⟨hother, hkept⟩ | ⟨hall, hnew⟩
        · exact Or.inl ⟨fun hsame => hother (List.cons.inj hsame).2, hkept⟩
        · exact Or.inr ⟨by rw [hall], hnew⟩
      · have hplaced : grown.child? step = some next := by rw [children, if_neg hstep, hchild]
        refine ⟨final, .down hplaced hrest, rfl, Or.inl ⟨?_, rfl⟩⟩
        intro hsame
        exact apart hchild hstep (List.cons.inj hsame).1

/-- A walk of the new tree is a walk of the old one, or it stays on the new route. -/
theorem Grows.reaches_old (hgrows : Grows handler segments node grown) {steps : List Descent}
    {texts : List String} {final' : Node E H} (hreaches : Reaches grown steps texts final') :
    (∃ final, Reaches node steps texts final) ∨ texts <+: segments := by
  induction hgrows generalizing steps texts with
  | bind free =>
    cases hreaches with
    | here => exact Or.inr List.nil_prefix
    | down hchild hrest =>
      rw [child?_bind] at hchild
      exact Or.inl ⟨final', .down hchild hrest⟩
  | @down node grown child child' place rest kind bound found apart text children below ih =>
    cases hreaches with
    | here => exact Or.inr List.nil_prefix
    | @down _ next _ step steps texts hchild hrest =>
      rw [children] at hchild
      split at hchild
      · next hstep =>
        subst hstep
        have hsame : child' = next := Option.some.inj hchild
        subst hsame
        rw [text]
        rcases ih hrest with ⟨final, hold⟩ | hprefix
        · rcases found with hfound | ⟨-, _, _, _, rfl⟩
          · exact Or.inl ⟨final, .down hfound hold⟩
          · -- Below a new node there was nothing.
            cases hold with
            | here => exact Or.inr (List.cons_prefix_cons.mpr ⟨rfl, List.nil_prefix⟩)
            | down hnone _ =>
              rw [child?_bare] at hnone
              cases hnone
        · exact Or.inr (List.cons_prefix_cons.mpr ⟨rfl, hprefix⟩)
      · exact Or.inl ⟨final', .down hchild hrest⟩

end Walks

variable [Constraint E]

/-- A registration that succeeds makes a tree grow along its pattern. -/
theorem grows_insert {node : Node E H} (hwell : node.WellFormed) {above : String}
    {segments : List String} {nodes : List (Node E H)} (hchain : chain above segments = .ok nodes)
    {handler : H} (hok : (insert handler nodes node).2 = .ok ()) :
    Grows handler segments node (insert handler nodes node).1 := by
  induction segments generalizing above node nodes with
  | nil =>
    have hnil : nodes = [] := (Except.ok.inj hchain).symm
    subst hnil
    rw [insert] at hok ⊢
    split
    · next hbound =>
      rw [hbound] at hok
      cases hok
    · next hfree => exact .bind hfree
  | cons segment rest ih =>
    obtain ⟨kind, tail, hcalled, htail, rfl⟩ := chain_cons.mp hchain
    rcases insert_cases (bare kind segment (above ++ "/" ++ segment)) hwell.arranged hcalled
        handler tail with
      ⟨step, child, hchild, rfl, hinsert⟩ | ⟨-, existing, -, hinsert⟩ | ⟨habsent, hfree, hinsert⟩
    · have hplace : node.place child = step := place_eq_of_child? hwell.arranged hchild rfl rfl
      have hroom := hasRoom_of_child? hwell.arranged hchild rfl
      rw [hinsert] at hok ⊢
      refine .down (attach_kind node _) (attach_handler node _) (Or.inl hchild) ?_
        (insert_segment handler tail child) ?_ (ih (hwell.child hchild) htail hok)
      · intro other sibling hsibling hne hsame
        exact hne (child?_unique hwell.arranged hsibling hchild hsame)
      · intro other
        rw [child?_attach (hasRoom_insert hroom handler tail), place_insert, hplace]
    · rw [hinsert] at hok
      cases hok
    · have hroom := hasRoom_of_rival?_eq_none (bare kind segment (above ++ "/" ++ segment)) hcalled
        hfree
      have hplaced := child?_place_of_absent (bare kind segment (above ++ "/" ++ segment))
        hwell.arranged hcalled habsent hfree
      rw [hinsert] at hok ⊢
      have hbelow := ih (wellFormed_bare kind segment (above ++ "/" ++ segment)) htail hok
      refine .down (attach_kind node _) (attach_handler node _) (Or.inr ⟨hplaced, _, _, _, rfl⟩) ?_
        (insert_segment handler tail _) ?_ hbelow
      · intro other sibling hsibling _ hsame
        exact habsent ⟨other, sibling, hsibling, hsame⟩
      · intro other
        rw [child?_attach (hasRoom_insert hroom handler tail), place_insert]

/-! ## Candidates by their texts -/

/-- A walk takes the segments of a path when its texts accept them. -/
theorem Reaches.follows {node final : Node E H} {steps : List Descent} {texts : List String}
    (hreaches : Reaches node steps texts final) (hwell : node.WellFormed) {path : List String}
    (hlength : texts.length ≤ path.length)
    (haccepts : ∀ pair ∈ texts.zip path, Accepts E pair.1 pair.2) :
    Follows node steps (path.take steps.length) final := by
  induction hreaches generalizing path with
  | here node => exact .here node
  | down hchild _ ih =>
    cases path with
    | nil => simp at hlength
    | cons text rest =>
      rw [List.zip_cons_cons, List.forall_mem_cons] at haccepts
      rw [List.length_cons, List.take_succ_cons]
      refine .down hchild (((hwell.arranged.fits hchild).takes_iff text).mpr haccepts.1)
        (ih (hwell.child hchild) ?_ haccepts.2)
      simpa using hlength

/-- Whether a walk is a candidate depends on its texts, and on its last node when that is to absorb
the rest of the path. -/
theorem Reaches.candidate_iff {mode : WildcardMode} {tree final : Node E H} {steps : List Descent}
    {texts : List String} (hreaches : Reaches tree steps texts final) (hwell : tree.WellFormed)
    (path : List String) :
    Candidate mode tree path steps ↔
      (∀ pair ∈ texts.zip path, Accepts E pair.1 pair.2) ∧
        (texts.length = path.length ∨ (mode = .absorb ∧ 1 ≤ texts.length ∧
          texts.length < path.length ∧ final.kind = .wildcard ∧ final.handler.isSome = true)) := by
  rw [hreaches.length_eq]
  constructor
  · intro hcandidate
    obtain ⟨hfollows, hends⟩ := hcandidate.ends hreaches.walk?_eq
    exact ⟨hreaches.accepts hwell hfollows, hends⟩
  · rintro ⟨haccepts, hends⟩
    have hlength : texts.length ≤ path.length := by
      rw [hreaches.length_eq]
      rcases hends with hall | ⟨-, -, hshort, -⟩
      · omega
      · omega
    exact ⟨final, hreaches.follows hwell hlength haccepts, hends⟩

theorem Candidate.exists_reaches {mode : WildcardMode} {tree : Node E H} {path : List String}
    {steps : List Descent} (hcandidate : Candidate mode tree path steps) :
    ∃ texts final, Reaches tree steps texts final := by
  obtain ⟨final, hfollows, -⟩ := hcandidate
  obtain ⟨texts, hreaches⟩ := reaches_of_walk? hfollows.walk?_eq
  exact ⟨texts, final, hreaches⟩

/-! ## Searches before and after -/

section Searches

variable {mode : WildcardMode} {path segments : List String} {handler : H} {node grown : Node E H}

/-- A candidate stays a candidate. -/
theorem Grows.candidate (hgrows : Grows handler segments node grown) (hwell : node.WellFormed)
    (hwell' : grown.WellFormed) {steps : List Descent}
    (hcandidate : Candidate mode node path steps) : Candidate mode grown path steps := by
  obtain ⟨texts, final, hreaches⟩ := hcandidate.exists_reaches
  obtain ⟨final', hreaches', hkind, hhandler⟩ := hgrows.reaches hreaches
  have hbound : final.handler.isSome = true → final'.handler.isSome = true := by
    intro hsome
    rcases hhandler with ⟨-, hkept⟩ | ⟨-, -, hnew⟩
    · rw [hkept]
      exact hsome
    · rw [hnew]
      rfl
  rw [hreaches.candidate_iff hwell] at hcandidate
  rw [hreaches'.candidate_iff hwell', hkind]
  refine ⟨hcandidate.1, hcandidate.2.imp_right ?_⟩
  rintro ⟨hmode, hsome, hshort, hwildcard, hhere⟩
  exact ⟨hmode, hsome, hshort, hwildcard, hbound hhere⟩

/-- A candidate that leaves the new route was a candidate before. -/
theorem Grows.candidate_old (hgrows : Grows handler segments node grown) (hwell : node.WellFormed)
    (hwell' : grown.WellFormed) {steps : List Descent} {texts : List String} {final' : Node E H}
    (hreaches' : Reaches grown steps texts final') (hleaves : ¬ texts <+: segments)
    (hcandidate : Candidate mode grown path steps) :
    ∃ final, Reaches node steps texts final ∧ Candidate mode node path steps := by
  rcases hgrows.reaches_old hreaches' with ⟨final, hreaches⟩ | hprefix
  · obtain ⟨last, hlast, hkind, hhandler⟩ := hgrows.reaches hreaches
    have hsame : last = final' :=
      Option.some.inj (hlast.walk?_eq.symm.trans hreaches'.walk?_eq)
    subst hsame
    rw [hlast.candidate_iff hwell', hkind] at hcandidate
    refine ⟨final, hreaches, (hreaches.candidate_iff hwell path).mpr ?_⟩
    rcases hhandler with ⟨-, hkept⟩ | ⟨hall, -⟩
    · rw [hkept] at hcandidate
      exact hcandidate
    · exact absurd (hall ▸ List.prefix_rfl) hleaves
  · exact absurd hprefix hleaves

theorem Grows.trail?_isSome (hgrows : Grows handler segments node grown) (hwell : node.WellFormed)
    (hwell' : grown.WellFormed) (hsome : (trail? mode path node).isSome = true) :
    (trail? mode path grown).isSome = true := by
  obtain ⟨steps, hcandidate⟩ := (trail?_isSome_iff hwell).mp hsome
  exact (trail?_isSome_iff hwell').mpr ⟨steps, hgrows.candidate hwell hwell' hcandidate⟩

/-- A search settles on the walk that it settled on before, or on a walk along the new route. -/
theorem Grows.trail?_cases (hgrows : Grows handler segments node grown) (hwell : node.WellFormed)
    (hwell' : grown.WellFormed) {steps : List Descent} {texts : List String} {final' : Node E H}
    (hreaches' : Reaches grown steps texts final')
    (htrail : trail? mode path grown = some (steps, final')) :
    (∃ final, Reaches node steps texts final ∧ trail? mode path node = some (steps, final)) ∨
      texts <+: segments := by
  obtain ⟨-, hcandidate, hfirst⟩ := (trail?_eq_some_iff hwell').mp htrail
  by_cases hprefix : texts <+: segments
  · exact Or.inr hprefix
  · -- No candidate of the old tree comes before this one, for all of them are candidates still.
    obtain ⟨final, hreaches, hold⟩ := hgrows.candidate_old hwell hwell' hreaches' hprefix hcandidate
    refine Or.inl ⟨final, hreaches, (trail?_eq_some_iff hwell).mpr ⟨hreaches.walk?_eq, hold, ?_⟩⟩
    intro other hother
    exact hfirst other (hgrows.candidate hwell hwell' hother)

end Searches

end Node

/-! ## Lookups before and after -/

/-- A node that was found before is found with the same route and captures, and with the same
handler unless it is the node of the new pattern, which had none. -/
structure RouteMatch.Kept (pattern : String) (handler : H) (found found' : RouteMatch E H) : Prop where
  fullRoute : found'.fullRoute = found.fullRoute
  params : found'.params = found.params
  handler : (found.fullRoute ≠ pattern ∧ found'.handler = found.handler) ∨
    (found.fullRoute = pattern ∧ found.handler = none ∧ found'.handler = some handler)

/-- A match is what a lookup for the segments of a path answers with when its search settles on some
steps, which spell out the given texts. -/
structure RouteMatch.Spells (found : RouteMatch E H) (tree : Node E H) (steps : List Descent)
    (texts path : List String) : Prop where
  reaches : tree.Reaches steps texts found.node
  fullRoute : found.fullRoute = Path.render texts
  params : found.params = Captures.captureAll .empty texts path

namespace Router

variable [Constraint E]

/-- A registration that succeeds makes the tree of its method grow along its pattern, and leaves the
trees of other methods alone. -/
theorem Tracks.grows_of_ok {router : Router E H} {log : List (Call H)} (htracks : router.Tracks log)
    {method pattern : String} {handler : H}
    (hok : (router.register method pattern handler).outcome = .ok ()) :
    ∃ segments tree, Path.patternSegments pattern = .ok segments ∧
      Node.Grows handler segments (router.treeOrRoot method) tree ∧
      ∀ other, (router.register method pattern handler).router.tree? other =
        if other = method then some tree else router.tree? other := by
  rcases router.register_cases method pattern handler with
    ⟨fault, -, houtcome, -⟩ | ⟨segments, bad, -, -, houtcome, -⟩ |
      ⟨segments, nodes, hparsed, hchain, houtcome, hrouter⟩
  · rw [houtcome] at hok
    cases hok
  · rw [houtcome] at hok
    cases hok
  · rw [houtcome] at hok
    obtain ⟨-, hwell, -⟩ := htracks.treeOrRoot method
    refine ⟨segments, _, hparsed, Node.grows_insert hwell hchain (eq_ok_of_mapError_eq_ok hok), ?_⟩
    intro other
    rw [hrouter]
    exact Table.get?_insert router.trees method other _

/-- The answer of a lookup, read off the walk that the search settles on. -/
theorem matchRoute_eq_some_iff {router : Router E H} (hreachable : router.Reachable)
    {method path : String} {tree : Node E H} (htree : router.tree? method = some tree)
    {found : RouteMatch E H} :
    (router.matchRoute method path).answer = some found ↔
      ∃ steps texts, found.Spells tree steps texts (Path.requestSegments path) ∧
        Node.trail? router.config.wildcardMode (Path.requestSegments path) tree =
          some (steps, found.node) := by
  obtain ⟨log, htracks⟩ := hreachable.tracks
  have hwell := htracks.wellFormed htree
  obtain ⟨hkind, -, hroute⟩ := hreachable.root_eq htree
  rw [matchRoute_answer_eq hreachable, htree, Option.bind_some, Option.map_eq_some_iff]
  constructor
  · rintro ⟨⟨steps, final⟩, htrail, rfl⟩
    obtain ⟨texts, hreaches⟩ :=
      Node.reaches_of_walk? ((Node.trail?_eq_some_iff hwell).mp htrail).1
    exact ⟨steps, texts, ⟨hreaches, hreaches.fullRoute_eq hwell hkind hroute,
      hreaches.capturesOn_eq hwell _ _⟩, htrail⟩
  · rintro ⟨steps, texts, hspells, htrail⟩
    refine ⟨(steps, found.node), htrail, ?_⟩
    rw [hspells.reaches.capturesOn_eq hwell, ← hspells.params]

omit [Constraint E] in
theorem treeOrRoot_eq {router : Router E H} {method : String} {tree : Node E H}
    (htree : router.tree? method = some tree) : router.treeOrRoot method = tree := by
  unfold tree? at htree
  rw [treeOrRoot, htree]
  rfl

omit [Constraint E] in
/-- Before the first registration for a method, a walk leads nowhere in its tree. -/
theorem texts_eq_nil_of_unknown {router : Router E H} {method : String}
    (hunknown : router.tree? method = none) {steps : List Descent} {texts : List String}
    {final : Node E H} (hreaches : (router.treeOrRoot method).Reaches steps texts final) :
    texts = [] := by
  unfold tree? at hunknown
  rw [treeOrRoot, hunknown] at hreaches
  cases hreaches with
  | here => rfl
  | down hchild _ =>
    exact absurd ((Node.child?_bare .root "/" "/" _).symm.trans hchild) (by simp)

/-- Matches that spell the same texts, before and after a tree has grown, are the same but for the
handler of the new route. -/
theorem kept_of_grows {pattern : String} {handler : H} {segments : List String}
    (hparsed : Path.patternSegments pattern = .ok segments) {tree tree' : Node E H}
    (hgrows : Node.Grows handler segments tree tree') (hwell : tree.WellFormed)
    (hwell' : tree'.WellFormed) {texts path : List String} {steps steps' : List Descent}
    {found found' : RouteMatch E H} (hspells : found.Spells tree steps texts path)
    (hspells' : found'.Spells tree' steps' texts path) :
    RouteMatch.Kept pattern handler found found' where
  fullRoute := hspells'.fullRoute.trans hspells.fullRoute.symm
  params := hspells'.params.trans hspells.params.symm
  handler := by
    obtain ⟨last, hlast, -, hhandler⟩ := hgrows.reaches hspells.reaches
    have hsteps := hlast.steps_unique hwell' hspells'.reaches
    subst hsteps
    have hsame : last = found'.node :=
      Option.some.inj (hlast.walk?_eq.symm.trans hspells'.reaches.walk?_eq)
    rw [hsame] at hhandler
    have hpattern : Path.render segments = pattern := Path.render_of_patternSegments hparsed
    rcases hhandler with ⟨hother, hkept⟩ | ⟨hall, hfree, hnew⟩
    · refine Or.inl ⟨fun hroute => hother ?_, hkept⟩
      have htexts := Path.patternSegments_render (hspells.reaches.isSegment hwell)
      rw [← hspells.fullRoute, hroute, hparsed] at htexts
      exact (Except.ok.inj htexts).symm
    · exact Or.inr ⟨by rw [hspells.fullRoute, hall, hpattern], hfree, hnew⟩

/-- A registration that succeeds leaves the lookups for other methods as they were.  For its own
method, what was found before is found still or gives way to the new route or a node above it; so no
lookup turns into a miss, and none is redirected to a third route.  A node that is found both times
keeps its captures, and its handler unless it is the node of the new pattern. -/
theorem register_favours_itself {router : Router E H} (hreachable : router.Reachable)
    {method pattern : String} {handler : H}
    (hok : (router.register method pattern handler).outcome = .ok ()) :
    (∀ other path, other ≠ method →
      (router.register method pattern handler).router.matchRoute other path =
        router.matchRoute other path) ∧
    ∀ path,
      ((router.matchRoute method path).answer.isSome = true →
        ((router.register method pattern handler).router.matchRoute method path).answer.isSome =
          true) ∧
      (∀ found',
        ((router.register method pattern handler).router.matchRoute method path).answer =
          some found' →
        (∃ found, (router.matchRoute method path).answer = some found ∧
          RouteMatch.Kept pattern handler found found') ∨
        ∃ segments length, Path.patternSegments pattern = .ok segments ∧
          found'.fullRoute = Path.render (segments.take length)) ∧
      ∀ found found', (router.matchRoute method path).answer = some found →
        ((router.register method pattern handler).router.matchRoute method path).answer =
          some found' →
        found'.fullRoute = found.fullRoute → RouteMatch.Kept pattern handler found found' := by
  obtain ⟨log, htracks⟩ := hreachable.tracks
  have hreachable' := hreachable.register method pattern handler
  obtain ⟨log', htracks'⟩ := hreachable'.tracks
  obtain ⟨segments, tree', hparsed, hgrows, htree?⟩ := htracks.grows_of_ok hok
  have hconfig := router.register_config method pattern handler
  have htree' := htree? method
  rw [if_pos rfl] at htree'
  have hwell := (htracks.treeOrRoot method).2.1
  have hwell' := htracks'.wellFormed htree'
  refine ⟨?_, fun path => ⟨?_, ?_, ?_⟩⟩
  · intro other path hother
    have hsame : (router.register method pattern handler).router.tree? other =
        router.tree? other := by rw [htree?, if_neg hother]
    exact matchRoute_congr hsame hconfig path
  · intro hsome
    cases htree : router.tree? method with
    | none =>
      rw [matchRoute_answer_eq hreachable, htree] at hsome
      cases hsome
    | some tree =>
      rw [treeOrRoot_eq htree] at hgrows hwell
      rw [matchRoute_isSome_eq hreachable htree] at hsome
      rw [matchRoute_isSome_eq hreachable' htree', hconfig]
      exact hgrows.trail?_isSome hwell hwell' hsome
  · intro found' hfound'
    obtain ⟨steps, texts, hspells', htrail'⟩ :=
      (matchRoute_eq_some_iff hreachable' htree').mp hfound'
    have hown : texts <+: segments → ∃ segments length,
        Path.patternSegments pattern = .ok segments ∧
          found'.fullRoute = Path.render (segments.take length) := by
      intro hprefix
      refine ⟨segments, texts.length, hparsed, ?_⟩
      rw [hspells'.fullRoute, ← List.prefix_iff_eq_take.mp hprefix]
    rw [hconfig] at htrail'
    rcases hgrows.trail?_cases hwell hwell' hspells'.reaches htrail' with
      ⟨final, hreaches, htrail⟩ | hprefix
    · cases htree : router.tree? method with
      | none =>
        rw [texts_eq_nil_of_unknown htree hreaches] at hown
        exact Or.inr (hown List.nil_prefix)
      | some tree =>
        rw [treeOrRoot_eq htree] at hgrows hwell hreaches htrail
        obtain ⟨hkind, -, hslash⟩ := hreachable.root_eq htree
        have hspells : RouteMatch.Spells
            ⟨final, Captures.captureAll .empty texts (Path.requestSegments path)⟩ tree steps texts
            (Path.requestSegments path) :=
          ⟨hreaches, hreaches.fullRoute_eq hwell hkind hslash, rfl⟩
        exact Or.inl ⟨_, (matchRoute_eq_some_iff hreachable htree).mpr
          ⟨steps, texts, hspells, htrail⟩, kept_of_grows hparsed hgrows hwell hwell' hspells hspells'⟩
    · exact Or.inr (hown hprefix)
  · intro found found' hfound hfound' hroutes
    cases htree : router.tree? method with
    | none =>
      rw [matchRoute_answer_eq hreachable, htree] at hfound
      cases hfound
    | some tree =>
      rw [treeOrRoot_eq htree] at hgrows hwell
      obtain ⟨steps, texts, hspells, -⟩ := (matchRoute_eq_some_iff hreachable htree).mp hfound
      obtain ⟨steps', texts', hspells', -⟩ := (matchRoute_eq_some_iff hreachable' htree').mp hfound'
      rw [hspells'.fullRoute, hspells.fullRoute] at hroutes
      have htexts := Path.render_injective (hspells'.reaches.isSegment hwell')
        (hspells.reaches.isSegment hwell) hroutes
      subst htexts
      exact kept_of_grows hparsed hgrows hwell hwell' hspells hspells'

/-- A router with one route, which takes any text after `/user`. -/
def profiles : Router Regex Nat :=
  (empty default).run [⟨"GET", "/user/:id", 0⟩]

/-- A longer route that goes through a literal takes over the lookup that the literal serves. -/
theorem register_favours_itself_passThrough :
    ∃ found' : RouteMatch Regex Nat,
      ((profiles.register "GET" "/user/new/form" 1).router.matchRoute "GET" "/user/new").answer =
        some found' ∧
      found'.fullRoute = "/user/new" ∧
      ((∃ found, (profiles.matchRoute "GET" "/user/new").answer = some found ∧
          RouteMatch.Kept "/user/new/form" 1 found found') ∨
        ∃ segments length, Path.patternSegments "/user/new/form" = .ok segments ∧
          found'.fullRoute = Path.render (segments.take length)) ∧
      ∀ path, (profiles.register "GET" "/user/new/form" 1).router.matchRoute "POST" path =
        profiles.matchRoute "POST" path := by
  have hreachable : profiles.Reachable := ⟨default, _, rfl⟩
  have hok : (profiles.register "GET" "/user/new/form" 1).outcome = .ok () := rfl
  obtain ⟨hothers, hown⟩ := register_favours_itself hreachable hok
  obtain ⟨found', hfound', hroute⟩ : ∃ found' : RouteMatch Regex Nat,
      ((profiles.register "GET" "/user/new/form" 1).router.matchRoute "GET" "/user/new").answer =
        some found' ∧ found'.fullRoute = "/user/new" := ⟨_, rfl, rfl⟩
  exact ⟨found', hfound', hroute, (hown "/user/new").2.1 found' hfound', fun path =>
    hothers "POST" path (by decide)⟩

end Router

end PathRouting
