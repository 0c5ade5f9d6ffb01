import PathRouting.Regex
import PathRouting.Proofs.Canonical
set_option autoImplicit false

/-!
# The order kept by every tree

`Node.Regular` lists what holds at every node of every tree that registrations can lead to: the
children stand in the places that their texts call for, their routes go on from that of the node, no
place is taken twice or emptied, and only nodes with a handler have no children.  The search, the
refusals and the listing of routes rely on it.  `reachable_regular` proves it of all reachable
routers at once, and adds what follows for a tree as a whole: `/` is found at its root only, and no
two of its nodes have the same route.
-/

namespace PathRouting

variable {E H : Type}

namespace Node

/-! ## Children and steps -/

/-- The children of a node whose literals are in order are the nodes that one step leads to. -/
theorem mem_children_iff {node : Node E H} (hsorted : node.statics.Sorted) (child : Node E H) :
    child ∈ node.children ↔ ∃ step, node.child? step = some child := by
  unfold children
  rw [List.mem_append, List.mem_append, List.mem_append]
  constructor
  · rintro (((hstatic | hregex) | hparam) | hwildcard)
    · obtain ⟨⟨key, value⟩, hmem, rfl⟩ := List.mem_map.mp hstatic
      exact ⟨.literal key, Table.get?_of_mem_entries hsorted hmem⟩
    · obtain ⟨index, hindex⟩ := List.mem_iff_getElem?.mp hregex
      exact ⟨.regex index, hindex⟩
    · exact ⟨.param, Option.mem_toList.mp hparam⟩
    · exact ⟨.wildcard, Option.mem_toList.mp hwildcard⟩
  · rintro ⟨step, hchild⟩
    cases step with
    | literal text =>
      exact Or.inl (Or.inl (Or.inl (List.mem_map.mpr
        ⟨(text, child), Table.mem_entries_of_get? hchild, rfl⟩)))
    | regex index => exact Or.inl (Or.inl (Or.inr (List.mem_iff_getElem?.mpr ⟨index, hchild⟩)))
    | param => exact Or.inl (Or.inr (Option.mem_toList.mpr hchild))
    | wildcard => exact Or.inr (Option.mem_toList.mpr hchild)

/-- What a slot with a wildcard holds besides it. -/
theorem captures_eq_nil_of_wildcard {node : Node E H}
    (hwildcard : node.wildcardChild?.isSome = true) :
    node.paramChild? = none ∧ node.regexChildren = [] := by
  unfold wildcardChild? at hwildcard
  unfold paramChild? regexChildren
  cases hdynamic : node.dynamic with
  | vacant => simp [hdynamic] at hwildcard
  | captures param regexes => simp [hdynamic] at hwildcard
  | wildcard child => exact ⟨rfl, rfl⟩

variable [Constraint E]

/-! ## One node -/

/-- What holds of a node and its children in every tree. -/
structure Regular (node : Node E H) : Prop where
  /-- the nodes that steps lead to are all the children -/
  reached : ∀ child, child ∈ node.children ↔ ∃ step, node.child? step = some child
  /-- a child stands where its kind belongs, has the kind that its text calls for, and goes on from
  the node's route; its text is one segment -/
  fits : ∀ {step : Descent} {child : Node E H}, node.child? step = some child → node.Fits step child
  /-- no two expressions have the same source -/
  separate : node.regexChildren.Pairwise fun a b => a.kind.source? ≠ b.kind.source?
  /-- a wildcard stands alone -/
  alone : node.wildcardChild?.isSome = true → node.paramChild? = none ∧ node.regexChildren = []
  /-- a slot for captures is not empty -/
  occupied : node.dynamic ≠ .captures none []
  /-- a node without children has a handler -/
  bound : node.children = [] → node.handler.isSome = true

/-- A node in order that is the record of some entries is regular. -/
theorem WellFormed.regular {node : Node E H} {entries : RouteList H} (hwell : node.WellFormed)
    (hrecords : Records node entries) (hsome : entries ≠ []) : node.Regular where
  reached := mem_children_iff hwell.arranged.sorted
  fits := hwell.arranged.fits
  separate := hwell.arranged.separate
  alone := captures_eq_nil_of_wildcard
  occupied := hwell.arranged.occupied
  bound := by
    intro hchildren
    obtain ⟨⟨segments, handler⟩, hmem⟩ := List.exists_mem_of_ne_nil entries hsome
    cases segments with
    | nil => exact hrecords.handler_isSome_iff.mpr ⟨handler, hmem⟩
    | cons text rest =>
      -- An entry that goes on has a child to go on with.
      obtain ⟨step, child, hchild, -⟩ :=
        (hrecords.hasChild_iff text).mpr (RouteList.mem_heads.mpr ⟨rest, handler, hmem⟩)
      have hlisted := (mem_children_iff hwell.arranged.sorted child).mpr ⟨step, hchild⟩
      rw [hchildren] at hlisted
      cases hlisted

/-! ## All nodes of a tree -/

theorem Reaches.wellFormed {tree node : Node E H} {steps : List Descent} {texts : List String}
    (hreaches : Reaches tree steps texts node) (hwell : tree.WellFormed) : node.WellFormed := by
  induction hreaches with
  | here node => exact hwell
  | down hchild _ ih => exact ih (hwell.child hchild)

omit [Constraint E] in
/-- Where a walk leads, some entry goes on or ends. -/
theorem Records.beyond_ne_nil {tree node : Node E H} {entries : RouteList H}
    (hrecords : Records tree entries) (hsome : entries ≠ []) {steps : List Descent}
    {texts : List String} (hreaches : Reaches tree steps texts node) :
    entries.beyond texts ≠ [] := by
  obtain ⟨⟨segments, handler⟩, hmem, rest, rfl⟩ :=
    (hrecords.exists_reaches_iff hsome texts).mp ⟨steps, node, hreaches⟩
  exact List.ne_nil_of_mem (RouteList.mem_beyond.mpr hmem)

/-- No two nodes of a tree have the same route. -/
theorem fullRoute_unique {tree node node' : Node E H} (hwell : tree.WellFormed)
    (hkind : tree.kind = .root) (hroute : tree.fullRoute = "/") {steps steps' : List Descent}
    (hwalk : tree.walk? steps = some node) (hwalk' : tree.walk? steps' = some node')
    (hsame : node.fullRoute = node'.fullRoute) : steps = steps' := by
  obtain ⟨texts, hreaches⟩ := reaches_of_walk? hwalk
  obtain ⟨texts', hreaches'⟩ := reaches_of_walk? hwalk'
  rw [hreaches.fullRoute_eq hwell hkind hroute, hreaches'.fullRoute_eq hwell hkind hroute] at hsame
  have htexts := Path.render_injective (hreaches.isSegment hwell) (hreaches'.isSegment hwell) hsame
  subst htexts
  exact hreaches.steps_unique hwell hreaches'

/-- A node below the root is no root, and is not at `/`. -/
theorem Reaches.ne_root {tree node : Node E H} {steps : List Descent} {texts : List String}
    (hreaches : Reaches tree steps texts node) (hwell : tree.WellFormed)
    (hkind : tree.kind = .root) (hroute : tree.fullRoute = "/") (hsteps : steps ≠ []) :
    node.kind ≠ .root ∧ node.segment ≠ "/" ∧ node.fullRoute ≠ "/" := by
  have htexts : texts ≠ [] := by
    rw [← List.length_pos_iff, hreaches.length_eq, List.length_pos_iff]
    exact hsteps
  obtain ⟨parent, step, hfits, -⟩ := hreaches.exists_parent hwell htexts
  refine ⟨kind_ne_root_of_called hfits.called, fun hslash => ?_, fun hslash => ?_⟩
  · exact hfits.isSegment.2 (by rw [hslash]; decide)
  · exact hsteps (fullRoute_unique hwell hkind hroute hreaches.walk?_eq rfl
      (hslash.trans hroute.symm))

end Node

/-! ## What a refusal names -/

theorem mem_of_find?_or_find? {texts : List String} {first second : String → Bool} {text : String}
    (hfound : (texts.find? first).or (texts.find? second) = some text) : text ∈ texts := by
  rw [Option.or_eq_some_iff] at hfound
  rcases hfound with hfirst | ⟨-, hsecond⟩
  · exact List.mem_of_find?_eq_some hfirst
  · exact List.mem_of_find?_eq_some hsecond

theorem mem_of_rivalAmong? {incoming existing : String} {siblings : List String}
    (hrival : rivalAmong? incoming siblings = some existing) : existing ∈ siblings := by
  unfold rivalAmong? at hrival
  cases hkind : Segment.ofText incoming with
  | literal text => simp [hkind] at hrival
  | param name =>
    rw [hkind] at hrival
    exact mem_of_find?_or_find? hrival
  | regex name source =>
    rw [hkind] at hrival
    exact mem_of_find?_or_find? hrival
  | wildcard =>
    rw [hkind] at hrival
    exact mem_of_find?_or_find? hrival

namespace RouteList

theorem exists_entry_of_mem_continuations {entries : RouteList H} {lead : List String}
    {text : String} (hmem : text ∈ entries.continuations lead) :
    ∃ entry ∈ entries, text ∈ entry.1 := by
  obtain ⟨entry, hentry, hnext⟩ := List.mem_filterMap.mp hmem
  rw [Option.ite_none_right_eq_some] at hnext
  exact ⟨entry, hentry, List.mem_of_getElem? hnext.2⟩

end RouteList

namespace Router

variable [Constraint E]

/-- What a registration is refused for is a segment of a pattern registered before. -/
theorem Tracks.isSegment_of_conflict {router : Router E H} {log : List (Call H)}
    (htracks : router.Tracks log) {method pattern shown existing incoming : String} {handler : H}
    (hconflict : (router.register method pattern handler).outcome =
      .error (.conflict shown existing incoming)) : Path.IsSegment existing := by
  rw [htracks.outcome_eq_verdict, verdict] at hconflict
  split at hconflict
  · cases hconflict
  · split at hconflict
    · cases hconflict
    · split at hconflict
      · next segments _ _ _ _ hparties =>
        cases hconflict
        obtain ⟨part, -, hpart⟩ := Option.bind_eq_some_iff.mp hparties
        obtain ⟨sibling, hrival, hpair⟩ := Option.map_eq_some_iff.mp hpart
        obtain ⟨rfl, -⟩ := Prod.mk.inj hpair
        obtain ⟨⟨others, bound⟩, hentry, htext⟩ :=
          RouteList.exists_entry_of_mem_continuations (mem_of_rivalAmong? hrival)
        obtain ⟨call, -, -, hparsed, -⟩ := mem_entriesFor.mp hentry
        exact Path.isSegment_of_patternSegments hparsed htext
      · split at hconflict
        · cases hconflict
        · cases hconflict

/-- In every router that registrations lead to, every tree has its root at `/` and nowhere else,
every node is regular, and routes tell nodes apart; so a refusal always names the segment that is in
the way. -/
theorem reachable_regular {router : Router E H} (hreachable : router.Reachable) :
    (∀ method tree, router.tree? method = some tree →
      tree.kind = .root ∧ tree.segment = "/" ∧ tree.fullRoute = "/" ∧
      (∀ steps node, tree.walk? steps = some node → node.Regular ∧
        (steps ≠ [] → node.kind ≠ .root ∧ node.segment ≠ "/" ∧ node.fullRoute ≠ "/")) ∧
      ∀ steps steps' node node', tree.walk? steps = some node → tree.walk? steps' = some node' →
        node.fullRoute = node'.fullRoute → steps = steps') ∧
    ∀ method pattern handler shown existing incoming,
      (router.register method pattern handler).outcome =
        .error (.conflict shown existing incoming) → existing ≠ "" := by
  obtain ⟨log, htracks⟩ := hreachable.tracks
  constructor
  · intro method tree htree
    obtain ⟨hkind, hsegment, hroute⟩ := hreachable.root_eq htree
    have hwell := htracks.wellFormed htree
    have hrecords := htracks.records htree
    refine ⟨hkind, hsegment, hroute, fun steps node hwalk => ?_,
      fun _ _ _ _ hwalk hwalk' => Node.fullRoute_unique hwell hkind hroute hwalk hwalk'⟩
    obtain ⟨texts, hreaches⟩ := Node.reaches_of_walk? hwalk
    exact ⟨(hreaches.wellFormed hwell).regular (hrecords.reaches hreaches)
      (hrecords.beyond_ne_nil (htracks.entriesFor_ne_nil htree) hreaches),
      hreaches.ne_root hwell hkind hroute⟩
  · intro method pattern handler shown existing incoming hconflict
    exact (htracks.isSegment_of_conflict hconflict).1

/-- A router whose tree has children of every kind. -/
def mixed : Router Regex Nat :=
  (empty default).run
    [⟨"GET", "/item/:id(new)/edit", 0⟩, ⟨"GET", "/item/:slug", 1⟩, ⟨"GET", "/files/*", 2⟩]

/-- Its nodes are regular, and a registration that it refuses is refused for a segment. -/
theorem reachable_regular_mixed :
    ∃ tree : Node Regex Nat, mixed.tree? "GET" = some tree ∧
      (∀ steps node, tree.walk? steps = some node → node.Regular) ∧
      ∃ existing incoming, (mixed.register "GET" "/item/*" 3).outcome =
        .error (.conflict "/item/*" existing incoming) ∧ existing ≠ "" := by
  have hreachable : mixed.Reachable := ⟨default, _, rfl⟩
  obtain ⟨htrees, hrefusals⟩ := reachable_regular hreachable
  obtain ⟨tree, htree⟩ : ∃ tree : Node Regex Nat, mixed.tree? "GET" = some tree := ⟨_, rfl⟩
  obtain ⟨existing, incoming, hconflict⟩ : ∃ existing incoming,
      (mixed.register "GET" "/item/*" 3).outcome =
        .error (.conflict "/item/*" existing incoming) := ⟨_, _, rfl⟩
  obtain ⟨-, -, -, hnodes, -⟩ := htrees "GET" tree htree
  exact ⟨tree, htree, fun steps node hwalk => (hnodes steps node hwalk).1, existing, incoming,
    hconflict, hrefusals "GET" "/item/*" 3 "/item/*" existing incoming hconflict⟩

end Router

end PathRouting
