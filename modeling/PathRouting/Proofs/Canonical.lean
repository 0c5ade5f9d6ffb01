import PathRouting.Proofs.Compatibility
set_option autoImplicit false

/-!
# The tree of a history

The trees of a router are settled by the registrations that succeeded, in their order: there is a
node for every leading part of a registered pattern and no other one, it has the handler of the call
whose pattern ends there, and its expressions stand in the order in which calls first went through
them.  `Canonical` says this of one method, and `run_canonical` that every run of registrations ends
in such a router and that no later call takes a handler away.
-/

namespace PathRouting

variable {E H : Type}

namespace RouteList

/-! ## What goes on after the first segments -/

/-- What the routes with the given first segments go on with. -/
def beyond : List String → RouteList H → RouteList H
  | [], entries => entries
  | text :: lead, entries => beyond lead (entries.below text)

theorem heads_beyond (lead : List String) (entries : RouteList H) :
    (entries.beyond lead).heads = entries.continuations lead := by
  induction lead generalizing entries with
  | nil => rw [beyond, continuations_nil]
  | cons text lead ih => rw [beyond, ih, continuations_cons]

theorem mem_beyond {lead rest : List String} {handler : H} {entries : RouteList H} :
    (rest, handler) ∈ entries.beyond lead ↔ (lead ++ rest, handler) ∈ entries := by
  induction lead generalizing entries with
  | nil => rw [beyond, List.nil_append]
  | cons text lead ih => rw [beyond, ih, mem_below, List.cons_append]

end RouteList

namespace Node

/-! ## Nodes of a record -/

variable {tree node : Node E H} {entries : RouteList H}

/-- The node after some segments is the record of what goes on after them. -/
theorem Records.reaches (hrecords : Records tree entries) {steps : List Descent}
    {texts : List String} (hreaches : Reaches tree steps texts node) :
    Records node (entries.beyond texts) := by
  induction hreaches generalizing entries with
  | here node => exact hrecords
  | down hchild _ ih => exact ih (hrecords.child hchild)

/-- There is a node after some segments exactly when an entry starts with them. -/
theorem Records.exists_reaches_iff (hrecords : Records tree entries) (hsome : entries ≠ [])
    (texts : List String) :
    (∃ steps node, Reaches tree steps texts node) ↔ ∃ entry ∈ entries, texts <+: entry.1 := by
  induction texts generalizing tree entries with
  | nil =>
    obtain ⟨entry, hentry⟩ := List.exists_mem_of_ne_nil entries hsome
    exact ⟨fun _ => ⟨entry, hentry, List.nil_prefix⟩, fun _ => ⟨[], tree, .here tree⟩⟩
  | cons text rest ih =>
    have hbelow : ∀ {step : Descent} {child : Node E H}, tree.child? step = some child →
        ((∃ steps node, Reaches child steps rest node) ↔
          ∃ entry ∈ entries.below child.segment, rest <+: entry.1) := by
      intro step child hchild
      obtain ⟨tail, handler, hmem⟩ := RouteList.mem_heads.mp
        ((hrecords.hasChild_iff child.segment).mp ⟨step, child, hchild, rfl⟩)
      exact ih (hrecords.child hchild) (List.ne_nil_of_mem (RouteList.mem_below.mpr hmem))
    constructor
    · rintro ⟨steps, node, hreaches⟩
      cases hreaches with
      | @down _ child _ step steps _ hchild hrest =>
        obtain ⟨⟨tail, handler⟩, hmem, hlead⟩ := (hbelow hchild).mp ⟨steps, node, hrest⟩
        exact ⟨(child.segment :: tail, handler), RouteList.mem_below.mp hmem,
          List.cons_prefix_cons.mpr ⟨rfl, hlead⟩⟩
    · rintro ⟨⟨segments, handler⟩, hmem, hlead⟩
      cases segments with
      | nil => simp at hlead
      | cons first tail =>
        obtain ⟨rfl, htail⟩ := List.cons_prefix_cons.mp hlead
        obtain ⟨step, child, hchild, rfl⟩ :=
          (hrecords.hasChild_iff text).mpr (RouteList.mem_heads.mpr ⟨tail, handler, hmem⟩)
        obtain ⟨steps, node, hreaches⟩ :=
          (hbelow hchild).mpr ⟨(tail, handler), RouteList.mem_below.mpr hmem, htail⟩
        exact ⟨step :: steps, node, .down hchild hreaches⟩

end Node

namespace Router

variable [Constraint E]

/-! ## Longer runs -/

theorem run_append (router : Router E H) (calls later : List (Call H)) :
    router.run (calls ++ later) = (router.run calls).run later := by
  induction calls generalizing router with
  | nil => rfl
  | cons call rest ih => rw [List.cons_append, run, run, ih]

theorem accepted_append (router : Router E H) (calls later : List (Call H)) :
    router.accepted (calls ++ later) =
      router.accepted calls ++ (router.run calls).accepted later := by
  induction calls generalizing router with
  | nil => rfl
  | cons call rest ih =>
    rw [List.cons_append, accepted, accepted, run, ih]
    cases (router.answer call).outcome with
    | ok done => rfl
    | error error => rfl

theorem Reachable.register {router : Router E H} (hreachable : router.Reachable)
    (method pattern : String) (handler : H) :
    (router.register method pattern handler).router.Reachable := by
  obtain ⟨config, calls, rfl⟩ := hreachable
  refine ⟨config, calls ++ [⟨method, pattern, handler⟩], ?_⟩
  rw [run_append]
  rfl

/-! ## The trie of a history -/

/-- The steps lead from the root of a method's tree to a node, through children with the given
texts. -/
def Leads (router : Router E H) (method : String) (texts : List String) (steps : List Descent)
    (node : Node E H) : Prop :=
  ∃ tree, router.tree? method = some tree ∧ tree.Reaches steps texts node

/-- The tree of a method is the trie of the calls that succeeded for it. -/
structure Canonical (router : Router E H) (log : List (Call H)) (method : String) : Prop where
  /-- there is a tree once a call for the method has succeeded -/
  known : (∃ tree, router.tree? method = some tree) ↔ ∃ call ∈ log, call.method = method
  /-- there is a node for every leading part of a registered pattern, and no other one -/
  present : ∀ texts, (∃ steps node, router.Leads method texts steps node) ↔
    ∃ call ∈ log, call.method = method ∧
      ∃ segments, Path.patternSegments call.pattern = .ok segments ∧ texts <+: segments
  /-- the texts on the way determine the node -/
  unique : ∀ {texts : List String} {steps steps' : List Descent} {node node' : Node E H},
    router.Leads method texts steps node → router.Leads method texts steps' node' →
      steps = steps' ∧ node = node'
  /-- the handler of a node is that of the call for its very pattern -/
  handler : ∀ {texts : List String} {steps : List Descent} {node : Node E H},
    router.Leads method texts steps node → ∀ handler, node.handler = some handler ↔
      ∃ call ∈ log, call.method = method ∧ Path.patternSegments call.pattern = .ok texts ∧
        call.handler = handler
  /-- and there is one such call at most -/
  once : log.Pairwise fun call later => ¬ (call.method = later.method ∧ call.pattern = later.pattern)
  /-- the expressions below a node stand in the order in which calls first went through them -/
  order : ∀ {texts : List String} {steps : List Descent} {node : Node E H},
    router.Leads method texts steps node → node.regexChildren.map (·.segment) =
      (((entriesFor method log).continuations texts).filter fun text =>
        (Segment.ofText text).source?.isSome).eraseDups

omit [Constraint E] in
theorem Leads.reaches {router : Router E H} {method : String} {texts : List String}
    {steps : List Descent} {node tree : Node E H} (hleads : router.Leads method texts steps node)
    (htree : router.tree? method = some tree) : tree.Reaches steps texts node := by
  obtain ⟨other, hother, hreaches⟩ := hleads
  rw [Option.some.inj (htree.symm.trans hother)]
  exact hreaches

namespace Tracks

variable {router : Router E H} {log : List (Call H)}

/-- There is a node after some segments exactly when a registered pattern starts with them. -/
theorem exists_leads_iff (htracks : router.Tracks log) (method : String) (texts : List String) :
    (∃ steps node, router.Leads method texts steps node) ↔
      ∃ call ∈ log, call.method = method ∧
        ∃ segments, Path.patternSegments call.pattern = .ok segments ∧ texts <+: segments := by
  constructor
  · rintro ⟨steps, node, tree, htree, hreaches⟩
    obtain ⟨⟨segments, handler⟩, hmem, hlead⟩ :=
      ((htracks.records htree).exists_reaches_iff (htracks.entriesFor_ne_nil htree) texts).mp
        ⟨steps, node, hreaches⟩
    obtain ⟨call, hcall, hmethod, hsegments, -⟩ := mem_entriesFor.mp hmem
    exact ⟨call, hcall, hmethod, segments, hsegments, hlead⟩
  · rintro ⟨call, hcall, hmethod, segments, hsegments, hlead⟩
    obtain ⟨tree, htree⟩ := (htracks.known method).mpr ⟨call, hcall, hmethod⟩
    have hmem := mem_entriesFor.mpr ⟨call, hcall, hmethod, hsegments, rfl⟩
    obtain ⟨steps, node, hreaches⟩ :=
      ((htracks.records htree).exists_reaches_iff (List.ne_nil_of_mem hmem) texts).mpr
        ⟨_, hmem, hlead⟩
    exact ⟨steps, node, tree, htree, hreaches⟩

/-- The texts on the way determine the node. -/
theorem leads_unique (htracks : router.Tracks log) {method : String} {texts : List String}
    {steps steps' : List Descent} {node node' : Node E H}
    (hleads : router.Leads method texts steps node)
    (hleads' : router.Leads method texts steps' node') : steps = steps' ∧ node = node' := by
  obtain ⟨tree, htree, hreaches⟩ := hleads
  have hreaches' := hleads'.reaches htree
  have hsteps := hreaches.steps_unique (htracks.wellFormed htree) hreaches'
  subst hsteps
  exact ⟨rfl, Option.some.inj (hreaches.walk?_eq.symm.trans hreaches'.walk?_eq)⟩

/-- A handler is bound to a node exactly when a call has bound it to the node's pattern. -/
theorem handler_eq_some_iff (htracks : router.Tracks log) (hlog : log.Pairwise Call.Compatible)
    {method : String} {texts : List String} {steps : List Descent} {node : Node E H}
    (hleads : router.Leads method texts steps node) (handler : H) :
    node.handler = some handler ↔
      ∃ call ∈ log, call.method = method ∧ Path.patternSegments call.pattern = .ok texts ∧
        call.handler = handler := by
  obtain ⟨tree, htree, hreaches⟩ := hleads
  have hrecords := (htracks.records htree).reaches hreaches
  have hmem : ∀ {bound : H}, ([], bound) ∈ (entriesFor method log).beyond texts ↔
      ∃ call ∈ log, call.method = method ∧ Path.patternSegments call.pattern = .ok texts ∧
        call.handler = bound := by
    intro bound
    rw [RouteList.mem_beyond, List.append_nil, mem_entriesFor]
  constructor
  · intro hbound
    exact hmem.mp (hrecords.mem_of_handler hbound)
  · rintro ⟨call, hcall, hmethod, hsegments, rfl⟩
    obtain ⟨bound, hbound⟩ := Option.isSome_iff_exists.mp (hrecords.handler_isSome_iff.mpr
      ⟨call.handler, hmem.mpr ⟨call, hcall, hmethod, hsegments, rfl⟩⟩)
    -- The call that has bound it is this one, since no other call is for the same pattern.
    obtain ⟨other, hother, hmethod', hsegments', rfl⟩ := hmem.mp (hrecords.mem_of_handler hbound)
    rw [hbound, Call.eq_of_mem hlog hother hcall (hmethod'.trans hmethod.symm)
      (Path.pattern_eq_of_patternSegments hsegments' hsegments)]

/-- The expressions below a node stand in the order in which calls first went through them. -/
theorem regexTexts_eq (htracks : router.Tracks log) {method : String} {texts : List String}
    {steps : List Descent} {node : Node E H} (hleads : router.Leads method texts steps node) :
    node.regexChildren.map (·.segment) =
      (((entriesFor method log).continuations texts).filter fun text =>
        (Segment.ofText text).source?.isSome).eraseDups := by
  obtain ⟨tree, htree, hreaches⟩ := hleads
  rw [((htracks.records htree).reaches hreaches).order_eq, RouteList.regexHeads,
    RouteList.heads_beyond]

/-- A router that keeps track of compatible calls has the tries of these calls. -/
theorem canonical (htracks : router.Tracks log) (hlog : log.Pairwise Call.Compatible)
    (method : String) : router.Canonical log method where
  known := htracks.known method
  present := htracks.exists_leads_iff method
  unique := htracks.leads_unique
  handler := htracks.handler_eq_some_iff hlog
  once := hlog.imp fun hpair hsame => (hpair hsame.1).1 hsame.2
  order := htracks.regexTexts_eq

end Tracks

/-- After a run of registrations the trees are the tries of the calls that succeeded, and a handler
that is bound stays bound whatever is called later. -/
theorem run_canonical (config : Config) (calls : List (Call H)) (method : String) :
    ((empty config : Router E H).run calls).Canonical ((empty config : Router E H).accepted calls)
      method ∧
    ∀ later texts steps steps' node node' handler,
      ((empty config : Router E H).run calls).Leads method texts steps node →
      ((empty config : Router E H).run (calls ++ later)).Leads method texts steps' node' →
      node.handler = some handler → node'.handler = some handler := by
  have hcanonical : ∀ calls : List (Call H), ((empty config : Router E H).run calls).Canonical
      ((empty config : Router E H).accepted calls) method := fun calls =>
    (tracks_of_run_empty config calls).canonical
      ((tracks_empty config).pairwise_accepted List.Pairwise.nil calls) method
  refine ⟨hcanonical calls, ?_⟩
  intro later texts steps steps' node node' handler hleads hleads' hhandler
  obtain ⟨call, hcall, hfor⟩ := ((hcanonical calls).handler hleads handler).mp hhandler
  refine ((hcanonical (calls ++ later)).handler hleads' handler).mpr ⟨call, ?_, hfor⟩
  rw [accepted_append]
  exact List.mem_append_left _ hcall

end Router

end PathRouting
