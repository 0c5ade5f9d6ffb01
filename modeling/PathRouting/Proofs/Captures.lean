import PathRouting.Regex
import PathRouting.Proofs.Coverage
import PathRouting.Proofs.Specificity
set_option autoImplicit false

/-!
# What a search captures

A search writes captures on its way down and takes them back where it led nowhere.  What it leaves
in the end are the captures of the walk that it settled on, on top of the ones that it was given
(`search_eq`), so a branch that was given up leaves nothing behind.  The texts on that walk are the
segments of the route of the node that was found: the answer of a lookup tells by itself why it was
given and what was captured (`matchRoute_explained`).
-/

namespace PathRouting

variable {E H : Type}

/-! ## Captures -/

namespace Captures

/-- Captures a text, if there is a name to capture it under. -/
def capture (captures : Captures) (text : String) : Option String → Captures
  | none => captures
  | some name => captures.insert name text

/-- Captures segments of a path under the names that the segments of a pattern give them, from the
first to the last. -/
def captureAll (captures : Captures) (pattern segments : List String) : Captures :=
  (pattern.zip segments).foldl
    (fun captures pair => capture captures pair.2 (Segment.ofText pair.1).paramName?) captures

@[simp] theorem captureAll_nil_left (captures : Captures) (segments : List String) :
    captureAll captures [] segments = captures := rfl

@[simp] theorem captureAll_nil_right (captures : Captures) (pattern : List String) :
    captureAll captures pattern [] = captures := by
  rw [captureAll, List.zip_nil_right, List.foldl_nil]

@[simp] theorem captureAll_cons (captures : Captures) (segment text : String)
    (pattern segments : List String) :
    captureAll captures (segment :: pattern) (text :: segments) =
      captureAll (capture captures text (Segment.ofText segment).paramName?) pattern segments := rfl

theorem sorted_capture {captures : Captures} (hsorted : captures.Sorted) (text : String)
    (name? : Option String) : (capture captures text name?).Sorted := by
  cases name? with
  | none => exact hsorted
  | some name => exact Table.sorted_insert hsorted name text

theorem get?_capture (captures : Captures) (text name : String) (name? : Option String) :
    (capture captures text name?).get? name =
      if name? = some name then some text else captures.get? name := by
  cases name? with
  | none => rfl
  | some own =>
    rw [capture, Table.get?_insert]
    simp only [Option.some.injEq, eq_comm]

/-- Of the segments captured under one name the last one counts, and a segment that gives no name
counts nowhere. -/
theorem get?_captureAll (captures : Captures) (pattern segments : List String) (name : String) :
    (captureAll captures pattern segments).get? name =
      (((pattern.zip segments).filter fun pair =>
        (Segment.ofText pair.1).paramName? = some name).getLast?.map (·.2)).or
          (captures.get? name) := by
  unfold captureAll
  induction pattern.zip segments generalizing captures with
  | nil => rfl
  | cons pair rest ih =>
    rw [List.foldl_cons, ih, get?_capture, List.filter_cons]
    by_cases hname : (Segment.ofText pair.1).paramName? = some name
    · rw [if_pos hname, if_pos (decide_eq_true hname), List.getLast?_cons]
      cases (rest.filter fun other =>
          (Segment.ofText other.1).paramName? = some name).getLast? with
      | none => rfl
      | some last => rfl
    · rw [if_neg hname, if_neg (by simpa using hname)]

/-- Two sets of captures bind the same names to the same texts. -/
def Agrees (left right : Captures) : Prop :=
  ∀ name, left.get? name = right.get? name

theorem Agrees.refl (captures : Captures) : captures.Agrees captures := fun _ => rfl

theorem Agrees.capture {left right : Captures} (hagrees : left.Agrees right) (text : String)
    (name? : Option String) : (left.capture text name?).Agrees (right.capture text name?) := by
  intro name
  rw [get?_capture, get?_capture, hagrees name]

theorem sorted_restore {captures : Captures} (hsorted : captures.Sorted) (name : String)
    (before : Option String) : (captures.restore name before).Sorted := by
  cases before with
  | some previous => exact Table.sorted_insert hsorted name previous
  | none => exact Table.sorted_erase hsorted name

/-- Giving a name back the binding that it had at the start undoes a capture, when all that happened
to the captures since was undone. -/
theorem agrees_restore {start captures after : Captures} {name text : String}
    (hstart : start.Agrees captures) (hafter : after.Agrees (captures.insert name text)) :
    (after.restore name (start.get? name)).Agrees captures := by
  intro other
  have hother := hafter other
  rw [Table.get?_insert] at hother
  rw [hstart name]
  cases hbefore : captures.get? name with
  | some previous =>
    rw [restore, Table.get?_insert, hother]
    split
    · next hsame => rw [hsame, hbefore]
    · rfl
  | none =>
    rw [restore, Table.get?_erase, hother]
    split
    · next hsame => rw [hsame, hbefore]
    · rfl

theorem restore_insert {captures : Captures} (hsorted : captures.Sorted) (name text : String) :
    restore (captures.insert name text) name (captures.get? name) = captures := by
  have hinserted := Table.sorted_insert hsorted name text
  exact Table.eq_of_get?_eq (sorted_restore hinserted name _) hsorted
    (agrees_restore (Agrees.refl captures) (Agrees.refl _))

end Captures

/-! ## Slots -/

/-- The kinds of nodes that may stand at the end of a step: parameters, expressions and wildcards
only in the slot of their own. -/
def Descent.Houses (step : Descent) : NodeKind E → Prop
  | .root => True
  | .literal => True
  | .param _ => step = .param
  | .regex _ _ _ => ∃ index, step = .regex index
  | .wildcard => step = .wildcard

theorem Descent.Houses.paramName?_eq_none {step : Descent} {kind : NodeKind E}
    (hhouses : step.Houses kind) (hparam : step ≠ .param) (hregex : ∀ index, step ≠ .regex index) :
    kind.paramName? = none := by
  cases kind with
  | root => rfl
  | literal => rfl
  | param name => exact absurd hhouses hparam
  | regex name source expression =>
    obtain ⟨index, hstep⟩ := hhouses
    exact absurd hstep (hregex index)
  | wildcard => rfl

namespace Node

/-- Below a node, parameters, expressions and wildcards stand in the slots made for them. -/
inductive Slotted : Node E H → Prop where
  | intro {node : Node E H}
      (houses : ∀ {step : Descent} {child : Node E H},
        node.child? step = some child → step.Houses child.kind)
      (below : ∀ {step : Descent} {child : Node E H},
        node.child? step = some child → Slotted child) : Slotted node

theorem Slotted.houses {node child : Node E H} {step : Descent} (hslotted : node.Slotted)
    (hchild : node.child? step = some child) : step.Houses child.kind := by
  cases hslotted with
  | intro houses _ => exact houses hchild

theorem Slotted.child {node child : Node E H} {step : Descent} (hslotted : node.Slotted)
    (hchild : node.child? step = some child) : child.Slotted := by
  cases hslotted with
  | intro _ below => exact below hchild

/-- A tree in order has its nodes in their slots. -/
theorem WellFormed.slotted [Constraint E] {node : Node E H} (hwell : node.WellFormed) :
    node.Slotted := by
  induction hwell with
  | intro arranged below ih =>
    refine .intro (fun {step child} hchild => ?_) ih
    have hadmits := (arranged.fits hchild).admitted
    cases step with
    | literal text => rw [hadmits.1]; trivial
    | param =>
      obtain ⟨name, hkind⟩ := hadmits
      rw [hkind]
      rfl
    | regex index =>
      obtain ⟨name, source, expression, hkind⟩ := hadmits
      rw [hkind]
      exact ⟨index, rfl⟩
    | wildcard =>
      have hkind : child.kind = .wildcard := hadmits
      rw [hkind]
      rfl

/-! ## The captures of a search -/

/-- Captures the texts that the children on a walk take, from the first step to the last. -/
def capturesOn (node : Node E H) : List Descent → List String → Captures → Captures
  | step :: steps, text :: texts, captures =>
    match node.child? step with
    | none => captures
    | some child =>
      child.capturesOn steps texts (Captures.capture captures text child.kind.paramName?)
  | [], _, captures => captures
  | _ :: _, [], captures => captures

/-- What a search gives that leaves the captures alone when it leads nowhere. -/
def Outcome.settle (captures : Captures) : Option (Node E H × Captures) → Outcome E H
  | none => (none, captures)
  | some (node, after) => (some node, after)

theorem capturesOn_cons {node child : Node E H} {step : Descent}
    (hchild : node.child? step = some child) (steps : List Descent) (text : String)
    (texts : List String) (captures : Captures) :
    node.capturesOn (step :: steps) (text :: texts) captures =
      child.capturesOn steps texts (Captures.capture captures text child.kind.paramName?) := by
  rw [capturesOn, hchild]

theorem capturesOn_nil (node : Node E H) (texts : List String) (captures : Captures) :
    node.capturesOn [] texts captures = captures := by
  unfold capturesOn
  rfl

/-- A capture is undone when the search below it leads nowhere. -/
theorem capturing_eq_settle {child : Node E H} {text : String} {below : Captures → Outcome E H}
    {captures : Captures} (hsorted : captures.Sorted) {found : Option (Node E H × Captures)}
    (hbelow : below (Captures.capture captures text child.kind.paramName?) =
      Outcome.settle (Captures.capture captures text child.kind.paramName?) found) :
    capturing child text below captures = Outcome.settle captures found := by
  unfold capturing
  cases hname : child.kind.paramName? with
  | none =>
    rw [hname] at hbelow
    exact hbelow
  | some name =>
    rw [hname, Captures.capture] at hbelow
    simp only [hbelow]
    cases found with
    | some result => rfl
    | none =>
      refine Prod.ext rfl ?_
      exact Captures.restore_insert hsorted name text

/-- A search that may end at a child leaves the captures alone when it does. -/
theorem absorbing_eq_settle (mode : WildcardMode) (child : Node E H)
    {below : Captures → Outcome E H} {captures : Captures}
    {found : Option (Node E H × Captures)}
    (hbelow : below captures = Outcome.settle captures found) :
    absorbing mode child below captures =
      Outcome.settle captures
        (found.or (if child.mayAbsorb mode then some (child, captures) else none)) := by
  rw [absorbing, hbelow]
  cases found with
  | some result => rfl
  | none =>
    cases child.mayAbsorb mode with
    | true => rfl
    | false => rfl

/-- When every try leaves the captures alone unless it succeeds, trying one choice after the other
does so too. -/
theorem firstOf_eq_settle {α : Type} {attempt : α → Captures → Outcome E H} {captures : Captures}
    {choices : List α} {result : α → Option (Node E H × Captures)}
    (hattempt : ∀ choice ∈ choices,
      attempt choice captures = Outcome.settle captures (result choice)) :
    firstOf attempt choices captures = Outcome.settle captures (choices.findSome? result) := by
  induction choices with
  | nil => rfl
  | cons choice rest ih =>
    have hrest := ih fun other hother => hattempt other (List.mem_cons_of_mem _ hother)
    rw [firstOf, hattempt choice List.mem_cons_self, List.findSome?_cons]
    cases result choice with
    | some found => rfl
    | none => exact hrest

variable [Constraint E]

theorem child?_of_mem_moves {node : Node E H} {text : String} {move : Descent × Node E H}
    (hmove : move ∈ node.moves text) : node.child? move.1 = some move.2 := by
  rw [moves, List.mem_append, List.mem_append, List.mem_append, mem_moveTo, mem_regexMoves,
    mem_moveTo, mem_moveTo] at hmove
  rcases hmove with ((⟨hchild, hstep⟩ | ⟨index, hchild, -, hstep⟩) | ⟨hchild, hstep⟩) |
    ⟨hchild, hstep⟩
  all_goals
    rw [hstep]
    exact hchild

/-- What one move does to the captures, when the search below it settles. -/
theorem searchMove_eq_settle {mode : WildcardMode} {text : String} {rest : List String}
    {step : Descent} {child : Node E H} (hhouses : step.Houses child.kind) {captures : Captures}
    (hsorted : captures.Sorted) {found : Option (Node E H × Captures)}
    (hbelow : search mode rest child (Captures.capture captures text child.kind.paramName?) =
      Outcome.settle (Captures.capture captures text child.kind.paramName?) found) :
    searchMove mode text rest (step, child) captures =
      Outcome.settle captures
        (found.or (if endsWith mode (step, child) then some (child, captures) else none)) := by
  have hbare : step ≠ .param → (∀ index, step ≠ .regex index) →
      search mode rest child captures = Outcome.settle captures found := by
    intro hparam hregex
    rw [hhouses.paramName?_eq_none hparam hregex] at hbelow
    exact hbelow
  -- Only a child in the place of the wildcard ends a search early.
  cases step with
  | literal own =>
    refine (hbare (by simp) (by simp)).trans ?_
    exact congrArg _ Option.or_none.symm
  | param =>
    refine (capturing_eq_settle hsorted hbelow).trans ?_
    exact congrArg _ Option.or_none.symm
  | regex index =>
    refine (capturing_eq_settle hsorted hbelow).trans ?_
    exact congrArg _ Option.or_none.symm
  | wildcard => exact absorbing_eq_settle mode child (hbare (by simp) (by simp))

/-- A search leaves the captures of the walk that it settles on, and leaves the captures alone when
it leads nowhere. -/
theorem search_eq (mode : WildcardMode) (segments : List String) {node : Node E H}
    (hslotted : node.Slotted) {captures : Captures} (hsorted : captures.Sorted) :
    search mode segments node captures =
      Outcome.settle captures ((trail? mode segments node).map fun trail =>
        (trail.2, node.capturesOn trail.1 segments captures)) := by
  induction segments generalizing node captures with
  | nil =>
    rw [search, trail?, Option.map_some, capturesOn_nil]
    rfl
  | cons text rest ih =>
    have hattempt : ∀ move ∈ node.moves text, searchMove mode text rest move captures =
        Outcome.settle captures ((((trail? mode rest move.2).or
          (if endsWith mode move then some ([], move.2) else none)).map fun below =>
            (move.1 :: below.1, below.2)).map fun trail =>
              (trail.2, node.capturesOn trail.1 (text :: rest) captures)) := by
      rintro ⟨step, child⟩ hmove
      have hchild : node.child? step = some child := child?_of_mem_moves hmove
      have hhouses := hslotted.houses hchild
      rw [searchMove_eq_settle hhouses hsorted (ih (hslotted.child hchild)
        (Captures.sorted_capture hsorted text child.kind.paramName?))]
      cases trail? mode rest child with
      | some below => simp only [Option.map_some, Option.some_or, capturesOn_cons hchild]
      | none =>
        by_cases hends : endsWith mode (step, child) = true
        · -- The search ends in the place of the wildcard, where nothing is captured.
          have hstep : step = .wildcard :=
            of_decide_eq_true ((Bool.and_eq_true _ _).mp hends).1
          have hname : child.kind.paramName? = none :=
            hhouses.paramName?_eq_none (by simp [hstep]) (by simp [hstep])
          simp only [hends, if_true, Option.map_none, Option.none_or, Option.map_some,
            capturesOn_cons hchild, capturesOn_nil, hname]
          rfl
        · simp only [hends]
          rfl
    rw [search_cons, firstOf_eq_settle hattempt, trail?, List.map_findSome?]
    rfl

/-! ## The pattern of a walk -/

/-- A node captures under the name that its text gives. -/
theorem paramName?_of_called {kind : NodeKind E} {segment : Segment}
    (hcalled : NodeKind.ofSegment segment = .ok kind) :
    kind.paramName? = segment.paramName? := by
  rcases called_cases hcalled with
    ⟨text, rfl, rfl⟩ | ⟨name, rfl, rfl⟩ | ⟨name, source, expression, rfl, -, rfl⟩ | ⟨rfl, rfl⟩
  all_goals rfl

/-- The captures of a walk can be told from the texts on the way. -/
theorem Reaches.capturesOn_eq {node final : Node E H} {steps : List Descent} {texts : List String}
    (hreaches : Reaches node steps texts final) (hwell : node.WellFormed) (segments : List String)
    (captures : Captures) :
    node.capturesOn steps segments captures = captures.captureAll texts segments := by
  induction hreaches generalizing segments captures with
  | here node => rw [capturesOn_nil, Captures.captureAll_nil_left]
  | down hchild _ ih =>
    cases segments with
    | nil =>
      rw [Captures.captureAll_nil_right]
      rfl
    | cons text rest =>
      rw [capturesOn_cons hchild, ih (hwell.child hchild), Captures.captureAll_cons,
        paramName?_of_called (hwell.arranged.fits hchild).called]

theorem Follows.walk?_eq {node final : Node E H} {steps : List Descent} {texts : List String}
    (hfollows : Follows node steps texts final) : node.walk? steps = some final := by
  induction hfollows with
  | here node => rfl
  | down hchild _ _ ih => exact walk?_cons.mpr ⟨_, hchild, ih⟩

/-- What makes the walk to a node a candidate. -/
theorem Candidate.ends {mode : WildcardMode} {tree final : Node E H} {segments : List String}
    {steps : List Descent} (hcandidate : Candidate mode tree segments steps)
    (hwalk : tree.walk? steps = some final) :
    Follows tree steps (segments.take steps.length) final ∧
      (steps.length = segments.length ∨
        (mode = .absorb ∧ 1 ≤ steps.length ∧ steps.length < segments.length ∧
          final.kind = .wildcard ∧ final.handler.isSome = true)) := by
  obtain ⟨last, hfollows, hends⟩ := hcandidate
  have hlast : last = final := Option.some.inj (hfollows.walk?_eq.symm.trans hwalk)
  rw [hlast] at hfollows hends
  exact ⟨hfollows, hends⟩

/-- A walk that takes segments of a path spells out segments that accept them. -/
theorem Reaches.accepts {node final last : Node E H} {steps : List Descent} {texts : List String}
    (hreaches : Reaches node steps texts final) (hwell : node.WellFormed) {segments : List String}
    (hfollows : Follows node steps (segments.take steps.length) last) :
    ∀ pair ∈ texts.zip segments, Accepts E pair.1 pair.2 := by
  induction hreaches generalizing segments with
  | here node => simp
  | @down node child final step steps texts hchild hrest ih =>
    cases segments with
    | nil => simp
    | cons text rest =>
      rw [List.length_cons, List.take_succ_cons, follows_cons] at hfollows
      obtain ⟨taken, htaken, htakes, hbelow⟩ := hfollows
      have hsame : child = taken := Option.some.inj (hchild.symm.trans htaken)
      subst hsame
      rw [List.zip_cons_cons, List.forall_mem_cons]
      exact ⟨((hwell.arranged.fits hchild).takes_iff text).mp htakes,
        ih (hwell.child hchild) hbelow⟩

/-- A trail spells out a pattern that accepts what it takes of a path: all segments, or those up to a
wildcard that absorbs the others. -/
theorem trail?_explained {mode : WildcardMode} {tree final : Node E H} (hwell : tree.WellFormed)
    {segments : List String} {steps : List Descent}
    (htrail : trail? mode segments tree = some (steps, final)) :
    ∃ pattern, Reaches tree steps pattern final ∧ pattern.length ≤ segments.length ∧
      (∀ pair ∈ pattern.zip segments, Accepts E pair.1 pair.2) ∧
      (pattern.length < segments.length →
        mode = .absorb ∧ pattern.getLast? = some "*" ∧ final.handler.isSome = true) := by
  obtain ⟨hwalk, hcandidate, -⟩ := trail?_first hwell htrail
  obtain ⟨hfollows, hends⟩ := hcandidate.ends hwalk
  obtain ⟨pattern, hreaches⟩ := reaches_of_walk? hwalk
  have hlength := hreaches.length_eq
  refine ⟨pattern, hreaches, ?_, hreaches.accepts hwell hfollows, fun hshort => ?_⟩
  · rcases hends with hall | ⟨-, -, hshort, -⟩
    · omega
    · omega
  · rcases hends with hall | ⟨hmode, hsome, -, hwildcard, hbound⟩
    · omega
    · have hne : pattern ≠ [] := by
        rw [← List.length_pos_iff]
        omega
      obtain ⟨parent, step, hfits, hstar⟩ := hreaches.exists_parent hwell hne
      rw [hfits.kind_eq_wildcard_iff.mp hwildcard] at hstar
      exact ⟨hmode, hstar, hbound⟩

end Node

namespace Router

variable [Constraint E]

/-- A lookup answers with the end of the trail in the tree of its method, and with the captures of
that trail. -/
theorem matchRoute_answer_eq {router : Router E H} (hreachable : router.Reachable)
    (method path : String) :
    (router.matchRoute method path).answer =
      (router.tree? method).bind fun tree =>
        (tree.trail? router.config.wildcardMode (Path.requestSegments path)).map fun trail =>
          ⟨trail.2, tree.capturesOn trail.1 (Path.requestSegments path) .empty⟩ := by
  obtain ⟨log, htracks⟩ := hreachable.tracks
  rw [matchRoute, tree?]
  cases htree : router.trees.get? method with
  | none => rfl
  | some tree =>
    rw [Option.bind_some]
    simp only [Node.search_eq router.config.wildcardMode (Path.requestSegments path)
      (htracks.wellFormed htree).slotted Table.sorted_empty]
    cases tree.trail? router.config.wildcardMode (Path.requestSegments path) with
    | none => rfl
    | some trail => rfl

theorem matchRoute_isSome_eq {router : Router E H} (hreachable : router.Reachable)
    {method : String} {tree : Node E H} (htree : router.tree? method = some tree) (path : String) :
    (router.matchRoute method path).answer.isSome =
      (Node.trail? router.config.wildcardMode (Path.requestSegments path) tree).isSome := by
  rw [matchRoute_answer_eq hreachable, htree, Option.bind_some, Option.isSome_map]

/-- The answer of a lookup explains itself.  The segments of its route accept those of the path, all
of them or, at a wildcard that absorbs, as far as the route goes; and what was captured are the
segments of the path under the names that the route gives them, the last one where a name comes
twice. -/
theorem matchRoute_explained {router : Router E H} (hreachable : router.Reachable)
    (method path : String) {found : RouteMatch E H}
    (hfound : (router.matchRoute method path).answer = some found) :
    ∃ pattern, Path.patternSegments found.fullRoute = .ok pattern ∧
      pattern.length ≤ (Path.requestSegments path).length ∧
      (∀ pair ∈ pattern.zip (Path.requestSegments path), Accepts E pair.1 pair.2) ∧
      (pattern.length < (Path.requestSegments path).length →
        router.config.wildcardMode = .absorb ∧ pattern.getLast? = some "*" ∧
          found.handler.isSome = true) ∧
      found.params = Captures.captureAll .empty pattern (Path.requestSegments path) ∧
      ∀ name, found.param? name =
        ((pattern.zip (Path.requestSegments path)).filter fun pair =>
          (Segment.ofText pair.1).paramName? = some name).getLast?.map (·.2) := by
  obtain ⟨log, htracks⟩ := hreachable.tracks
  rw [matchRoute_answer_eq hreachable, Option.bind_eq_some_iff] at hfound
  obtain ⟨tree, htree, hanswer⟩ := hfound
  obtain ⟨⟨steps, final⟩, htrail, rfl⟩ := Option.map_eq_some_iff.mp hanswer
  have hwell := htracks.wellFormed htree
  obtain ⟨hkind, -, hroute⟩ := hreachable.root_eq htree
  obtain ⟨pattern, hreaches, hlength, haccepts, hshort⟩ := Node.trail?_explained hwell htrail
  have hpattern : Path.patternSegments final.fullRoute = .ok pattern := by
    rw [hreaches.fullRoute_eq hwell hkind hroute]
    exact Path.patternSegments_render (hreaches.isSegment hwell)
  have hparams : tree.capturesOn steps (Path.requestSegments path) .empty =
      Captures.captureAll .empty pattern (Path.requestSegments path) :=
    hreaches.capturesOn_eq hwell _ _
  refine ⟨pattern, hpattern, hlength, haccepts, hshort, hparams, fun name => ?_⟩
  show Table.get? (tree.capturesOn steps (Path.requestSegments path) .empty) name = _
  rw [hparams, Captures.get?_captureAll, Table.get?_empty, Option.or_none]

/-- Below `/a/:x`, the segment `z` has a node that captures `x` anew, and leads nowhere but to
`end`. -/
def rebinding : Router Regex Nat :=
  (empty default).run [⟨"GET", "/a/:x/:x(z)/end", 0⟩, ⟨"GET", "/a/:x/:y/*", 1⟩]

/-- The search goes down to `:x(z)` first, where it captures `x` anew, and has to come back. -/
theorem matchRoute_explained_afterDeadEnd :
    ∃ found : RouteMatch Regex Nat,
      (rebinding.matchRoute "GET" "/a/1/z/other/more").answer = some found ∧
      found.fullRoute = "/a/:x/:y/*" ∧
      ∃ pattern, Path.patternSegments found.fullRoute = .ok pattern ∧
        found.params = Captures.captureAll .empty pattern ["a", "1", "z", "other", "more"] ∧
        found.param? "x" = some "1" := by
  have hreachable : rebinding.Reachable := ⟨default, _, rfl⟩
  obtain ⟨found, hfound, hroute, hparam⟩ : ∃ found : RouteMatch Regex Nat,
      (rebinding.matchRoute "GET" "/a/1/z/other/more").answer = some found ∧
      found.fullRoute = "/a/:x/:y/*" ∧ found.param? "x" = some "1" := ⟨_, rfl, rfl, rfl⟩
  obtain ⟨pattern, hpattern, -, -, -, hparams, -⟩ :=
    matchRoute_explained hreachable "GET" "/a/1/z/other/more" hfound
  exact ⟨found, hfound, hroute, pattern, hpattern, hparams, hparam⟩

end Router

end PathRouting
