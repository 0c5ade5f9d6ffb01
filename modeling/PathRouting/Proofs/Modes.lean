import PathRouting.Regex
import PathRouting.Proofs.Captures
import PathRouting.Proofs.Regularity
set_option autoImplicit false

/-!
# The two modes of wildcards

Registrations do not look at the options of a router, so a run leads to the same trees whatever the
mode (`run_congr`).  Lookups differ only where a wildcard absorbs: a search that settles on a walk
as long as the path settles on it in both modes, for the candidates of the strict mode are those
candidates of the other one that take the whole path (`candidate_singleSegment_iff`).  `run_modes`
compares the routers.
-/

namespace PathRouting

variable {E H : Type} [Constraint E]

namespace Node

/-! ## Searches in the two modes -/

variable {tree : Node E H} {path : List String} {steps : List Descent}

/-- Where a wildcard stands for one segment, candidates take the whole path. -/
theorem candidate_singleSegment_iff :
    Candidate .singleSegment tree path steps ↔
      Candidate .absorb tree path steps ∧ steps.length = path.length := by
  constructor
  · rintro ⟨final, hfollows, hall | ⟨hmode, -⟩⟩
    · exact ⟨⟨final, hfollows, Or.inl hall⟩, hall⟩
    · cases hmode
  · rintro ⟨⟨final, hfollows, -⟩, hall⟩
    exact ⟨final, hfollows, Or.inl hall⟩

theorem length_of_trail?_singleSegment {final : Node E H} (hwell : tree.WellFormed)
    (htrail : trail? .singleSegment path tree = some (steps, final)) :
    steps.length = path.length :=
  (candidate_singleSegment_iff.mp ((trail?_eq_some_iff hwell).mp htrail).2.1).2

theorem trail?_isSome_of_singleSegment (hwell : tree.WellFormed)
    (hsome : (trail? .singleSegment path tree).isSome = true) :
    (trail? .absorb path tree).isSome = true := by
  obtain ⟨steps, hcandidate⟩ := (trail?_isSome_iff hwell).mp hsome
  exact (trail?_isSome_iff hwell).mpr ⟨steps, (candidate_singleSegment_iff.mp hcandidate).1⟩

/-- A search has the same result in both modes, unless it ends at a wildcard that absorbs. -/
theorem trail?_modes (hwell : tree.WellFormed) (path : List String) :
    trail? .absorb path tree = trail? .singleSegment path tree ∨
      ∃ steps final, trail? .absorb path tree = some (steps, final) ∧ final.kind = .wildcard ∧
        final.handler.isSome = true ∧ steps.length < path.length := by
  cases htrail : trail? .absorb path tree with
  | none =>
    refine Or.inl (Eq.symm ?_)
    rw [← Option.not_isSome_iff_eq_none]
    intro hsome
    have habsorb := trail?_isSome_of_singleSegment hwell hsome
    rw [htrail] at habsorb
    cases habsorb
  | some trail =>
    obtain ⟨steps, final⟩ := trail
    obtain ⟨hwalk, hcandidate, hfirst⟩ := (trail?_eq_some_iff hwell).mp htrail
    by_cases hall : steps.length = path.length
    · -- It comes before the candidates of the strict mode too, which are fewer.
      refine Or.inl (((trail?_eq_some_iff hwell).mpr
        ⟨hwalk, candidate_singleSegment_iff.mpr ⟨hcandidate, hall⟩, ?_⟩).symm)
      intro other hother
      exact hfirst other (candidate_singleSegment_iff.mp hother).1
    · obtain ⟨-, -, hshort, hkind, hbound⟩ := (hcandidate.ends hwalk).2.resolve_left hall
      exact Or.inr ⟨steps, final, rfl, hkind, hbound, hshort⟩

end Node

namespace Router

/-! ## Runs in the two modes -/

/-- The outcomes of a run of calls, in order. -/
def outcomes (router : Router E H) : List (Call H) → List (Except RouteError Unit)
  | [] => []
  | call :: rest => (router.answer call).outcome :: (router.answer call).router.outcomes rest

/-- A registration looks at the trees of a router only. -/
theorem register_congr {router other : Router E H} (htrees : other.trees = router.trees)
    (method pattern : String) (handler : H) :
    (other.register method pattern handler).outcome =
        (router.register method pattern handler).outcome ∧
      (other.register method pattern handler).router.trees =
        (router.register method pattern handler).router.trees := by
  unfold register
  cases readPattern (E := E) (H := H) pattern with
  | error error => exact ⟨rfl, htrees⟩
  | ok nodes =>
    simp only
    unfold registerNodes
    rw [htrees]
    exact ⟨rfl, rfl⟩

theorem run_congr {router other : Router E H} (htrees : other.trees = router.trees)
    (calls : List (Call H)) :
    other.outcomes calls = router.outcomes calls ∧
      (other.run calls).trees = (router.run calls).trees := by
  induction calls generalizing router other with
  | nil => exact ⟨rfl, htrees⟩
  | cons call rest ih =>
    obtain ⟨houtcome, hnext⟩ := register_congr htrees call.method call.pattern call.handler
    obtain ⟨houtcomes, hrest⟩ := ih hnext
    refine ⟨?_, hrest⟩
    show (other.answer call).outcome :: _ = (router.answer call).outcome :: _
    exact congrArg₂ List.cons houtcome houtcomes

/-- A node stands at a depth in the tree of a method: walks lead there, and they have that many
steps. -/
def AtDepth (router : Router E H) (method : String) (node : Node E H) (depth : Nat) : Prop :=
  (∃ texts steps, router.Leads method texts steps node) ∧
    ∀ {texts : List String} {steps : List Descent}, router.Leads method texts steps node →
      steps.length = depth

theorem atDepth_of_walk? {router : Router E H} (hreachable : router.Reachable) {method : String}
    {tree node : Node E H} {steps : List Descent} (htree : router.tree? method = some tree)
    (hwalk : tree.walk? steps = some node) : router.AtDepth method node steps.length := by
  obtain ⟨log, htracks⟩ := hreachable.tracks
  obtain ⟨texts, hreaches⟩ := Node.reaches_of_walk? hwalk
  refine ⟨⟨texts, steps, tree, htree, hreaches⟩, ?_⟩
  intro texts' steps' hleads
  have hsteps := Node.walk?_injective (htracks.wellFormed htree) (hleads.reaches htree).walk?_eq
    hwalk
  rw [hsteps]

/-- Of two routers with the same trees, one whose wildcards absorb and one whose wildcards stand for
one segment, the first has an answer wherever the second has one, the second answers with nodes as
deep as the path is long, and the answers are the same unless a wildcard of the first absorbs. -/
theorem matchRoute_modes {absorbing strict : Router E H} (hreachable : absorbing.Reachable)
    (hreachable' : strict.Reachable) (htrees : absorbing.trees = strict.trees)
    (hmode : absorbing.config.wildcardMode = .absorb)
    (hmode' : strict.config.wildcardMode = .singleSegment) (method path : String) :
    ((strict.matchRoute method path).answer.isSome = true →
      (absorbing.matchRoute method path).answer.isSome = true) ∧
    (∀ found, (strict.matchRoute method path).answer = some found →
      strict.AtDepth method found.node (Path.requestSegments path).length) ∧
    ((absorbing.matchRoute method path).answer = (strict.matchRoute method path).answer ∨
      ∃ found depth, (absorbing.matchRoute method path).answer = some found ∧
        found.node.kind = .wildcard ∧ found.handler.isSome = true ∧
        absorbing.AtDepth method found.node depth ∧
        depth < (Path.requestSegments path).length) := by
  have htree? : absorbing.tree? method = strict.tree? method := by
    unfold tree?
    rw [htrees]
  rw [matchRoute_answer_eq hreachable, matchRoute_answer_eq hreachable', htree?, hmode, hmode']
  cases htree : strict.tree? method with
  | none =>
    refine ⟨fun hsome => hsome, ?_, Or.inl rfl⟩
    intro found hfound
    cases hfound
  | some tree =>
    obtain ⟨log, htracks⟩ := hreachable'.tracks
    have hwell := htracks.wellFormed htree
    rw [Option.bind_some, Option.bind_some, Option.isSome_map, Option.isSome_map]
    refine ⟨Node.trail?_isSome_of_singleSegment hwell, ?_, ?_⟩
    · intro found hfound
      obtain ⟨⟨steps, final⟩, htrail, rfl⟩ := Option.map_eq_some_iff.mp hfound
      rw [← Node.length_of_trail?_singleSegment hwell htrail]
      exact atDepth_of_walk? hreachable' htree ((Node.trail?_eq_some_iff hwell).mp htrail).1
    · rcases Node.trail?_modes hwell (Path.requestSegments path) with
        hsame | ⟨steps, final, htrail, hkind, hbound, hshort⟩
      · exact Or.inl (by rw [hsame])
      · have hdepth : absorbing.AtDepth method final steps.length :=
          atDepth_of_walk? hreachable (htree?.trans htree)
            ((Node.trail?_eq_some_iff hwell).mp htrail).1
        rw [htrail]
        exact Or.inr ⟨_, steps.length, rfl, hkind, hbound, hdepth, hshort⟩

/-- The same run on a router whose wildcards absorb and on one whose wildcards stand for one segment
gives the same outcomes and the same trees.  A lookup that has an answer on the second router has
one on the first; the second one answers with nodes as deep as the path is long; and the first one
gives the same answer, or a wildcard with a handler that stands less deep and absorbs the rest. -/
theorem run_modes (calls : List (Call H)) :
    (empty ⟨.absorb⟩ : Router E H).outcomes calls =
      (empty ⟨.singleSegment⟩ : Router E H).outcomes calls ∧
    ((empty ⟨.absorb⟩ : Router E H).run calls).trees =
      ((empty ⟨.singleSegment⟩ : Router E H).run calls).trees ∧
    ∀ method path,
      ((((empty ⟨.singleSegment⟩ : Router E H).run calls).matchRoute method path).answer.isSome =
          true →
        (((empty ⟨.absorb⟩ : Router E H).run calls).matchRoute method path).answer.isSome =
          true) ∧
      (∀ found,
        (((empty ⟨.singleSegment⟩ : Router E H).run calls).matchRoute method path).answer =
          some found →
        ((empty ⟨.singleSegment⟩ : Router E H).run calls).AtDepth method found.node
          (Path.requestSegments path).length) ∧
      ((((empty ⟨.absorb⟩ : Router E H).run calls).matchRoute method path).answer =
          (((empty ⟨.singleSegment⟩ : Router E H).run calls).matchRoute method path).answer ∨
        ∃ found depth,
          (((empty ⟨.absorb⟩ : Router E H).run calls).matchRoute method path).answer =
            some found ∧
          found.node.kind = .wildcard ∧ found.handler.isSome = true ∧
          ((empty ⟨.absorb⟩ : Router E H).run calls).AtDepth method found.node depth ∧
          depth < (Path.requestSegments path).length) := by
  have hempty : (empty ⟨.absorb⟩ : Router E H).trees = (empty ⟨.singleSegment⟩ : Router E H).trees :=
    rfl
  obtain ⟨houtcomes, htrees⟩ := run_congr hempty calls
  refine ⟨houtcomes, htrees, ?_⟩
  intro method path
  exact matchRoute_modes ⟨_, calls, rfl⟩ ⟨_, calls, rfl⟩ htrees (by rw [run_config]; rfl)
    (by rw [run_config]; rfl) method path

/-- A wildcard that absorbs ends a search that the other mode would go on with elsewhere. -/
example :
    (((empty ⟨.absorb⟩ : Router Regex Nat).run
      [⟨"GET", "/a/*", 0⟩, ⟨"GET", "/:x/b/c", 1⟩]).matchRoute "GET" "/a/b/c").answer.map
        (·.fullRoute) = some "/a/*" ∧
    (((empty ⟨.singleSegment⟩ : Router Regex Nat).run
      [⟨"GET", "/a/*", 0⟩, ⟨"GET", "/:x/b/c", 1⟩]).matchRoute "GET" "/a/b/c").answer.map
        (·.fullRoute) = some "/:x/b/c" :=
  ⟨rfl, rfl⟩

end Router

end PathRouting
