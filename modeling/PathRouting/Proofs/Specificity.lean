import PathRouting.Regex
import PathRouting.Proofs.Candidate
import PathRouting.Proofs.History
set_option autoImplicit false

/-!
# The most specific candidate

Walks from a node are ordered by the first step in which they differ, and a walk that goes on comes
before one that stops.  A search finds the candidate that comes first in this order, and nothing
else (`trail?_eq_some_iff`), so this is what a lookup answers with (`matchRoute_mostSpecific`).
Handlers count only where a wildcard absorbs.
-/

namespace PathRouting

/-! ## The order of walks -/

namespace Descent

/-- The rank of the kind of child that a step leads to, most specific first. -/
def tier : Descent → Nat
  | .literal _ => 0
  | .regex _ => 1
  | .param => 2
  | .wildcard => 3

/-- The rank of a step among those to children of its kind.  Only expressions are ordered, by their
registration; of the literals at most one takes a segment. -/
def rank : Descent → Nat
  | .literal _ => 0
  | .regex index => index
  | .param => 0
  | .wildcard => 0

/-- One step is more specific than another one. -/
def Before (step other : Descent) : Prop :=
  step.tier < other.tier ∨ (step.tier = other.tier ∧ step.rank < other.rank)

/-- One walk comes before another one: it goes on where the other one stops, or its step is the more
specific one where they differ first. -/
inductive Precedes : List Descent → List Descent → Prop where
  | deeper (step : Descent) (rest : List Descent) : Precedes (step :: rest) []
  | sooner {step other : Descent} (hbefore : step.Before other) (rest others : List Descent) :
      Precedes (step :: rest) (other :: others)
  | later {rest others : List Descent} (step : Descent) (hrest : Precedes rest others) :
      Precedes (step :: rest) (step :: others)

theorem before_irrefl (step : Descent) : ¬ step.Before step := by
  unfold Before
  omega

theorem before_trans {first second third : Descent} (hfirst : first.Before second)
    (hsecond : second.Before third) : first.Before third := by
  unfold Before at *
  omega

theorem precedes_irrefl (walk : List Descent) : ¬ Precedes walk walk := by
  induction walk with
  | nil =>
    intro hself
    cases hself
  | cons step rest ih =>
    intro hself
    cases hself with
    | sooner hbefore => exact before_irrefl step hbefore
    | later _ hrest => exact ih hrest

theorem precedes_trans {first second third : List Descent} (hfirst : Precedes first second)
    (hsecond : Precedes second third) : Precedes first third := by
  induction hfirst generalizing third with
  | deeper step rest => cases hsecond
  | sooner hbefore rest others =>
    cases hsecond with
    | deeper => exact .deeper _ _
    | sooner hnext => exact .sooner (before_trans hbefore hnext) _ _
    | later => exact .sooner hbefore _ _
  | later step hrest ih =>
    cases hsecond with
    | deeper => exact .deeper _ _
    | sooner hnext => exact .sooner hnext _ _
    | later _ htail => exact .later step (ih htail)

end Descent

variable {E H : Type} [Constraint E]

namespace Node

/-! ## The order of moves -/

omit [Constraint E] in
theorem pairwise_moveTo (step : Descent) (child? : Option (Node E H)) :
    (moveTo step child?).Pairwise fun move other => move.1.Before other.1 := by
  cases child? with
  | none => exact List.Pairwise.nil
  | some child => exact List.pairwise_singleton _ _

theorem pairwise_regexMoves (node : Node E H) (text : String) :
    (node.regexMoves text).Pairwise fun move other => move.1.Before other.1 := by
  unfold regexMoves
  rw [List.pairwise_map]
  refine List.Pairwise.filter _ ?_
  have hindices : (node.regexChildren.zipIdx.map (·.2)).Pairwise (· < ·) := by
    rw [List.zipIdx_map_snd]
    exact List.pairwise_lt_range'
  rw [List.pairwise_map] at hindices
  exact hindices.imp fun hlt => Or.inr ⟨rfl, hlt⟩

/-- The moves from a node are tried from the most specific to the least. -/
theorem pairwise_moves (node : Node E H) (text : String) :
    (node.moves text).Pairwise fun move other => move.1.Before other.1 := by
  have htier : ∀ {step : Descent} {child? : Option (Node E H)} {move : Descent × Node E H},
      move ∈ moveTo step child? → move.1.tier = step.tier := fun hmem => by
    rw [(mem_moveTo.mp hmem).2]
  have hregex : ∀ {move : Descent × Node E H}, move ∈ node.regexMoves text → move.1.tier = 1 := by
    intro move hmem
    obtain ⟨index, -, -, hstep⟩ := mem_regexMoves.mp hmem
    rw [hstep]
    rfl
  unfold moves
  refine List.pairwise_append.mpr ⟨List.pairwise_append.mpr ⟨List.pairwise_append.mpr
    ⟨pairwise_moveTo _ _, pairwise_regexMoves node text, ?_⟩, pairwise_moveTo _ _, ?_⟩,
    pairwise_moveTo _ _, ?_⟩
  · intro move hmove other hother
    refine Or.inl ?_
    rw [htier hmove, hregex hother]
    exact Nat.zero_lt_one
  · intro move hmove other hother
    refine Or.inl ?_
    rw [htier hother]
    rcases List.mem_append.mp hmove with hliteral | hexpression
    · rw [htier hliteral]
      exact Nat.zero_lt_two
    · rw [hregex hexpression]
      exact Nat.one_lt_two
  · intro move hmove other hother
    refine Or.inl ?_
    rw [htier hother]
    rcases List.mem_append.mp hmove with hcaptures | hparam
    · rcases List.mem_append.mp hcaptures with hliteral | hexpression
      · rw [htier hliteral]
        exact Nat.zero_lt_succ 2
      · rw [hregex hexpression]
        exact Nat.succ_lt_succ Nat.zero_lt_two
    · rw [htier hparam]
      exact Nat.lt_succ_self 2

/-! ## The trail of a search comes first -/

/-- What a trail tells about the moves at its first node: the ones before its own lead nowhere. -/
theorem trail?_cons {mode : WildcardMode} {node final : Node E H} {text : String}
    {rest : List String} {steps : List Descent}
    (htrail : trail? mode (text :: rest) node = some (steps, final)) :
    ∃ before step child after tail,
      node.moves text = before ++ (step, child) :: after ∧ steps = step :: tail ∧
      (trail? mode rest child = some (tail, final) ∨
        (trail? mode rest child = none ∧ endsWith mode (step, child) = true ∧ tail = [] ∧
          final = child)) ∧
      ∀ move ∈ before, trail? mode rest move.2 = none ∧ ¬ endsWith mode move = true := by
  rw [trail?] at htrail
  obtain ⟨before, ⟨step, child⟩, after, hmoves, hfound, hbefore⟩ :=
    List.findSome?_eq_some_iff.mp htrail
  obtain ⟨⟨tail, last⟩, hbelow, hsteps⟩ := Option.map_eq_some_iff.mp hfound
  obtain ⟨rfl, rfl⟩ := Prod.mk.inj hsteps
  refine ⟨before, step, child, after, tail, hmoves, rfl, ?_, fun move hmove => ?_⟩
  · rw [Option.or_eq_some_iff] at hbelow
    rcases hbelow with hdeeper | ⟨hnone, hhere⟩
    · exact Or.inl hdeeper
    · split at hhere
      · next hends =>
        obtain ⟨rfl, rfl⟩ := Prod.mk.inj (Option.some.inj hhere)
        exact Or.inr ⟨hnone, hends, rfl, rfl⟩
      · cases hhere
  · have hnone := hbefore move hmove
    rw [Option.map_eq_none_iff, Option.or_eq_none_iff] at hnone
    exact ⟨hnone.1, fun hends => by simp [hends] at hnone⟩

/-- A trail is a candidate, it leads to the node that was found, and it comes before every other
candidate. -/
theorem trail?_first {mode : WildcardMode} {node final : Node E H} (hwell : node.WellFormed)
    {segments : List String} {steps : List Descent}
    (htrail : trail? mode segments node = some (steps, final)) :
    node.walk? steps = some final ∧ Candidate mode node segments steps ∧
      ∀ other, Candidate mode node segments other →
        other = steps ∨ Descent.Precedes steps other := by
  induction segments generalizing node steps with
  | nil =>
    obtain ⟨rfl, rfl⟩ := Prod.mk.inj (Option.some.inj htrail)
    exact ⟨rfl, candidate_nil.mpr rfl, fun other hother => Or.inl (candidate_nil.mp hother)⟩
  | cons text rest ih =>
    obtain ⟨before, step, child, after, tail, hmoves, rfl, hbelow, hbefore⟩ := trail?_cons htrail
    have hnowhere : ∀ {below : Node E H} {walk : List Descent}, below.WellFormed →
        trail? mode rest below = none → ¬ Candidate mode below rest walk := by
      intro below walk hwellBelow hnone hwalk
      have hsome := (trail?_isSome_iff hwellBelow).mpr ⟨walk, hwalk⟩
      rw [hnone] at hsome
      cases hsome
    have hmove : (step, child) ∈ node.moves text := by simp [hmoves]
    obtain ⟨hchild, htakes⟩ := (mem_moves hwell.arranged).mp hmove
    have hwellChild := hwell.child hchild
    refine ⟨?_, ?_, fun other hother => ?_⟩
    · rw [walk?_cons]
      rcases hbelow with hdeeper | ⟨-, -, rfl, rfl⟩
      · exact ⟨child, hchild, (ih hwellChild hdeeper).1⟩
      · exact ⟨final, hchild, rfl⟩
    · refine candidate_cons.mpr ⟨step, child, tail, rfl, hchild, htakes, ?_⟩
      rcases hbelow with hdeeper | ⟨-, hends, rfl, -⟩
      · exact Or.inl (ih hwellChild hdeeper).2.1
      · exact Or.inr ⟨rfl, (endsWith_iff (hwell.arranged.fits hchild)).mp hends⟩
    · obtain ⟨step', child', tail', rfl, hchild', htakes', hbelow'⟩ := candidate_cons.mp hother
      have hmove' := (mem_moves hwell.arranged).mpr ⟨hchild', htakes'⟩
      rw [hmoves, List.mem_append, List.mem_cons] at hmove'
      rcases hmove' with hearlier | hsame | hlater
      · -- The moves before that of the trail lead nowhere, so no candidate starts with them.
        obtain ⟨hnone, hpasses⟩ := hbefore _ hearlier
        rcases hbelow' with hdeeper' | ⟨-, hends'⟩
        · exact absurd hdeeper' (hnowhere (hwell.child hchild') hnone)
        · exact absurd ((endsWith_iff (hwell.arranged.fits hchild')).mpr hends') hpasses
      · -- Both start with the move of the trail, and what comes below it decides.
        obtain ⟨rfl, rfl⟩ := Prod.mk.inj hsame
        rcases hbelow with hdeeper | ⟨hnone, -, rfl, -⟩
        · rcases hbelow' with hdeeper' | ⟨rfl, -⟩
          · rcases (ih hwellChild hdeeper).2.2 tail' hdeeper' with hequal | hprecedes
            · exact Or.inl (by rw [hequal])
            · exact Or.inr (.later _ hprecedes)
          · cases tail with
            | nil => exact Or.inl rfl
            | cons next others => exact Or.inr (.later _ (.deeper next others))
        · rcases hbelow' with hdeeper' | ⟨rfl, -⟩
          · exact absurd hdeeper' (hnowhere hwellChild hnone)
          · exact Or.inl rfl
      · have hordered := node.pairwise_moves text
        rw [hmoves, List.pairwise_append, List.pairwise_cons] at hordered
        exact Or.inr (.sooner (hordered.2.1.1 _ hlater) _ _)

/-- A search finds the end of the candidate that comes before all others, and nothing else. -/
theorem trail?_eq_some_iff {mode : WildcardMode} {node final : Node E H} (hwell : node.WellFormed)
    {segments : List String} {steps : List Descent} :
    trail? mode segments node = some (steps, final) ↔
      node.walk? steps = some final ∧ Candidate mode node segments steps ∧
        ∀ other, Candidate mode node segments other →
          other = steps ∨ Descent.Precedes steps other := by
  constructor
  · exact trail?_first hwell
  · rintro ⟨hwalk, hcandidate, hfirst⟩
    obtain ⟨⟨found, last⟩, htrail⟩ := Option.isSome_iff_exists.mp
      ((trail?_isSome_iff hwell).mpr ⟨steps, hcandidate⟩)
    obtain ⟨hwalkFound, hcandidateFound, hfirstFound⟩ := trail?_first hwell htrail
    have hsteps : steps = found := by
      rcases hfirst found hcandidateFound with hsame | hbefore
      · exact hsame.symm
      · rcases hfirstFound steps hcandidate with hsame | hafter
        · exact hsame
        · exact absurd (Descent.precedes_trans hbefore hafter) (Descent.precedes_irrefl steps)
    subst hsteps
    have hlast : last = final := Option.some.inj (hwalkFound.symm.trans hwalk)
    rw [htrail, hlast]

end Node

namespace Router

/-- Where there are candidates a lookup has an answer, and the node it answers with is at the end of
the candidate that comes before all others; no other walk leads there. -/
theorem matchRoute_mostSpecific {router : Router E H} (hreachable : router.Reachable)
    {method : String} {tree : Node E H} (htree : router.tree? method = some tree) (path : String) :
    ((∃ steps, tree.Candidate router.config.wildcardMode (Path.requestSegments path) steps) →
      (router.matchRoute method path).answer.isSome = true) ∧
    ∀ found, (router.matchRoute method path).answer = some found →
      ∃ steps, tree.walk? steps = some found.node ∧
        (∀ other, tree.walk? other = some found.node → other = steps) ∧
        tree.Candidate router.config.wildcardMode (Path.requestSegments path) steps ∧
        ∀ other, tree.Candidate router.config.wildcardMode (Path.requestSegments path) other →
          other = steps ∨ Descent.Precedes steps other := by
  obtain ⟨log, htracks⟩ := hreachable.tracks
  have hwell := htracks.wellFormed htree
  have hnode := router.matchRoute_node_eq method path
  rw [htree, Option.bind_some] at hnode
  constructor
  · intro hsome
    rw [← Option.isSome_map, hnode, Option.isSome_map]
    exact (Node.trail?_isSome_iff hwell).mpr hsome
  · intro found hfound
    rw [hfound, Option.map_some, eq_comm, Option.map_eq_some_iff] at hnode
    obtain ⟨⟨steps, final⟩, htrail, hfinal⟩ := hnode
    have hhere : final = found.node := hfinal
    subst hhere
    obtain ⟨hwalk, hcandidate, hfirst⟩ := (Node.trail?_eq_some_iff hwell).mp htrail
    exact ⟨steps, hwalk, fun other hother => Node.walk?_injective hwell hother hwalk, hcandidate,
      hfirst⟩

/-- A literal that is only passed through comes before a parameter that has a handler. -/
theorem matchRoute_mostSpecific_passThrough :
    ∃ (found : RouteMatch Regex Nat) (tree : Node Regex Nat) (steps : List Descent),
      (((empty default : Router Regex Nat).run
        [⟨"GET", "/user/new/form", 0⟩, ⟨"GET", "/user/:id", 1⟩]).matchRoute
          "GET" "/user/new").answer = some found ∧
      found.isRoutable = false ∧ tree.walk? steps = some found.node ∧
      tree.Candidate .absorb ["user", "new"] [.literal "user", .param] ∧
      ∀ other, tree.Candidate .absorb ["user", "new"] other →
        other = steps ∨ Descent.Precedes steps other := by
  have hreachable : ((empty default : Router Regex Nat).run
      [⟨"GET", "/user/new/form", 0⟩, ⟨"GET", "/user/:id", 1⟩]).Reachable := ⟨default, _, rfl⟩
  obtain ⟨tree, htree, hparam⟩ : ∃ tree : Node Regex Nat,
      ((empty default : Router Regex Nat).run
        [⟨"GET", "/user/new/form", 0⟩, ⟨"GET", "/user/:id", 1⟩]).tree? "GET" = some tree ∧
      tree.Candidate .absorb ["user", "new"] [.literal "user", .param] :=
    ⟨_, rfl, _, .down rfl rfl (.down rfl rfl (.here _)), Or.inl rfl⟩
  obtain ⟨found, hfound, hroutable⟩ : ∃ found : RouteMatch Regex Nat,
      (((empty default : Router Regex Nat).run
        [⟨"GET", "/user/new/form", 0⟩, ⟨"GET", "/user/:id", 1⟩]).matchRoute
          "GET" "/user/new").answer = some found ∧ found.isRoutable = false := ⟨_, rfl, rfl⟩
  obtain ⟨steps, hwalk, -, -, hfirst⟩ :=
    (matchRoute_mostSpecific hreachable htree "/user/new").2 found hfound
  exact ⟨found, tree, steps, hfound, hroutable, hwalk, hparam, hfirst⟩

end Router

end PathRouting
