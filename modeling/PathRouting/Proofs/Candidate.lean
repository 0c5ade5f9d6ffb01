import PathRouting.Router
import PathRouting.Proofs.Arrangement
set_option autoImplicit false

/-!
# Candidates of a search

A candidate is a walk that a search could settle on: every step takes one segment of the path, and
the walk ends with the last of them or at a wildcard that absorbs the rest.  A search tries the
moves from a node in their order (`search_cons`).  `trail?` is the search without its captures;
`search_fst_eq` says that it finds the same node, and `trail?_isSome_iff` that it fails only when
there is no candidate.
-/

namespace PathRouting

variable {E H : Type} [Constraint E]

namespace Node

/-! ## Candidates -/

/-- Does a node take a segment of a path? -/
def takes (node : Node E H) (text : String) : Bool :=
  match node.kind with
  | .root => false
  | .literal => node.segment = text
  | .param _ => true
  | .regex _ _ expression => Constraint.accepts expression text
  | .wildcard => true

/-- The steps lead from the first node to the last one, through children that take the texts. -/
inductive Follows : Node E H → List Descent → List String → Node E H → Prop where
  | here (node : Node E H) : Follows node [] [] node
  | down {node child final : Node E H} {step : Descent} {steps : List Descent} {text : String}
      {texts : List String} (hchild : node.child? step = some child)
      (htakes : child.takes text = true) (hrest : Follows child steps texts final) :
      Follows node (step :: steps) (text :: texts) final

/-- The steps are a candidate for the segments of a path: they take all of them, or they take some
and end at a wildcard that absorbs the others, which it does only with a handler. -/
def Candidate (mode : WildcardMode) (tree : Node E H) (segments : List String)
    (steps : List Descent) : Prop :=
  ∃ final, Follows tree steps (segments.take steps.length) final ∧
    (steps.length = segments.length ∨
      (mode = .absorb ∧ 1 ≤ steps.length ∧ steps.length < segments.length ∧
        final.kind = .wildcard ∧ final.handler.isSome = true))

theorem follows_nil {node final : Node E H} {texts : List String} :
    Follows node [] texts final ↔ texts = [] ∧ final = node := by
  constructor
  · intro hfollows
    cases hfollows
    exact ⟨rfl, rfl⟩
  · rintro ⟨rfl, rfl⟩
    exact .here _

theorem follows_cons {node final : Node E H} {step : Descent} {steps : List Descent}
    {text : String} {texts : List String} :
    Follows node (step :: steps) (text :: texts) final ↔
      ∃ child, node.child? step = some child ∧ child.takes text = true ∧
        Follows child steps texts final := by
  constructor
  · intro hfollows
    cases hfollows with
    | @down _ child _ _ _ _ _ hchild htakes hrest => exact ⟨child, hchild, htakes, hrest⟩
  · rintro ⟨child, hchild, htakes, hrest⟩
    exact .down hchild htakes hrest

omit [Constraint E] in
theorem mayAbsorb_iff {mode : WildcardMode} {node : Node E H} :
    node.mayAbsorb mode = true ↔ mode = .absorb ∧ node.handler.isSome = true := by
  simp [mayAbsorb]

theorem candidate_nil {mode : WildcardMode} {tree : Node E H} {steps : List Descent} :
    Candidate mode tree [] steps ↔ steps = [] := by
  constructor
  · rintro ⟨final, -, hall | ⟨-, -, hsome, -⟩⟩
    · exact List.length_eq_zero_iff.mp hall
    · simp at hsome
  · rintro rfl
    exact ⟨tree, .here tree, Or.inl rfl⟩

/-- A candidate for a path takes its first segment and goes on with the others, unless the first
step leads to a wildcard that absorbs them. -/
theorem candidate_cons {mode : WildcardMode} {tree : Node E H} {text : String}
    {rest : List String} {steps : List Descent} :
    Candidate mode tree (text :: rest) steps ↔
      ∃ step child tail, steps = step :: tail ∧ tree.child? step = some child ∧
        child.takes text = true ∧
        (Candidate mode child rest tail ∨
          (tail = [] ∧ child.kind = .wildcard ∧ child.mayAbsorb mode = true)) := by
  constructor
  · rintro ⟨final, hfollows, hends⟩
    cases steps with
    | nil => simp at hends
    | cons step tail =>
      rw [List.length_cons, List.take_succ_cons, follows_cons] at hfollows
      obtain ⟨child, hchild, htakes, hrest⟩ := hfollows
      refine ⟨step, child, tail, rfl, hchild, htakes, ?_⟩
      rcases hends with hall | ⟨hmode, -, hshort, hwildcard, hhandler⟩
      · exact Or.inl ⟨final, hrest, Or.inl (by simpa using hall)⟩
      · cases tail with
        | nil =>
          obtain ⟨-, rfl⟩ := follows_nil.mp hrest
          exact Or.inr ⟨rfl, hwildcard, mayAbsorb_iff.mpr ⟨hmode, hhandler⟩⟩
        | cons next others =>
          refine Or.inl ⟨final, hrest, Or.inr ⟨hmode, ?_, ?_, hwildcard, hhandler⟩⟩
          · simp
          · simpa using hshort
  · rintro ⟨step, child, tail, rfl, hchild, htakes, hbelow⟩
    rcases hbelow with ⟨final, hrest, hends⟩ | ⟨rfl, hwildcard, hmay⟩
    · refine ⟨final, ?_, ?_⟩
      · rw [List.length_cons, List.take_succ_cons]
        exact .down hchild htakes hrest
      · rcases hends with hall | ⟨hmode, -, hshort, hwildcard, hhandler⟩
        · exact Or.inl (by simpa using hall)
        · exact Or.inr ⟨hmode, by simp, by simpa using hshort, hwildcard, hhandler⟩
    · refine ⟨child, .down hchild htakes (by rw [List.take_zero]; exact .here child), ?_⟩
      obtain ⟨hmode, hhandler⟩ := mayAbsorb_iff.mp hmay
      cases rest with
      | nil => exact Or.inl rfl
      | cons next others =>
        exact Or.inr ⟨hmode, by simp, by simp, hwildcard, hhandler⟩

/-! ## The trail of a search -/

/-- The move to a place that holds one child at most. -/
def moveTo (step : Descent) (child? : Option (Node E H)) : List (Descent × Node E H) :=
  child?.toList.map (step, ·)

/-- The moves to the expressions that accept a segment. -/
def regexMoves (node : Node E H) (text : String) : List (Descent × Node E H) :=
  (node.regexChildren.zipIdx.filter (·.1.kind.accepts text)).map
    fun place => (.regex place.2, place.1)

/-- The steps that take a segment and where they lead, in the order in which they are tried. -/
def moves (node : Node E H) (text : String) : List (Descent × Node E H) :=
  moveTo (.literal text) (node.staticChild? text) ++ node.regexMoves text
    ++ moveTo .param node.paramChild? ++ moveTo .wildcard node.wildcardChild?

/-- Can a search end with a move, whatever is left of the path? -/
def endsWith (mode : WildcardMode) (move : Descent × Node E H) : Bool :=
  move.1 = .wildcard && move.2.mayAbsorb mode

/-- Where a search goes and where it ends, without what it captures. -/
def trail? (mode : WildcardMode) : List String → Node E H → Option (List Descent × Node E H)
  | [], node => some ([], node)
  | text :: rest, node =>
    (node.moves text).findSome? fun move =>
      ((trail? mode rest move.2).or
        (if endsWith mode move then some ([], move.2) else none)).map
          fun below => (move.1 :: below.1, below.2)

/-! ## One choice after the other -/

section Outcomes

omit [Constraint E]

theorem Outcome.orElse_assoc (first : Outcome E H) (second third : Captures → Outcome E H) :
    (first.orElse second).orElse third = first.orElse fun after => (second after).orElse third := by
  obtain ⟨found, captures⟩ := first
  cases found with
  | some node => rfl
  | none => rfl

theorem Outcome.orElse_fst (first : Outcome E H) (next : Captures → Outcome E H) :
    (first.orElse next).1 = first.1.or (next first.2).1 := by
  obtain ⟨found, captures⟩ := first
  cases found with
  | some node => rfl
  | none => rfl

theorem firstOf_append {α : Type} (attempt : α → Captures → Outcome E H) (choices others : List α)
    (captures : Captures) :
    firstOf attempt (choices ++ others) captures =
      (firstOf attempt choices captures).orElse (firstOf attempt others) := by
  induction choices generalizing captures with
  | nil => rfl
  | cons choice rest ih =>
    rw [List.cons_append, firstOf, firstOf, Outcome.orElse_assoc]
    congr 1
    funext after
    exact ih after

theorem firstOf_map {α β : Type} (attempt : β → Captures → Outcome E H) (f : α → β)
    (choices : List α) :
    firstOf attempt (choices.map f) = firstOf (fun choice => attempt (f choice)) choices := by
  induction choices with
  | nil => rfl
  | cons choice rest ih =>
    funext captures
    rw [List.map_cons, firstOf, firstOf, ih]

theorem firstOf_moveTo (attempt : Descent × Node E H → Captures → Outcome E H) (step : Descent)
    (child? : Option (Node E H)) :
    firstOf attempt (moveTo step child?) =
      firstOf (fun child => attempt (step, child)) child?.toList :=
  firstOf_map attempt (step, ·) child?.toList

/-- Trying choices one after the other finds what the first of them with a success finds. -/
theorem firstOf_fst {α : Type} {attempt : α → Captures → Outcome E H}
    {result : α → Option (Node E H)}
    (hattempt : ∀ choice captures, (attempt choice captures).1 = result choice)
    (choices : List α) (captures : Captures) :
    (firstOf attempt choices captures).1 = choices.findSome? result := by
  induction choices generalizing captures with
  | nil => rfl
  | cons choice rest ih =>
    rw [firstOf, Outcome.orElse_fst, hattempt, ih, List.findSome?_cons]
    cases result choice with
    | some node => rfl
    | none => rfl

theorem capturing_fst (child : Node E H) (text : String) {below : Captures → Outcome E H}
    {result : Option (Node E H)} (hbelow : ∀ captures, (below captures).1 = result)
    (captures : Captures) : (capturing child text below captures).1 = result := by
  unfold capturing
  split
  · exact hbelow captures
  · rw [Outcome.orElse_fst, hbelow, Option.or_none]

theorem absorbing_fst (mode : WildcardMode) (child : Node E H) {below : Captures → Outcome E H}
    {result : Option (Node E H)} (hbelow : ∀ captures, (below captures).1 = result)
    (captures : Captures) :
    (absorbing mode child below captures).1 =
      result.or (if child.mayAbsorb mode then some child else none) := by
  rw [absorbing, Outcome.orElse_fst, hbelow]

end Outcomes

/-! ## One move after the other -/

/-- The search below one child, as the place of the child calls for. -/
def searchMove (mode : WildcardMode) (text : String) (rest : List String)
    (move : Descent × Node E H) : Captures → Outcome E H :=
  match move.1 with
  | .literal _ => search mode rest move.2
  | .param => capturing move.2 text (search mode rest move.2)
  | .regex _ => capturing move.2 text (search mode rest move.2)
  | .wildcard => absorbing mode move.2 (search mode rest move.2)

theorem firstOf_regexMoves (mode : WildcardMode) (text : String) (rest : List String)
    (node : Node E H) :
    firstOf (searchMove mode text rest) (node.regexMoves text) =
      firstOf (fun child => capturing child text (search mode rest child))
        (node.regexChildren.filter (·.kind.accepts text)) := by
  have hnodes := List.filter_map (f := Prod.fst) (p := fun child => child.kind.accepts text)
    (l := node.regexChildren.zipIdx)
  rw [List.zipIdx_map_fst] at hnodes
  rw [hnodes, firstOf_map, regexMoves, firstOf_map]
  rfl

/-- A search tries the moves from a node one after the other. -/
theorem search_cons (mode : WildcardMode) (text : String) (rest : List String) (node : Node E H)
    (captures : Captures) :
    search mode (text :: rest) node captures =
      firstOf (searchMove mode text rest) (node.moves text) captures := by
  have hcapturing : firstOf (fun child => capturing child text (search mode rest child))
      (node.capturingChildren text) = fun after =>
        (firstOf (searchMove mode text rest) (node.regexMoves text) after).orElse
          (firstOf (searchMove mode text rest) (moveTo .param node.paramChild?)) := by
    funext after
    rw [capturingChildren, firstOf_append, firstOf_regexMoves, firstOf_moveTo]
    rfl
  rw [search, hcapturing, ← Outcome.orElse_assoc, moves, firstOf_append, firstOf_append,
    firstOf_append, firstOf_moveTo _ (.literal text), firstOf_moveTo _ .wildcard]
  rfl

/-- Captures do not change where a search goes. -/
theorem search_fst_eq (mode : WildcardMode) (segments : List String) (node : Node E H)
    (captures : Captures) :
    (search mode segments node captures).1 = (trail? mode segments node).map (·.2) := by
  induction segments generalizing node captures with
  | nil => rfl
  | cons text rest ih =>
    have hattempt : ∀ (move : Descent × Node E H) captures,
        (searchMove mode text rest move captures).1 =
          ((trail? mode rest move.2).map (·.2)).or
            (if endsWith mode move then some move.2 else none) := by
      rintro ⟨step, child⟩ captures
      cases step with
      | literal own => exact (ih child captures).trans (Option.or_none).symm
      | param => exact (capturing_fst child text (ih child) captures).trans (Option.or_none).symm
      | regex index =>
        exact (capturing_fst child text (ih child) captures).trans (Option.or_none).symm
      | wildcard => exact absorbing_fst mode child (ih child) captures
    rw [search_cons, trail?, firstOf_fst hattempt, List.map_findSome?]
    congr 1
    funext move
    cases htrail : trail? mode rest move.2 with
    | some below => simp [htrail]
    | none =>
      by_cases hends : endsWith mode move = true
      · simp [htrail, hends]
      · simp [htrail, hends]

/-! ## What a search finds -/

omit [Constraint E] in
theorem mem_moveTo {step : Descent} {child? : Option (Node E H)} {move : Descent × Node E H} :
    move ∈ moveTo step child? ↔ child? = some move.2 ∧ move.1 = step := by
  unfold moveTo
  rw [List.mem_map]
  constructor
  · rintro ⟨child, hchild, rfl⟩
    exact ⟨Option.mem_toList.mp hchild, rfl⟩
  · rintro ⟨hchild, rfl⟩
    exact ⟨move.2, Option.mem_toList.mpr hchild, rfl⟩

theorem mem_regexMoves {node : Node E H} {text : String} {move : Descent × Node E H} :
    move ∈ node.regexMoves text ↔
      ∃ index, node.child? (.regex index) = some move.2 ∧ move.2.kind.accepts text = true ∧
        move.1 = .regex index := by
  unfold regexMoves
  simp only [List.mem_map, List.mem_filter, List.mem_zipIdx_iff_getElem?, Prod.exists]
  constructor
  · rintro ⟨child, index, ⟨hchild, haccepts⟩, rfl⟩
    exact ⟨index, hchild, haccepts, rfl⟩
  · rintro ⟨index, hchild, haccepts, hstep⟩
    exact ⟨move.2, index, ⟨hchild, haccepts⟩, by rw [← hstep]⟩

/-- The moves from a node are the steps to the children that take the segment. -/
theorem mem_moves {node : Node E H} (harranged : node.Arranged) {text : String} {step : Descent}
    {child : Node E H} :
    (step, child) ∈ node.moves text ↔ node.child? step = some child ∧ child.takes text = true := by
  rw [moves, List.mem_append, List.mem_append, List.mem_append, mem_moveTo, mem_regexMoves,
    mem_moveTo, mem_moveTo]
  constructor
  · rintro (((⟨hchild, rfl⟩ | ⟨index, hchild, haccepts, rfl⟩) | ⟨hchild, rfl⟩) | ⟨hchild, rfl⟩)
    · have hplaced : node.child? (.literal text) = some child := hchild
      obtain ⟨hkind, hown⟩ := (harranged.fits hplaced).admitted
      exact ⟨hplaced, by simp [takes, hkind, hown]⟩
    · obtain ⟨name, source, expression, hkind⟩ := (harranged.fits hchild).admitted
      rw [hkind] at haccepts
      exact ⟨hchild, by rw [takes, hkind]; exact haccepts⟩
    · have hplaced : node.child? .param = some child := hchild
      obtain ⟨name, hkind⟩ := (harranged.fits hplaced).admitted
      exact ⟨hplaced, by simp [takes, hkind]⟩
    · have hplaced : node.child? .wildcard = some child := hchild
      have hkind : child.kind = .wildcard := (harranged.fits hplaced).admitted
      exact ⟨hplaced, by simp [takes, hkind]⟩
  · rintro ⟨hchild, htakes⟩
    have hadmits := (harranged.fits hchild).admitted
    cases step with
    | literal own =>
      obtain ⟨hkind, hown⟩ := hadmits
      have htext : own = text := by simpa [takes, hkind, hown] using htakes
      exact Or.inl (Or.inl (Or.inl ⟨htext ▸ hchild, by rw [htext]⟩))
    | regex index =>
      obtain ⟨name, source, expression, hkind⟩ := hadmits
      rw [takes, hkind] at htakes
      exact Or.inl (Or.inl (Or.inr ⟨index, hchild, by rw [hkind]; exact htakes, rfl⟩))
    | param => exact Or.inl (Or.inr ⟨hchild, rfl⟩)
    | wildcard => exact Or.inr ⟨hchild, rfl⟩

/-- In a tree in order, searches end early at wildcards only. -/
theorem endsWith_iff {mode : WildcardMode} {node child : Node E H} {step : Descent}
    (hfits : node.Fits step child) :
    endsWith mode (step, child) = true ↔
      child.kind = .wildcard ∧ child.mayAbsorb mode = true := by
  have hplace : step = .wildcard ↔ child.kind = .wildcard := by
    have hadmits := hfits.admitted
    cases step with
    | literal own => simp [hadmits.1]
    | param =>
      obtain ⟨name, hkind⟩ := hadmits
      simp [hkind]
    | regex index =>
      obtain ⟨name, source, expression, hkind⟩ := hadmits
      simp [hkind]
    | wildcard =>
      have hkind : child.kind = .wildcard := hadmits
      simp [hkind]
  rw [endsWith, Bool.and_eq_true, decide_eq_true_iff, hplace]

/-- A search fails only when there is no candidate. -/
theorem trail?_isSome_iff {mode : WildcardMode} {node : Node E H} (hwell : node.WellFormed)
    {segments : List String} :
    (trail? mode segments node).isSome = true ↔ ∃ steps, Candidate mode node segments steps := by
  induction segments generalizing node with
  | nil => simp [trail?, candidate_nil]
  | cons text rest ih =>
    rw [trail?, List.findSome?_isSome_iff]
    constructor
    · rintro ⟨⟨step, child⟩, hmove, hsome⟩
      obtain ⟨hchild, htakes⟩ := (mem_moves hwell.arranged).mp hmove
      rw [Option.isSome_map, Option.isSome_or, Bool.or_eq_true] at hsome
      rcases hsome with hbelow | hends
      · obtain ⟨tail, htail⟩ := (ih (hwell.child hchild)).mp hbelow
        exact ⟨step :: tail, candidate_cons.mpr
          ⟨step, child, tail, rfl, hchild, htakes, Or.inl htail⟩⟩
      · have hhere : endsWith mode (step, child) = true := by simpa using hends
        exact ⟨[step], candidate_cons.mpr ⟨step, child, [], rfl, hchild, htakes,
          Or.inr ⟨rfl, (endsWith_iff (hwell.arranged.fits hchild)).mp hhere⟩⟩⟩
    · rintro ⟨steps, hcandidate⟩
      obtain ⟨step, child, tail, -, hchild, htakes, hbelow⟩ := candidate_cons.mp hcandidate
      refine ⟨(step, child), (mem_moves hwell.arranged).mpr ⟨hchild, htakes⟩, ?_⟩
      rw [Option.isSome_map, Option.isSome_or, Bool.or_eq_true]
      rcases hbelow with htail | ⟨-, hends⟩
      · exact Or.inl ((ih (hwell.child hchild)).mpr ⟨tail, htail⟩)
      · exact Or.inr (by simp [(endsWith_iff (hwell.arranged.fits hchild)).mpr hends])

end Node

namespace Router

/-- The node that a lookup answers with is where the trail in the tree of its method ends. -/
theorem matchRoute_node_eq (router : Router E H) (method path : String) :
    (router.matchRoute method path).answer.map (·.node) =
      (router.tree? method).bind fun tree =>
        (tree.trail? router.config.wildcardMode (Path.requestSegments path)).map (·.2) := by
  rw [matchRoute, tree?]
  cases router.trees.get? method with
  | none => rfl
  | some tree =>
    have hsearch := tree.search_fst_eq router.config.wildcardMode (Path.requestSegments path) .empty
    rw [Option.bind_some, ← hsearch]
    simp only
    cases tree.search router.config.wildcardMode (Path.requestSegments path) .empty with
    | mk found captures =>
      cases found with
      | none => rfl
      | some node => rfl

end Router

end PathRouting
