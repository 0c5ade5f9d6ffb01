import PathRouting.Regex
import PathRouting.Proofs.Captures
set_option autoImplicit false

/-!
# Taking captures back

One set of captures serves a whole search: a branch writes to it on the way down, and takes back
what it wrote when it led nowhere.  A capture may hide one that was made further up, or before the
search began, and has to bring it back.  `explore` is the search that needs none of this, because it
hands every branch captures of its own; whatever the captures at the start, the search that undoes
agrees with it (`search_agrees_explore`).  So a search that fails leaves the captures as they were,
and one that succeeds adds those of the walk to the node that it found (`search_undoes_captures`).
-/

namespace PathRouting

variable {E H : Type}

namespace Node

/-! ## Outcomes that agree -/

/-- An outcome agrees with what a search without undoing gives: it ends at the same node with
captures that bind the same, or nowhere with the captures it was given. -/
def Outcome.Agrees (outcome : Outcome E H) (captures : Captures) :
    Option (Node E H × Captures) → Prop
  | none => outcome.1 = none ∧ outcome.2.Agrees captures
  | some (node, after) => outcome.1 = some node ∧ outcome.2.Agrees after

/-- Going on after a search that led nowhere, which may end with captures other than the ones that
this search was given. -/
theorem Outcome.Agrees.orElse {outcome : Outcome E H} {given captures : Captures}
    {found next : Option (Node E H × Captures)} {goOn : Captures → Outcome E H}
    (hagrees : outcome.Agrees given found)
    (hnext : ∀ start, start.Agrees given → (goOn start).Agrees captures next) :
    (outcome.orElse goOn).Agrees captures (found.or next) := by
  obtain ⟨ending, after⟩ := outcome
  cases found with
  | none =>
    obtain ⟨rfl, hafter⟩ := hagrees
    exact hnext after hafter
  | some result =>
    obtain ⟨rfl, hafter⟩ := hagrees
    exact ⟨rfl, hafter⟩

theorem firstOf_agrees {attempt : Node E H → Captures → Outcome E H} {captures : Captures}
    {result : Node E H → Option (Node E H × Captures)}
    (hattempt : ∀ child start, start.Agrees captures →
      (attempt child start).Agrees captures (result child))
    (nodes : List (Node E H)) {start : Captures} (hstart : start.Agrees captures) :
    (firstOf attempt nodes start).Agrees captures (nodes.findSome? result) := by
  induction nodes generalizing start with
  | nil => exact ⟨rfl, hstart⟩
  | cons child rest ih =>
    have hall := (hattempt child start hstart).orElse fun after hafter => ih hafter
    rw [firstOf, List.findSome?_cons]
    cases hresult : result child with
    | none =>
      rw [hresult] at hall
      exact hall
    | some found =>
      rw [hresult] at hall
      exact hall

/-- A slot that holds one child at most. -/
theorem firstOf_toList_agrees {attempt : Node E H → Captures → Outcome E H} {captures : Captures}
    {result : Node E H → Option (Node E H × Captures)}
    (hattempt : ∀ child start, start.Agrees captures →
      (attempt child start).Agrees captures (result child))
    (slot : Option (Node E H)) {start : Captures} (hstart : start.Agrees captures) :
    (firstOf attempt slot.toList start).Agrees captures (slot.bind result) := by
  have hall := firstOf_agrees hattempt slot.toList hstart
  cases slot with
  | none => exact hall
  | some child =>
    rw [Option.toList_some, List.findSome?_singleton] at hall
    exact hall

/-- The captures are as before when the search below a capture leads nowhere. -/
theorem capturing_agrees {child : Node E H} {text : String} {below : Captures → Outcome E H}
    {start captures : Captures} (hstart : start.Agrees captures)
    {found : Option (Node E H × Captures)}
    (hbelow : ∀ after, after.Agrees (captures.capture text child.kind.paramName?) →
      (below after).Agrees (captures.capture text child.kind.paramName?) found) :
    (capturing child text below start).Agrees captures found := by
  unfold capturing
  have hcaptured := hstart.capture text child.kind.paramName?
  cases hname : child.kind.paramName? with
  | none =>
    rw [hname] at hbelow hcaptured
    exact hbelow start hcaptured
  | some name =>
    rw [hname] at hbelow hcaptured
    have hundone : ∀ after : Captures, after.Agrees (captures.insert name text) →
        Outcome.Agrees (E := E) (H := H) (none, after.restore name (start.get? name)) captures
          none := fun after hafter => ⟨rfl, Captures.agrees_restore hstart hafter⟩
    have hagrees := (hbelow _ hcaptured).orElse hundone
    rw [Option.or_none] at hagrees
    exact hagrees

/-- A child that takes the rest of the path leaves the captures as they were. -/
theorem absorbing_agrees {mode : WildcardMode} {child : Node E H} {below : Captures → Outcome E H}
    {start captures : Captures} {found : Option (Node E H × Captures)}
    (hbelow : (below start).Agrees captures found) :
    (absorbing mode child below start).Agrees captures
      (found.or (if child.mayAbsorb mode then some (child, captures) else none)) := by
  refine hbelow.orElse fun after hafter => ?_
  cases child.mayAbsorb mode with
  | true => exact ⟨rfl, hafter⟩
  | false => exact ⟨rfl, hafter⟩

/-! ## The search without undoing -/

variable [Constraint E]

/-- Finds the node that the segments lead to, and hands every branch the captures that were made on
the way to it. -/
def explore (mode : WildcardMode) :
    List String → Node E H → Captures → Option (Node E H × Captures)
  | [], node, captures => some (node, captures)
  | text :: rest, node, captures =>
    (((node.staticChild? text).bind fun child => explore mode rest child captures).or
      (((node.regexChildren.filter (·.kind.accepts text)).findSome? fun child =>
        explore mode rest child (captures.capture text child.kind.paramName?)).or
      (node.paramChild?.bind fun child =>
        explore mode rest child (captures.capture text child.kind.paramName?)))).or
      (node.wildcardChild?.bind fun child =>
        (explore mode rest child captures).or
          (if child.mayAbsorb mode then some (child, captures) else none))

/-- Whatever was captured before, a search that undoes its captures agrees with one that has nothing
to undo. -/
theorem search_agrees_explore (mode : WildcardMode) (segments : List String) (node : Node E H)
    {start captures : Captures} (hstart : start.Agrees captures) :
    (search mode segments node start).Agrees captures (explore mode segments node captures) := by
  induction segments generalizing node start captures with
  | nil => exact ⟨rfl, hstart⟩
  | cons text rest ih =>
    have hbelow : ∀ (child : Node E H) start, start.Agrees captures →
        (search mode rest child start).Agrees captures (explore mode rest child captures) :=
      fun child _ hstart => ih child hstart
    have hcapturing : ∀ (child : Node E H) start, start.Agrees captures →
        (capturing child text (search mode rest child) start).Agrees captures
          (explore mode rest child (captures.capture text child.kind.paramName?)) :=
      fun child _ hstart => capturing_agrees hstart fun _ hafter => ih child hafter
    have habsorbing : ∀ (child : Node E H) start, start.Agrees captures →
        (absorbing mode child (search mode rest child) start).Agrees captures
          ((explore mode rest child captures).or
            (if child.mayAbsorb mode then some (child, captures) else none)) :=
      fun child _ hstart => absorbing_agrees (ih child hstart)
    have hliteral := firstOf_toList_agrees hbelow (node.staticChild? text) hstart
    have hcaptures : ∀ start, start.Agrees captures →
        (firstOf (fun child => capturing child text (search mode rest child))
          (node.capturingChildren text) start).Agrees captures
            (((node.regexChildren.filter (·.kind.accepts text)).findSome? fun child =>
              explore mode rest child (captures.capture text child.kind.paramName?)).or
            (node.paramChild?.bind fun child =>
              explore mode rest child (captures.capture text child.kind.paramName?))) := by
      intro start hstart
      rw [capturingChildren, firstOf_append]
      exact (firstOf_agrees hcapturing _ hstart).orElse fun _ =>
        firstOf_toList_agrees hcapturing node.paramChild?
    rw [search, explore]
    exact (hliteral.orElse hcaptures).orElse fun _ =>
      firstOf_toList_agrees habsorbing node.wildcardChild?

/-- What is found stands at the end of a walk, which takes all segments or ends at a wildcard that
absorbs the others, and what is captured are the segments that the nodes on this walk take. -/
theorem explore_eq_some {mode : WildcardMode} {segments : List String} {node found : Node E H}
    (hslotted : node.Slotted) {captures after : Captures}
    (hfound : explore mode segments node captures = some (found, after)) :
    ∃ steps, node.walk? steps = some found ∧
      (steps.length = segments.length ∨
        (steps.length < segments.length ∧ steps.getLast? = some .wildcard ∧ mode = .absorb ∧
          found.handler.isSome = true)) ∧
      after = node.capturesOn steps segments captures := by
  induction segments generalizing node captures with
  | nil =>
    obtain ⟨rfl, rfl⟩ := Prod.mk.inj (Option.some.inj hfound)
    exact ⟨[], rfl, Or.inl rfl, (capturesOn_nil _ _ _).symm⟩
  | cons text rest ih =>
    have hdown : ∀ {step child}, node.child? step = some child →
        explore mode rest child (captures.capture text child.kind.paramName?) =
          some (found, after) →
        ∃ steps, node.walk? steps = some found ∧
          (steps.length = (text :: rest).length ∨
            (steps.length < (text :: rest).length ∧ steps.getLast? = some .wildcard ∧
              mode = .absorb ∧ found.handler.isSome = true)) ∧
          after = node.capturesOn steps (text :: rest) captures := by
      intro step child hchild hbelow
      obtain ⟨steps, hwalk, hends, hafter⟩ := ih (hslotted.child hchild) hbelow
      refine ⟨step :: steps, walk?_cons.mpr ⟨child, hchild, hwalk⟩, ?_, ?_⟩
      · rcases hends with hall | ⟨hshort, hlast, hends⟩
        · exact Or.inl (by simpa using hall)
        · exact Or.inr ⟨by simpa using hshort, by simp [List.getLast?_cons, hlast], hends⟩
      · rw [capturesOn_cons hchild, hafter]
    have hbare : ∀ {step child}, node.child? step = some child → step ≠ .param →
        (∀ index, step ≠ .regex index) →
        captures.capture text child.kind.paramName? = captures := by
      intro step child hchild hparam hregex
      rw [(hslotted.houses hchild).paramName?_eq_none hparam hregex]
      rfl
    rw [explore, Option.or_eq_some_iff, Option.or_eq_some_iff, Option.or_eq_some_iff] at hfound
    rcases hfound with (hliteral | ⟨-, hregex | ⟨-, hparam⟩⟩) | ⟨-, hwildcard⟩
    · obtain ⟨child, hslot, hbelow⟩ := Option.bind_eq_some_iff.mp hliteral
      have hchild : node.child? (.literal text) = some child := hslot
      exact hdown hchild (by rw [hbare hchild (by simp) (by simp)]; exact hbelow)
    · obtain ⟨child, hmem, hbelow⟩ := List.exists_of_findSome?_eq_some hregex
      obtain ⟨index, hslot⟩ := List.mem_iff_getElem?.mp (List.mem_filter.mp hmem).1
      have hchild : node.child? (.regex index) = some child := hslot
      exact hdown hchild hbelow
    · obtain ⟨child, hslot, hbelow⟩ := Option.bind_eq_some_iff.mp hparam
      have hchild : node.child? .param = some child := hslot
      exact hdown hchild hbelow
    · obtain ⟨child, hslot, hends⟩ := Option.bind_eq_some_iff.mp hwildcard
      have hchild : node.child? .wildcard = some child := hslot
      have hcaptures := hbare hchild (by simp) (by simp)
      rcases Option.or_eq_some_iff.mp hends with hbelow | ⟨-, habsorbed⟩
      · exact hdown hchild (by rw [hcaptures]; exact hbelow)
      · -- The wildcard itself takes what is left of the path.
        split at habsorbed
        · next hmay =>
          obtain ⟨rfl, rfl⟩ := Prod.mk.inj (Option.some.inj habsorbed)
          refine ⟨[.wildcard], walk?_cons.mpr ⟨child, hchild, rfl⟩, ?_, ?_⟩
          · cases rest with
            | nil => exact Or.inl rfl
            | cons next others => exact Or.inr ⟨by simp, rfl, mayAbsorb_iff.mp hmay⟩
          · rw [capturesOn_cons hchild, capturesOn_nil, hcaptures]
        · cases habsorbed

/-- A search leaves the captures as they were, unless it finds a node; then it adds what the nodes
on the walk to it capture, from the first to the last, and nothing else.  It finds the node, and
leaves the captures, of the search that hands every branch its own.  All this holds whatever was
captured before. -/
theorem search_undoes_captures (mode : WildcardMode) (segments : List String) {node : Node E H}
    (hslotted : node.Slotted) (captures : Captures) :
    ((search mode segments node captures).1 = none →
      (search mode segments node captures).2.Agrees captures) ∧
    (∀ found, (search mode segments node captures).1 = some found →
      ∃ steps, node.walk? steps = some found ∧
        (steps.length = segments.length ∨
          (steps.length < segments.length ∧ steps.getLast? = some .wildcard ∧ mode = .absorb ∧
            found.handler.isSome = true)) ∧
        (search mode segments node captures).2.Agrees
          (node.capturesOn steps segments captures)) ∧
    (search mode segments node captures).1 = (explore mode segments node captures).map (·.1) ∧
    ∀ found after, explore mode segments node captures = some (found, after) →
      (search mode segments node captures).2.Agrees after := by
  have hagrees := search_agrees_explore mode segments node (Captures.Agrees.refl captures)
  cases hexplore : explore mode segments node captures with
  | none =>
    rw [hexplore] at hagrees
    obtain ⟨hnone, hcaptures⟩ := hagrees
    refine ⟨fun _ => hcaptures, fun found hfound => ?_, hnone, fun found after hsome => ?_⟩
    · rw [hnone] at hfound
      cases hfound
    · cases hsome
  | some result =>
    obtain ⟨last, bound⟩ := result
    rw [hexplore] at hagrees
    obtain ⟨hsome, hcaptures⟩ := hagrees
    refine ⟨fun hnone => ?_, fun found hfound => ?_, hsome, fun found after hresult => ?_⟩
    · rw [hsome] at hnone
      cases hnone
    · obtain ⟨steps, hwalk, hends, hbound⟩ := explore_eq_some hslotted hexplore
      have hsame : last = found := Option.some.inj (hsome.symm.trans hfound)
      subst hsame
      exact ⟨steps, hwalk, hends, hbound ▸ hcaptures⟩
    · obtain ⟨-, rfl⟩ := Prod.mk.inj (Option.some.inj hresult)
      exact hcaptures

end Node

namespace Router

/-- Captures that bind both names that the tree of `rebinding` uses. -/
def boundBefore : Captures :=
  .insert (.insert .empty "x" "outer") "y" "before"

/-- A branch that fails rebinds `x`, and the bindings from before come back. -/
theorem search_undoes_captures_rebinding :
    ∃ tree, rebinding.tree? "GET" = some tree ∧ tree.Slotted ∧
      (tree.search .singleSegment ["a", "1", "z", "other", "more"] boundBefore).2.Agrees
        boundBefore ∧
      ∃ found,
        (tree.search .absorb ["a", "1", "z", "other", "more"] boundBefore).1 = some found ∧
        found.fullRoute = "/a/:x/:y/*" ∧
        ∃ steps, tree.walk? steps = some found ∧
          (tree.search .absorb ["a", "1", "z", "other", "more"] boundBefore).2.Agrees
            (tree.capturesOn steps ["a", "1", "z", "other", "more"] boundBefore) := by
  have hreachable : rebinding.Reachable := ⟨default, _, rfl⟩
  obtain ⟨log, htracks⟩ := hreachable.tracks
  obtain ⟨tree, htree, hnone, found, hfound, hroute⟩ : ∃ tree, rebinding.tree? "GET" = some tree ∧
      (tree.search .singleSegment ["a", "1", "z", "other", "more"] boundBefore).1 = none ∧
      ∃ found,
        (tree.search .absorb ["a", "1", "z", "other", "more"] boundBefore).1 = some found ∧
        found.fullRoute = "/a/:x/:y/*" := ⟨_, rfl, rfl, _, rfl, rfl⟩
  have hslotted : tree.Slotted := (htracks.wellFormed htree).slotted
  obtain ⟨hundone, -⟩ := Node.search_undoes_captures .singleSegment
    ["a", "1", "z", "other", "more"] hslotted boundBefore
  obtain ⟨-, hkept, -⟩ := Node.search_undoes_captures .absorb
    ["a", "1", "z", "other", "more"] hslotted boundBefore
  obtain ⟨steps, hwalk, -, hcaptures⟩ := hkept found hfound
  exact ⟨tree, htree, hslotted, hundone hnone, found, hfound, hroute, steps, hwalk, hcaptures⟩

end Router

end PathRouting
