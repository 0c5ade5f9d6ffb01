import PathRouting.Proofs.Insertion
set_option autoImplicit false

/-!
# The record that a tree keeps

A routing tree holds no more and no less than the routes registered in it.  A `RouteList` has them
in the order of their registration, `Node.Records` says that a tree is their record, and
`records_insert` that a registration that succeeds adds one entry at the end.
-/

namespace PathRouting

variable {E H : Type}

/-! ## Kinds of segments -/

namespace Segment

/-- Is this a bare parameter? -/
def isParam : Segment → Bool
  | param _ => true
  | literal _ => false
  | regex _ _ => false
  | wildcard => false

/-- Is this the wildcard? -/
def isWildcard : Segment → Bool
  | wildcard => true
  | literal _ => false
  | param _ => false
  | regex _ _ => false

/-- The text of the segment's expression. -/
def source? : Segment → Option String
  | regex _ source => some source
  | literal _ => none
  | param _ => none
  | wildcard => none

end Segment

/-! ## Lists of routes -/

/-- The routes of one tree in the order of their registration: the segments of each pattern and the
handler bound to it. -/
abbrev RouteList (H : Type) := List (List String × H)

namespace RouteList

/-- The first segments of the routes. -/
def heads (entries : RouteList H) : List String :=
  entries.filterMap (·.1.head?)

/-- The first segments that are expressions, each where it was registered first. -/
def regexHeads (entries : RouteList H) : List String :=
  (entries.heads.filter fun text => (Segment.ofText text).source?.isSome).eraseDups

/-- What the routes that start with a segment go on with. -/
def below (text : String) (entries : RouteList H) : RouteList H :=
  entries.filterMap fun entry =>
    match entry.1 with
    | [] => none
    | first :: rest => if first = text then some (rest, entry.2) else none

theorem mem_heads {entries : RouteList H} {text : String} :
    text ∈ entries.heads ↔ ∃ rest handler, (text :: rest, handler) ∈ entries := by
  unfold heads
  rw [List.mem_filterMap]
  constructor
  · rintro ⟨⟨segments, handler⟩, hmem, hhead⟩
    obtain ⟨rest, rfl⟩ := List.head?_eq_some_iff.mp hhead
    exact ⟨rest, handler, hmem⟩
  · rintro ⟨rest, handler, hmem⟩
    exact ⟨(text :: rest, handler), hmem, rfl⟩

theorem mem_below {entries : RouteList H} {text : String} {rest : List String} {handler : H} :
    (rest, handler) ∈ entries.below text ↔ (text :: rest, handler) ∈ entries := by
  unfold below
  rw [List.mem_filterMap]
  constructor
  · rintro ⟨⟨segments, bound⟩, hmem, hentry⟩
    cases segments with
    | nil => cases hentry
    | cons first others =>
      simp only at hentry
      split at hentry
      · next hfirst =>
        have hpair := Option.some.inj hentry
        rw [Prod.mk.injEq] at hpair
        rw [← hfirst, ← hpair.1, ← hpair.2]
        exact hmem
      · cases hentry
  · intro hmem
    exact ⟨(text :: rest, handler), hmem, by simp⟩

theorem heads_append_nil (entries : RouteList H) (handler : H) :
    RouteList.heads (entries ++ [([], handler)]) = entries.heads := by
  simp [heads, List.filterMap_append]

theorem heads_append_cons (entries : RouteList H) (text : String) (rest : List String)
    (handler : H) :
    RouteList.heads (entries ++ [(text :: rest, handler)]) = entries.heads ++ [text] := by
  simp [heads, List.filterMap_append]

theorem below_append_nil (entries : RouteList H) (text : String) (handler : H) :
    RouteList.below text (entries ++ [([], handler)]) = entries.below text := by
  simp [below, List.filterMap_append]

theorem below_append_self (entries : RouteList H) (text : String) (rest : List String)
    (handler : H) :
    RouteList.below text (entries ++ [(text :: rest, handler)]) =
      entries.below text ++ [(rest, handler)] := by
  simp [below, List.filterMap_append]

theorem below_append_of_ne (entries : RouteList H) {text first : String} (hne : first ≠ text)
    (rest : List String) (handler : H) :
    RouteList.below text (entries ++ [(first :: rest, handler)]) = entries.below text := by
  simp [below, List.filterMap_append, hne]

theorem below_eq_nil {entries : RouteList H} {text : String} (habsent : text ∉ entries.heads) :
    entries.below text = [] := by
  refine List.eq_nil_iff_forall_not_mem.mpr ?_
  rintro ⟨rest, handler⟩ hmem
  exact habsent (mem_heads.mpr ⟨rest, handler, mem_below.mp hmem⟩)

theorem regexHeads_append_nil (entries : RouteList H) (handler : H) :
    RouteList.regexHeads (entries ++ [([], handler)]) = entries.regexHeads := by
  unfold regexHeads
  rw [heads_append_nil]

theorem eraseDups_append_singleton (texts : List String) (text : String) :
    (texts ++ [text]).eraseDups =
      if text ∈ texts then texts.eraseDups else texts.eraseDups ++ [text] := by
  rw [List.eraseDups_append]
  by_cases hmem : text ∈ texts
  · simp [List.removeAll, hmem]
  · simp [List.removeAll, List.eraseDups_cons, hmem]

/-- Only the first route through an expression gives it a place among the expressions. -/
theorem regexHeads_append_cons (entries : RouteList H) (text : String) (rest : List String)
    (handler : H) :
    RouteList.regexHeads (entries ++ [(text :: rest, handler)]) =
      if (Segment.ofText text).source?.isSome = true ∧ text ∉ entries.heads then
        entries.regexHeads ++ [text]
      else entries.regexHeads := by
  unfold regexHeads
  rw [heads_append_cons, List.filter_append]
  cases hregex : (Segment.ofText text).source?.isSome with
  | false => simp [hregex]
  | true =>
    have hkept : [text].filter (fun other => (Segment.ofText other).source?.isSome) = [text] := by
      simp [hregex]
    rw [hkept, eraseDups_append_singleton]
    by_cases hmem : text ∈ entries.heads
    · simp [hmem, hregex]
    · simp [hmem]

end RouteList

namespace Node

/-! ## Records -/

/-- A tree is the record of entries: it holds the handler of the entry that ends here, one child for
every segment that an entry goes on with, the expressions among them in the order of their
registration, and below each child the record of what goes on there. -/
inductive Records : Node E H → RouteList H → Prop where
  | intro {node : Node E H} {entries : RouteList H}
      (handler : node.handler = entries.lookup [])
      (present : ∀ text, node.HasChild text ↔ text ∈ entries.heads)
      (order : node.regexChildren.map (·.segment) = entries.regexHeads)
      (down : ∀ {step : Descent} {child : Node E H},
        node.child? step = some child → Records child (entries.below child.segment)) :
      Records node entries

namespace Records

variable {node : Node E H} {entries : RouteList H}

theorem handler_eq (hrecords : Records node entries) : node.handler = entries.lookup [] := by
  cases hrecords with
  | intro handler _ _ _ => exact handler

theorem mem_of_handler (hrecords : Records node entries) {handler : H}
    (hbound : node.handler = some handler) : ([], handler) ∈ entries := by
  rw [hrecords.handler_eq] at hbound
  obtain ⟨before, after, hsplit, -⟩ := List.lookup_eq_some_iff.mp hbound
  simp [hsplit]

theorem handler_isSome_iff (hrecords : Records node entries) :
    node.handler.isSome = true ↔ ∃ handler, ([], handler) ∈ entries := by
  constructor
  · intro hsome
    obtain ⟨handler, hbound⟩ := Option.isSome_iff_exists.mp hsome
    exact ⟨handler, hrecords.mem_of_handler hbound⟩
  · rintro ⟨handler, hmem⟩
    rw [hrecords.handler_eq, Option.isSome_iff_ne_none]
    intro hnone
    have hdiffers := List.lookup_eq_none_iff.mp hnone _ hmem
    simp at hdiffers

theorem hasChild_iff (hrecords : Records node entries) (text : String) :
    node.HasChild text ↔ text ∈ entries.heads := by
  cases hrecords with
  | intro _ present _ _ => exact present text

theorem order_eq (hrecords : Records node entries) :
    node.regexChildren.map (·.segment) = entries.regexHeads := by
  cases hrecords with
  | intro _ _ order _ => exact order

theorem child (hrecords : Records node entries) {step : Descent} {child : Node E H}
    (hchild : node.child? step = some child) : Records child (entries.below child.segment) := by
  cases hrecords with
  | intro _ _ _ down => exact down hchild

end Records

theorem not_hasChild_bare (kind : NodeKind E) (segment fullRoute text : String) :
    ¬ (bare kind segment fullRoute : Node E H).HasChild text := by
  rintro ⟨step, child, hchild, -⟩
  rw [child?_bare] at hchild
  cases hchild

/-- A node without handler and children is the record of no entries. -/
theorem records_bare (kind : NodeKind E) (segment fullRoute : String) :
    Records (bare kind segment fullRoute : Node E H) [] := by
  refine .intro rfl ?_ rfl ?_
  · intro text
    exact ⟨fun hchild => absurd hchild (not_hasChild_bare _ _ _ _), fun hmem => by
      simp [RouteList.heads] at hmem⟩
  · intro step child hchild
    rw [child?_bare] at hchild
    cases hchild

/-! ## The order of expressions -/

/-- Filling a place anew with a child of the same text keeps the texts of expressions in order. -/
theorem regexTexts_attach_of_present {node child old : Node E H} (hroom : node.HasRoom child)
    (hold : node.child? (node.place child) = some old) (htext : child.segment = old.segment) :
    (node.attach child).regexChildren.map (·.segment) = node.regexChildren.map (·.segment) := by
  refine List.ext_getElem? fun index => ?_
  rw [List.getElem?_map, List.getElem?_map]
  show ((node.attach child).child? (.regex index)).map (·.segment) =
    (node.child? (.regex index)).map (·.segment)
  rw [child?_attach hroom]
  split
  · next hplace =>
    rw [hplace, hold, Option.map_some, Option.map_some, htext]
  · rfl

theorem placeRegex_of_absent {source : String} {child : Node E H} {regexes : List (Node E H)}
    (hnew : regexes.find? (hasSource source) = none) :
    placeRegex source child regexes = regexes ++ [child] := by
  induction regexes with
  | nil => rfl
  | cons other rest ih =>
    rw [List.find?_cons] at hnew
    rw [placeRegex]
    cases hother : other.hasSource source with
    | true => simp [hother] at hnew
    | false =>
      rw [hother] at hnew
      rw [if_neg (by simp), ih hnew, List.cons_append]

/-- A new expression comes last, and other new children do not count. -/
theorem regexTexts_attach_of_absent {node child : Node E H} (hroom : node.HasRoom child)
    (hfree : node.child? (node.place child) = none) :
    (node.attach child).regexChildren.map (·.segment) =
      if child.kind.source?.isSome = true then
        node.regexChildren.map (·.segment) ++ [child.segment]
      else node.regexChildren.map (·.segment) := by
  cases hkind : child.kind with
  | root => simp [attach, hkind, NodeKind.source?, regexChildren]
  | literal => simp [attach, hkind, NodeKind.source?, regexChildren]
  | param name => simp [attach, hkind, NodeKind.source?, regexChildren]
  | wildcard =>
    simp only [HasRoom, hkind] at hroom
    simp only [attach, hkind, NodeKind.source?, hroom.2]
    rfl
  | regex name source expression =>
    have hnew : node.regexChildren.find? (hasSource source) = none := by
      simp only [place, hkind, child?] at hfree
      rw [List.find?_eq_getElem?_findIdx]
      exact hfree
    rw [if_pos (by rfl)]
    simp only [attach, hkind, regexChildren] at hnew ⊢
    rw [placeRegex_of_absent hnew, List.map_append]
    rfl

/-! ## Insertion adds an entry -/

/-- Binding a handler keeps the entry that ends here. -/
theorem Records.bind {node : Node E H} {entries : RouteList H} (hrecords : Records node entries)
    (hfree : node.handler = none) (handler : H) :
    Records { node with handler := some handler } (entries ++ [([], handler)]) := by
  refine .intro ?_ ?_ ?_ ?_
  · rw [List.lookup_append, ← hrecords.handler_eq, hfree]
    simp
  · intro text
    rw [RouteList.heads_append_nil, ← hrecords.hasChild_iff]
    unfold HasChild
    simp only [child?_bind]
  · rw [RouteList.regexHeads_append_nil, ← hrecords.order_eq]
    rfl
  · intro step child hchild
    rw [child?_bind] at hchild
    rw [RouteList.below_append_nil]
    exact hrecords.child hchild

/-- Attaching the record of a longer list of entries under their common first segment. -/
theorem Records.attach {node child : Node E H} {entries : RouteList H} {text : String}
    {rest : List String} {handler : H} (hrecords : Records node entries)
    (hroom : node.HasRoom child) (htext : child.segment = text)
    (hothers : ∀ {step : Descent} {other : Node E H}, node.child? step = some other →
      step ≠ node.place child → other.segment ≠ text)
    (hhere : ∀ {other : Node E H}, node.child? (node.place child) = some other →
      other.segment = text)
    (horder : (node.attach child).regexChildren.map (·.segment) =
      RouteList.regexHeads (entries ++ [(text :: rest, handler)]))
    (hchild : Records child (entries.below text ++ [(rest, handler)])) :
    Records (node.attach child) (entries ++ [(text :: rest, handler)]) := by
  refine .intro ?_ ?_ horder ?_
  · rw [attach_handler, hrecords.handler_eq, List.lookup_append]
    cases entries.lookup [] with
    | none => rfl
    | some bound => rfl
  · intro sought
    rw [RouteList.heads_append_cons, List.mem_append, List.mem_singleton, ← hrecords.hasChild_iff]
    constructor
    · rintro ⟨step, other, hother, hsought⟩
      rw [child?_attach hroom] at hother
      split at hother
      · have hsame : child = other := Option.some.inj hother
        exact Or.inr (by rw [← hsought, ← hsame, htext])
      · exact Or.inl ⟨step, other, hother, hsought⟩
    · rintro (⟨step, other, hother, hsought⟩ | hsought)
      · by_cases hstep : step = node.place child
        · subst hstep
          refine ⟨_, child, child?_attach_place hroom, ?_⟩
          rw [htext, ← hsought, hhere hother]
        · exact ⟨step, other, by rw [child?_attach_of_ne hroom hstep, hother], hsought⟩
      · exact ⟨_, child, child?_attach_place hroom, by rw [htext, hsought]⟩
  · intro step other hother
    rw [child?_attach hroom] at hother
    split at hother
    · have hsame : child = other := Option.some.inj hother
      rw [← hsame, htext, RouteList.below_append_self]
      exact hchild
    · next hstep =>
      rw [RouteList.below_append_of_ne _ (Ne.symm (hothers hother hstep))]
      exact hrecords.child hother

variable [Constraint E]

/-- A kind holds an expression when its text does. -/
theorem source?_of_called {kind : NodeKind E} {segment : Segment}
    (hcalled : NodeKind.ofSegment segment = .ok kind) : kind.source? = segment.source? := by
  rcases called_cases hcalled with
    ⟨text, rfl, rfl⟩ | ⟨name, rfl, rfl⟩ | ⟨name, source, expression, rfl, -, rfl⟩ | ⟨rfl, rfl⟩
  all_goals rfl

theorem isWildcard_iff_of_called {kind : NodeKind E} {segment : Segment}
    (hcalled : NodeKind.ofSegment segment = .ok kind) :
    segment.isWildcard = true ↔ kind = .wildcard := by
  rcases called_cases hcalled with
    ⟨text, rfl, rfl⟩ | ⟨name, rfl, rfl⟩ | ⟨name, source, expression, rfl, -, rfl⟩ | ⟨rfl, rfl⟩
  all_goals simp [Segment.isWildcard]

theorem isParam_iff_of_called {kind : NodeKind E} {segment : Segment}
    (hcalled : NodeKind.ofSegment segment = .ok kind) :
    segment.isParam = true ↔ ∃ name, kind = .param name := by
  rcases called_cases hcalled with
    ⟨text, rfl, rfl⟩ | ⟨name, rfl, rfl⟩ | ⟨name, source, expression, rfl, -, rfl⟩ | ⟨rfl, rfl⟩
  all_goals simp [Segment.isParam]

/-- A new child keeps the first entry under its segment. -/
theorem Records.attach_of_absent {node fresh grown : Node E H} {entries : RouteList H}
    (harranged : node.Arranged) (hrecords : Records node entries)
    (hcalled : NodeKind.ofSegment (Segment.ofText fresh.segment) = .ok fresh.kind)
    (habsent : ¬ node.HasChild fresh.segment) (hfree : node.rival? fresh.segment = none)
    (hkind : grown.kind = fresh.kind) (htext : grown.segment = fresh.segment)
    {rest : List String} {handler : H} (hgrown : Records grown [(rest, handler)]) :
    Records (node.attach grown) (entries ++ [(fresh.segment :: rest, handler)]) := by
  rw [← htext] at hcalled habsent hfree ⊢
  rw [← hkind] at hcalled
  have hroom := hasRoom_of_rival?_eq_none grown hcalled hfree
  have hplaced := child?_place_of_absent grown harranged hcalled habsent hfree
  have hunknown : grown.segment ∉ entries.heads := fun hmem =>
    habsent ((hrecords.hasChild_iff grown.segment).mpr hmem)
  refine hrecords.attach hroom rfl ?_ ?_ ?_ ?_
  · intro other sibling hsibling _ hsame
    exact habsent ⟨other, sibling, hsibling, hsame⟩
  · intro sibling hsibling
    rw [hplaced] at hsibling
    cases hsibling
  · rw [regexTexts_attach_of_absent hroom hplaced, hrecords.order_eq,
      RouteList.regexHeads_append_cons, source?_of_called hcalled]
    simp only [hunknown, not_false_eq_true, and_true]
  · rw [RouteList.below_eq_nil hunknown]
    exact hgrown

/-- A child that has grown by an entry takes its own place again. -/
theorem Records.attach_of_present {node child grown : Node E H} {entries : RouteList H}
    (harranged : node.Arranged) (hrecords : Records node entries) {step : Descent}
    (hchild : node.child? step = some child) (hkind : grown.kind = child.kind)
    (htext : grown.segment = child.segment) {rest : List String} {handler : H}
    (hgrown : Records grown (entries.below child.segment ++ [(rest, handler)])) :
    Records (node.attach grown) (entries ++ [(child.segment :: rest, handler)]) := by
  have hroom := hasRoom_of_child? harranged hchild hkind
  have hplace : node.place grown = step := place_eq_of_child? harranged hchild hkind htext
  refine hrecords.attach hroom htext ?_ ?_ ?_ hgrown
  · intro other sibling hsibling hne hsame
    rw [hplace] at hne
    exact hne (child?_unique harranged hsibling hchild hsame)
  · intro sibling hsibling
    rw [hplace, hchild] at hsibling
    rw [Option.some.inj hsibling]
  · have hknown : child.segment ∈ entries.heads :=
      (hrecords.hasChild_iff child.segment).mp ⟨step, child, hchild, rfl⟩
    rw [regexTexts_attach_of_present hroom (hplace ▸ hchild) htext, hrecords.order_eq,
      RouteList.regexHeads_append_cons, if_neg fun hnew => hnew.2 hknown]

/-- A registration that succeeds adds its entry to the record. -/
theorem records_insert {node : Node E H} {entries : RouteList H} (hwell : node.WellFormed)
    (hrecords : Records node entries) {above : String} {segments : List String}
    {nodes : List (Node E H)} (hchain : chain above segments = .ok nodes) {handler : H}
    (hok : (insert handler nodes node).2 = .ok ()) :
    Records (insert handler nodes node).1 (entries ++ [(segments, handler)]) := by
  induction segments generalizing above node nodes entries with
  | nil =>
    have hnil : nodes = [] := (Except.ok.inj hchain).symm
    subst hnil
    rw [insert] at hok ⊢
    split
    · next hbound =>
      rw [hbound] at hok
      cases hok
    · next hfree => exact hrecords.bind hfree handler
  | cons segment rest ih =>
    obtain ⟨kind, tail, hcalled, htail, rfl⟩ := chain_cons.mp hchain
    rcases insert_cases (bare kind segment (above ++ "/" ++ segment)) hwell.arranged hcalled
        handler tail with
      ⟨step, child, hchild, rfl, hinsert⟩ | ⟨-, existing, -, hinsert⟩ |
        ⟨habsent, hfree, hinsert⟩
    · rw [hinsert] at hok ⊢
      exact hrecords.attach_of_present hwell.arranged hchild (insert_kind ..) (insert_segment ..)
        (ih (hwell.child hchild) (hrecords.child hchild) htail hok)
    · rw [hinsert] at hok
      cases hok
    · rw [hinsert] at hok ⊢
      exact hrecords.attach_of_absent hwell.arranged hcalled habsent hfree (insert_kind ..)
        (insert_segment ..) (ih (wellFormed_bare _ _ _) (records_bare _ _ _) htail hok)

end Node

end PathRouting
