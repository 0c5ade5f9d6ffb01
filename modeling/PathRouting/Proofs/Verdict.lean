import PathRouting.Proofs.History
set_option autoImplicit false

/-!
# The outcome of a registration

What a registration gives is settled by the calls that succeeded before it.  `verdict` tells it from
their patterns alone, and `register_outcome_eq_verdict` says that every registration on a router
that a run has led to gives what `verdict` tells.
-/

namespace PathRouting

variable {E H : Type}

/-! ## What the earlier routes allow -/

/-- A text that is a segment whose expression does not compile, with the reason. -/
def Segment.broken? (E : Type) [Constraint E] (text : String) : Option Node.BrokenSegment :=
  match Segment.ofText text with
  | .regex _ source =>
    match (Constraint.compile source : Except String E) with
    | .error reason => some { segment := text, reason := reason }
    | .ok _ => none
  | .literal _ => none
  | .param _ => none
  | .wildcard => none

/-- The sibling that a segment with a text of its own cannot stand beside, if there is one.  A
capture does not stand beside a wildcard, a parameter not beside another one, and an expression not
beside one with the same source.  A wildcard is refused for the parameter, and else for the first
expression. -/
def rivalAmong? (incoming : String) (siblings : List String) : Option String :=
  let wildcard := siblings.find? fun text => (Segment.ofText text).isWildcard
  let param := siblings.find? fun text => (Segment.ofText text).isParam
  match Segment.ofText incoming with
  | .literal _ => none
  | .param _ => wildcard.or param
  | .regex _ source =>
    wildcard.or (siblings.find? fun text => (Segment.ofText text).source? = some source)
  | .wildcard => param.or (siblings.find? fun text => (Segment.ofText text).source?.isSome)

namespace RouteList

/-- The segments that the routes with the given first segments go on with. -/
def continuations (lead : List String) (entries : RouteList H) : List String :=
  entries.filterMap fun entry =>
    if entry.1.take lead.length = lead then entry.1[lead.length]? else none

/-- The first segment that no route goes on with after the segments before it, and its place. -/
def parting? (entries : RouteList H) (segments : List String) : Option (String × Nat) :=
  segments.zipIdx.find? fun part => part.1 ∉ entries.continuations (segments.take part.2)

/-- The segment at which a new route parts from the earlier ones, and the sibling that it cannot
stand beside there, the sibling first. -/
def conflict? (entries : RouteList H) (segments : List String) : Option (String × String) :=
  (entries.parting? segments).bind fun part =>
    (rivalAmong? part.1 (entries.continuations (segments.take part.2))).map (·, part.1)

end RouteList

/-- What a registration gives after the calls of a log have succeeded. -/
def verdict (E : Type) [Constraint E] (log : List (Call H)) (method pattern : String) :
    Except RouteError Unit :=
  match Path.patternSegments pattern with
  | .error fault => .error (.invalidPattern pattern fault)
  | .ok segments =>
    match segments.findSome? (Segment.broken? E) with
    | some bad => .error (.invalidRegex pattern bad.segment bad.reason)
    | none =>
      match (entriesFor method log).conflict? segments with
      | some (existing, incoming) => .error (.conflict pattern existing incoming)
      | none =>
        if log.any fun call => call.method = method ∧ call.pattern = pattern then
          .error (.duplicate method pattern)
        else .ok ()

namespace RouteList

/-! ## One segment after the other -/

theorem continuations_nil (entries : RouteList H) : entries.continuations [] = entries.heads := by
  unfold continuations heads
  congr 1
  funext entry
  simp [List.head?_eq_getElem?]

theorem continuations_cons (text : String) (lead : List String) (entries : RouteList H) :
    entries.continuations (text :: lead) = (entries.below text).continuations lead := by
  unfold continuations below
  rw [List.filterMap_filterMap]
  congr 1
  funext entry
  obtain ⟨segments, handler⟩ := entry
  cases segments with
  | nil => simp
  | cons first rest =>
    by_cases hfirst : first = text
    · simp [hfirst]
    · simp [hfirst]

theorem parting?_cons (entries : RouteList H) (text : String) (rest : List String) :
    entries.parting? (text :: rest) =
      if text ∈ entries.heads then
        ((entries.below text).parting? rest).map fun part => (part.1, part.2 + 1)
      else some (text, 0) := by
  unfold parting?
  rw [List.zipIdx_cons, List.find?_cons]
  by_cases hhead : text ∈ entries.heads
  · have hshift : rest.zipIdx 1 = rest.zipIdx.map fun part => (part.1, part.2 + 1) := by
      rw [List.zipIdx_succ]
    simp only [List.take_zero, continuations_nil, hhead, not_true_eq_false, decide_false, if_true,
      Nat.zero_add, hshift, List.find?_map]
    congr 2
    funext part
    simp [continuations_cons]
  · simp [continuations_nil, hhead]

theorem conflict?_cons (entries : RouteList H) (text : String) (rest : List String) :
    entries.conflict? (text :: rest) =
      if text ∈ entries.heads then (entries.below text).conflict? rest
      else (rivalAmong? text entries.heads).map (·, text) := by
  unfold conflict?
  rw [parting?_cons]
  by_cases hhead : text ∈ entries.heads
  · rw [if_pos hhead, if_pos hhead, Option.bind_map]
    congr 1
    funext part
    simp [continuations_cons]
  · rw [if_neg hhead, if_neg hhead]
    simp [continuations_nil]

end RouteList

namespace Node

/-! ## Rivals in a tree and in its record -/

variable {node : Node E H} {entries : RouteList H}

/-- A place that holds the only child with some property holds the first segment with it. -/
theorem Records.segment_eq_find? (hrecords : Records node entries) {found : Option (Node E H)}
    {property : String → Bool}
    (hfound : ∀ {child}, found = some child →
      node.HasChild child.segment ∧ property child.segment = true)
    (honly : ∀ {step child}, node.child? step = some child → property child.segment = true →
      found = some child) :
    found.map (·.segment) = entries.heads.find? property := by
  cases hfind : entries.heads.find? property with
  | none =>
    cases hhere : found with
    | none => rfl
    | some child =>
      obtain ⟨hchild, hholds⟩ := hfound hhere
      have hhead := (hrecords.hasChild_iff child.segment).mp hchild
      exact absurd hholds (List.find?_eq_none.mp hfind child.segment hhead)
  | some text =>
    have hholds : property text = true := List.find?_some hfind
    obtain ⟨step, child, hchild, htext⟩ :=
      (hrecords.hasChild_iff text).mpr (List.mem_of_find?_eq_some hfind)
    rw [honly hchild (htext ▸ hholds), Option.map_some, htext]

/-- The first expression below a node is the one that was registered first. -/
theorem Records.firstRegex_eq_find? (hrecords : Records node entries) :
    node.regexChildren.head?.map (·.segment) =
      entries.heads.find? fun text => (Segment.ofText text).source?.isSome := by
  rw [← List.head?_map, hrecords.order_eq, RouteList.regexHeads, ← List.head?_filter]
  cases entries.heads.filter fun text => (Segment.ofText text).source?.isSome with
  | nil => rfl
  | cons text rest => rw [List.eraseDups_cons, List.head?_cons, List.head?_cons]

variable [Constraint E]

theorem Records.wildcard_eq_find? (hrecords : Records node entries) (harranged : node.Arranged) :
    node.wildcardChild?.map (·.segment) =
      entries.heads.find? fun text => (Segment.ofText text).isWildcard := by
  refine hrecords.segment_eq_find? ?_ ?_
  · intro child hchild
    have hplaced : node.child? .wildcard = some child := hchild
    have hfits := harranged.fits hplaced
    exact ⟨⟨_, child, hplaced, rfl⟩, (isWildcard_iff_of_called hfits.called).mpr hfits.admitted⟩
  · intro step child hchild hwildcard
    have hkind := (isWildcard_iff_of_called (harranged.fits hchild).called).mp hwildcard
    have hplace := place_eq_of_child? harranged hchild rfl rfl
    simp only [place, hkind] at hplace
    rw [← hplace] at hchild
    exact hchild

theorem Records.param_eq_find? (hrecords : Records node entries) (harranged : node.Arranged) :
    node.paramChild?.map (·.segment) =
      entries.heads.find? fun text => (Segment.ofText text).isParam := by
  refine hrecords.segment_eq_find? ?_ ?_
  · intro child hchild
    have hplaced : node.child? .param = some child := hchild
    have hfits := harranged.fits hplaced
    exact ⟨⟨_, child, hplaced, rfl⟩, (isParam_iff_of_called hfits.called).mpr hfits.admitted⟩
  · intro step child hchild hparam
    obtain ⟨name, hkind⟩ := (isParam_iff_of_called (harranged.fits hchild).called).mp hparam
    have hplace := place_eq_of_child? harranged hchild rfl rfl
    simp only [place, hkind] at hplace
    rw [← hplace] at hchild
    exact hchild

theorem Records.source_eq_find? (hrecords : Records node entries) (harranged : node.Arranged)
    (source : String) :
    (node.regexChildren.find? (hasSource source)).map (·.segment) =
      entries.heads.find? fun text => (Segment.ofText text).source? = some source := by
  refine hrecords.segment_eq_find? ?_ ?_
  · intro child hchild
    obtain ⟨index, hindex⟩ := List.mem_iff_getElem?.mp (List.mem_of_find?_eq_some hchild)
    have hplaced : node.child? (.regex index) = some child := hindex
    have hsource := hasSource_iff.mp (List.find?_some hchild)
    rw [source?_of_called (harranged.fits hplaced).called] at hsource
    exact ⟨⟨_, child, hplaced, rfl⟩, decide_eq_true hsource⟩
  · intro step child hchild hsource
    have hkindSource : child.kind.source? = some source := by
      rw [source?_of_called (harranged.fits hchild).called]
      exact of_decide_eq_true hsource
    have hplace := place_eq_of_child? harranged hchild rfl rfl
    cases hkind : child.kind with
    | root => simp [hkind, NodeKind.source?] at hkindSource
    | literal => simp [hkind, NodeKind.source?] at hkindSource
    | param name => simp [hkind, NodeKind.source?] at hkindSource
    | wildcard => simp [hkind, NodeKind.source?] at hkindSource
    | regex name text expression =>
      have htext : text = source := by simpa [hkind, NodeKind.source?] using hkindSource
      simp only [place, hkind, htext] at hplace
      rw [← hplace] at hchild
      rw [List.find?_eq_getElem?_findIdx]
      exact hchild

/-- The rival of a segment can be told from the record. -/
theorem rival?_eq_rivalAmong? (hrecords : Records node entries) (harranged : node.Arranged)
    (incoming : String) : node.rival? incoming = rivalAmong? incoming entries.heads := by
  unfold rival? rivalAmong?
  cases Segment.ofText incoming with
  | literal text => rfl
  | param name =>
    simp only [Option.map_or, hrecords.wildcard_eq_find? harranged,
      hrecords.param_eq_find? harranged]
  | regex name source =>
    simp only [Option.map_or, hrecords.wildcard_eq_find? harranged,
      hrecords.source_eq_find? harranged]
  | wildcard =>
    simp only [Option.map_or, hrecords.param_eq_find? harranged, hrecords.firstRegex_eq_find?]

/-! ## Expressions that do not compile -/

/-- A segment is broken when it calls for no kind of node. -/
theorem broken?_eq (text : String) :
    Segment.broken? E text =
      match NodeKind.ofSegment (E := E) (Segment.ofText text) with
      | .ok _ => none
      | .error reason => some { segment := text, reason := reason } := by
  unfold NodeKind.ofSegment Segment.broken?
  cases Segment.ofText text with
  | literal text => rfl
  | param name => rfl
  | regex name source =>
    simp only
    cases (Constraint.compile source : Except String E) with
    | error reason => rfl
    | ok expression => rfl
  | wildcard => rfl

/-- The nodes of a pattern can be made when no segment of it is broken, and else the leftmost broken
segment is named. -/
theorem findSome?_broken?_eq (above : String) (segments : List String) :
    segments.findSome? (Segment.broken? E) =
      match chain (E := E) (H := H) above segments with
      | .ok _ => none
      | .error bad => some bad := by
  induction segments generalizing above with
  | nil => rfl
  | cons segment rest ih =>
    rw [chain, List.findSome?_cons, broken?_eq]
    cases NodeKind.ofSegment (E := E) (Segment.ofText segment) with
    | error reason => rfl
    | ok kind =>
      simp only [ih (above ++ "/" ++ segment)]
      cases chain (E := E) (H := H) (above ++ "/" ++ segment) rest with
      | ok nodes => rfl
      | error bad => rfl

/-! ## The outcome in one tree -/

/-- Whether an insertion succeeds, and what is in its way, can be told from the record. -/
theorem insert_outcome_eq (hwell : node.WellFormed) (hrecords : Records node entries)
    {above : String} {segments : List String} {nodes : List (Node E H)}
    (hchain : chain above segments = .ok nodes) (handler : H) :
    (insert handler nodes node).2 =
      match entries.conflict? segments with
      | some (existing, incoming) => .error (.sibling existing incoming)
      | none => if segments ∈ entries.map (·.1) then .error .occupied else .ok () := by
  induction segments generalizing above node nodes entries with
  | nil =>
    have hnil : nodes = [] := (Except.ok.inj hchain).symm
    subst hnil
    have hnone : entries.conflict? [] = none := rfl
    have hbound : [] ∈ entries.map (·.1) ↔ node.handler.isSome = true := by
      rw [hrecords.handler_isSome_iff]
      simp
    rw [insert, hnone]
    cases hhandler : node.handler with
    | none => simp [hbound, hhandler]
    | some bound => simp [hbound, hhandler]
  | cons segment rest ih =>
    obtain ⟨kind, tail, hcalled, htail, rfl⟩ := chain_cons.mp hchain
    have harranged := hwell.arranged
    rw [RouteList.conflict?_cons]
    rcases insert_cases (bare kind segment (above ++ "/" ++ segment)) harranged hcalled
        handler tail with
      ⟨step, child, hchild, htext, hinsert⟩ | ⟨habsent, existing, hrival, hinsert⟩ |
        ⟨habsent, hfree, hinsert⟩
    · -- Below a child that is there, the entries that go on there decide.
      have htextHere : child.segment = segment := htext
      have hhead : segment ∈ entries.heads :=
        (hrecords.hasChild_iff segment).mp ⟨step, child, hchild, htextHere⟩
      have hlonger : segment :: rest ∈ entries.map (·.1) ↔
          rest ∈ (entries.below segment).map (·.1) := by
        simp [List.mem_map, Prod.exists, RouteList.mem_below]
      rw [hinsert, if_pos hhead]
      simp only [hlonger]
      exact ih (hwell.child hchild) (htextHere ▸ hrecords.child hchild) htail
    · have hhead : segment ∉ entries.heads := fun hmem =>
        habsent ((hrecords.hasChild_iff segment).mpr hmem)
      have hrivalHere : rivalAmong? segment entries.heads = some existing := by
        rw [← rival?_eq_rivalAmong? hrecords harranged]
        exact hrival
      rw [hinsert, if_neg hhead, hrivalHere]
      rfl
    · have hhead : segment ∉ entries.heads := fun hmem =>
        habsent ((hrecords.hasChild_iff segment).mpr hmem)
      have hrivalHere : rivalAmong? segment entries.heads = none := by
        rw [← rival?_eq_rivalAmong? hrecords harranged]
        exact hfree
      have hnew : segment :: rest ∉ entries.map (·.1) := fun hmem => by
        obtain ⟨⟨segments, bound⟩, hentry, hsegments⟩ := List.mem_map.mp hmem
        exact hhead (RouteList.mem_heads.mpr ⟨rest, bound, hsegments ▸ hentry⟩)
      rw [hinsert, if_neg hhead, hrivalHere, Option.map_none, if_neg hnew]
      exact insert_bare_ok htail _ _ _

end Node

namespace Router

variable [Constraint E]

/-! ## The outcome after a run -/

/-- A pattern is registered when its segments are among the entries. -/
theorem mem_entriesFor_iff_registered {method pattern : String} {segments : List String}
    (hparsed : Path.patternSegments pattern = .ok segments) (log : List (Call H)) :
    segments ∈ (entriesFor method log).map (·.1) ↔
      ∃ call ∈ log, call.method = method ∧ call.pattern = pattern := by
  rw [List.mem_map]
  constructor
  · rintro ⟨⟨found, handler⟩, hmem, rfl⟩
    obtain ⟨call, hcall, hmethod, hfound, -⟩ := mem_entriesFor.mp hmem
    exact ⟨call, hcall, hmethod, Path.pattern_eq_of_patternSegments hfound hparsed⟩
  · rintro ⟨call, hcall, hmethod, hpattern⟩
    exact ⟨(segments, call.handler),
      mem_entriesFor.mpr ⟨call, hcall, hmethod, hpattern ▸ hparsed, rfl⟩, rfl⟩

theorem Tracks.outcome_eq_verdict {router : Router E H} {log : List (Call H)}
    (htracks : router.Tracks log) (method pattern : String) (handler : H) :
    (router.register method pattern handler).outcome = verdict E log method pattern := by
  unfold verdict
  rcases router.register_cases method pattern handler with
    ⟨fault, hparsed, houtcome, -⟩ | ⟨segments, bad, hparsed, hchain, houtcome, -⟩ |
      ⟨segments, nodes, hparsed, hchain, houtcome, -⟩
  · rw [hparsed, houtcome]
  · have hbroken : segments.findSome? (Segment.broken? E) = some bad := by
      rw [Node.findSome?_broken?_eq (H := H) "", hchain]
    rw [hparsed, houtcome]
    simp only [hbroken]
  · have hsound : segments.findSome? (Segment.broken? E) = none := by
      rw [Node.findSome?_broken?_eq (H := H) "", hchain]
    obtain ⟨-, hwell, hrecords⟩ := htracks.treeOrRoot method
    rw [hparsed, houtcome, Node.insert_outcome_eq hwell hrecords hchain]
    simp only [hsound]
    cases (entriesFor method log).conflict? segments with
    | some parties => rfl
    | none =>
      simp only [mem_entriesFor_iff_registered hparsed, List.any_eq_true, decide_eq_true_eq]
      split
      · rfl
      · rfl

/-- After a run of registrations, the outcome of the next one is the verdict on the calls that
succeeded. -/
theorem register_outcome_eq_verdict (config : Config) (calls : List (Call H))
    (method pattern : String) (handler : H) :
    (((empty config : Router E H).run calls).register method pattern handler).outcome =
      verdict E ((empty config : Router E H).accepted calls) method pattern :=
  (tracks_of_run_empty config calls).outcome_eq_verdict method pattern handler

/-- A wildcard that meets a parameter and an earlier expression is refused for the parameter. -/
example : verdict Regex [⟨"GET", "/item/:id(^[0-9]+$)", 0⟩, ⟨"GET", "/item/:slug", 1⟩] "GET"
    "/item/*/edit" = .error (.conflict "/item/*/edit" ":slug" "*") := by
  rfl

end Router

end PathRouting
