import PathRouting.Proofs.Candidate
import PathRouting.Proofs.History
set_option autoImplicit false

/-!
# What the registered patterns cover

A lookup finds a node exactly when one of the patterns registered for its method serves the path.
The patterns are compared with the path one by one, without a tree: `Serves` says when one of them
is enough, and `matchRoute_isSome_iff` that nothing else counts, whatever run of registrations has
led to the router.
-/

namespace PathRouting

variable {E H : Type} [Constraint E]

/-! ## Patterns and paths -/

/-- A segment of a pattern accepts a segment of a path. -/
def Accepts (E : Type) [Constraint E] (segment text : String) : Prop :=
  match Segment.ofText segment with
  | .literal own => own = text
  | .param _ => True
  | .regex _ source => ∃ expression : E,
      Constraint.compile source = .ok expression ∧ Constraint.accepts expression text = true
  | .wildcard => True

/-- A pattern serves a path: it is as long as the path at least, or it ends with a wildcard that
absorbs the rest of the path, and its segments accept those of the path as far as both go. -/
def Serves (E : Type) [Constraint E] (mode : WildcardMode) (pattern segments : List String) :
    Prop :=
  (segments.length ≤ pattern.length ∨
    (mode = .absorb ∧ 1 ≤ pattern.length ∧ pattern.length < segments.length ∧
      pattern.getLast? = some "*")) ∧
  ∀ pair ∈ pattern.zip segments, Accepts E pair.1 pair.2

theorem serves_nil (mode : WildcardMode) (pattern : List String) : Serves E mode pattern [] :=
  ⟨Or.inl (Nat.zero_le _), by simp⟩

theorem not_serves_nil_cons (mode : WildcardMode) (text : String) (rest : List String) :
    ¬ Serves E mode [] (text :: rest) := by
  rintro ⟨hshort | ⟨-, hsome, -⟩, -⟩
  · simp at hshort
  · simp at hsome

theorem serves_cons {mode : WildcardMode} {segment text : String} {tail rest : List String} :
    Serves E mode (segment :: tail) (text :: rest) ↔
      Accepts E segment text ∧
        (Serves E mode tail rest ∨ (tail = [] ∧ mode = .absorb ∧ segment = "*")) := by
  unfold Serves
  rw [List.zip_cons_cons, List.forall_mem_cons, List.length_cons, List.length_cons,
    Nat.add_le_add_iff_right, Nat.add_lt_add_iff_right]
  constructor
  · rintro ⟨hends, haccepts, hothers⟩
    refine ⟨haccepts, ?_⟩
    rcases hends with hlong | ⟨hmode, -, hshort, hstar⟩
    · exact Or.inl ⟨Or.inl hlong, hothers⟩
    · cases tail with
      | nil => exact Or.inr ⟨rfl, hmode, by simpa using hstar⟩
      | cons next others =>
        rw [List.getLast?_cons_cons] at hstar
        exact Or.inl ⟨Or.inr ⟨hmode, by simp, hshort, hstar⟩, hothers⟩
  · rintro ⟨haccepts, ⟨hends, hothers⟩ | ⟨rfl, hmode, rfl⟩⟩
    · refine ⟨?_, haccepts, hothers⟩
      rcases hends with hlong | ⟨hmode, hsome, hshort, hstar⟩
      · exact Or.inl hlong
      · cases tail with
        | nil => simp at hsome
        | cons next others =>
          exact Or.inr ⟨hmode, by simp, hshort, by rw [List.getLast?_cons_cons, hstar]⟩
    · refine ⟨?_, haccepts, by simp⟩
      cases rest with
      | nil => exact Or.inl (Nat.le_refl _)
      | cons next others => exact Or.inr ⟨hmode, by simp, by simp, rfl⟩

namespace Node

/-! ## Children and their texts -/

/-- A child takes what its text accepts. -/
theorem Fits.takes_iff {node child : Node E H} {step : Descent} (hfits : node.Fits step child)
    (text : String) : child.takes text = true ↔ Accepts E child.segment text := by
  unfold takes Accepts
  rcases called_cases hfits.called with
    ⟨own, hsegment, hkind⟩ | ⟨name, hsegment, hkind⟩ |
      ⟨name, source, expression, hsegment, hcompiled, hkind⟩ | ⟨hsegment, hkind⟩
  · have hown : child.segment = own := Segment.eq_text_of_ofText hsegment
    simp only [hkind, hsegment]
    simp [hown]
  · simp [hkind, hsegment]
  · simp [hkind, hsegment, hcompiled]
  · simp [hkind, hsegment]

theorem Fits.kind_eq_wildcard_iff {node child : Node E H} {step : Descent}
    (hfits : node.Fits step child) : child.kind = .wildcard ↔ child.segment = "*" := by
  rw [← Segment.ofText_eq_wildcard_iff]
  rcases called_cases hfits.called with
    ⟨own, hsegment, hkind⟩ | ⟨name, hsegment, hkind⟩ |
      ⟨name, source, expression, hsegment, -, hkind⟩ | ⟨hsegment, hkind⟩
  all_goals simp [hsegment, hkind]

/-! ## The coverage of a tree -/

/-- There is a candidate in a tree exactly when some entry of its record serves the path. -/
theorem exists_candidate_iff {mode : WildcardMode} {node : Node E H} {entries : RouteList H}
    (hwell : node.WellFormed) (hrecords : Records node entries) (hsome : entries ≠ [])
    {segments : List String} :
    (∃ steps, Candidate mode node segments steps) ↔
      ∃ entry ∈ entries, Serves E mode entry.1 segments := by
  induction segments generalizing node entries with
  | nil =>
    obtain ⟨entry, hentry⟩ := List.exists_mem_of_ne_nil entries hsome
    exact ⟨fun _ => ⟨entry, hentry, serves_nil mode entry.1⟩, fun _ => ⟨[], candidate_nil.mpr rfl⟩⟩
  | cons text rest ih =>
    constructor
    · rintro ⟨steps, hcandidate⟩
      obtain ⟨step, child, tail, -, hchild, htakes, hbelow⟩ := candidate_cons.mp hcandidate
      have hfits := hwell.arranged.fits hchild
      have haccepts := (hfits.takes_iff text).mp htakes
      have hrecordsChild := hrecords.child hchild
      rcases hbelow with hdeeper | ⟨-, hwildcard, hmay⟩
      · have hbelowSome : entries.below child.segment ≠ [] := by
          obtain ⟨tail', handler, hmem⟩ := RouteList.mem_heads.mp
            ((hrecords.hasChild_iff child.segment).mp ⟨step, child, hchild, rfl⟩)
          exact List.ne_nil_of_mem (RouteList.mem_below.mpr hmem)
        obtain ⟨⟨tail', handler⟩, hmem, hserves⟩ :=
          (ih (hwell.child hchild) hrecordsChild hbelowSome).mp ⟨tail, hdeeper⟩
        exact ⟨(child.segment :: tail', handler), RouteList.mem_below.mp hmem,
          serves_cons.mpr ⟨haccepts, Or.inl hserves⟩⟩
      · obtain ⟨hmode, hbound⟩ := mayAbsorb_iff.mp hmay
        obtain ⟨handler, hmem⟩ := hrecordsChild.handler_isSome_iff.mp hbound
        exact ⟨([child.segment], handler), RouteList.mem_below.mp hmem, serves_cons.mpr
          ⟨haccepts, Or.inr ⟨rfl, hmode, hfits.kind_eq_wildcard_iff.mp hwildcard⟩⟩⟩
    · rintro ⟨⟨pattern, handler⟩, hmem, hserves⟩
      cases pattern with
      | nil => exact absurd hserves (not_serves_nil_cons mode text rest)
      | cons segment tail =>
        obtain ⟨haccepts, hbelow⟩ := serves_cons.mp hserves
        obtain ⟨step, child, hchild, rfl⟩ := (hrecords.hasChild_iff segment).mpr
          (RouteList.mem_heads.mpr ⟨tail, handler, hmem⟩)
        have hfits := hwell.arranged.fits hchild
        have htakes := (hfits.takes_iff text).mpr haccepts
        have hrecordsChild := hrecords.child hchild
        have hmemBelow := RouteList.mem_below.mpr hmem
        rcases hbelow with hdeeper | ⟨rfl, hmode, hstar⟩
        · obtain ⟨steps, hsteps⟩ :=
            (ih (hwell.child hchild) hrecordsChild (List.ne_nil_of_mem hmemBelow)).mpr
              ⟨(tail, handler), hmemBelow, hdeeper⟩
          exact ⟨step :: steps, candidate_cons.mpr
            ⟨step, child, steps, rfl, hchild, htakes, Or.inl hsteps⟩⟩
        · have hmay : child.mayAbsorb mode = true := mayAbsorb_iff.mpr ⟨hmode,
            hrecordsChild.handler_isSome_iff.mpr ⟨handler, hmemBelow⟩⟩
          exact ⟨[step], candidate_cons.mpr ⟨step, child, [], rfl, hchild, htakes,
            Or.inr ⟨rfl, hfits.kind_eq_wildcard_iff.mpr hstar, hmay⟩⟩⟩

end Node

namespace Router

/-- After a run of registrations, a lookup finds a node exactly when a pattern that was registered
for its method serves the path. -/
theorem matchRoute_isSome_iff (config : Config) (calls : List (Call H)) (method path : String) :
    (((empty config : Router E H).run calls).matchRoute method path).answer.isSome = true ↔
      ∃ call ∈ (empty config : Router E H).accepted calls, call.method = method ∧
        ∃ segments, Path.patternSegments call.pattern = .ok segments ∧
          Serves E config.wildcardMode segments (Path.requestSegments path) := by
  have htracks := tracks_of_run_empty (E := E) config calls
  have hconfig : ((empty config : Router E H).run calls).config = config := run_config _ calls
  rw [← Option.isSome_map, matchRoute_node_eq, hconfig]
  cases htree : ((empty config : Router E H).run calls).tree? method with
  | none =>
    have hunknown : ¬ ∃ call ∈ (empty config : Router E H).accepted calls,
        call.method = method := by
      rw [← htracks.known]
      rintro ⟨tree, hknown⟩
      rw [tree?, hknown] at htree
      cases htree
    constructor
    · intro hfound
      cases hfound
    · rintro ⟨call, hcall, hmethod, -⟩
      exact absurd ⟨call, hcall, hmethod⟩ hunknown
  | some tree =>
    have hsome : entriesFor method ((empty config : Router E H).accepted calls) ≠ [] := by
      obtain ⟨call, hcall, hmethod⟩ := (htracks.known method).mp ⟨tree, htree⟩
      obtain ⟨segments, hparsed⟩ := htracks.valid call hcall
      exact List.ne_nil_of_mem (mem_entriesFor.mpr ⟨call, hcall, hmethod, hparsed, rfl⟩)
    rw [Option.bind_some, Option.isSome_map, Node.trail?_isSome_iff (htracks.wellFormed htree),
      Node.exists_candidate_iff (htracks.wellFormed htree) (htracks.records htree) hsome]
    constructor
    · rintro ⟨⟨segments, handler⟩, hmem, hserves⟩
      obtain ⟨call, hcall, hmethod, hparsed, -⟩ := mem_entriesFor.mp hmem
      exact ⟨call, hcall, hmethod, segments, hparsed, hserves⟩
    · rintro ⟨call, hcall, hmethod, segments, hparsed, hserves⟩
      exact ⟨(segments, call.handler), mem_entriesFor.mpr ⟨call, hcall, hmethod, hparsed, rfl⟩,
        hserves⟩

end Router

end PathRouting
