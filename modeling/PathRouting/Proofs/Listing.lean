import Mathlib.Data.List.Nodup
import Mathlib.Data.List.Perm.Basic
import PathRouting.Proofs.ByteOrder
import PathRouting.Proofs.Regularity
set_option autoImplicit false

/-!
# The listing of a router

What a router lists are the registrations that succeeded, each once.  The listing of a tree goes
through the children of every node; `Node.routed_perm` says that nothing of its record is lost or
doubled on the way and that every route is written as its pattern.  `run_listing` puts this together
for whole routers, with the order of the listing.
-/

namespace PathRouting

variable {E H : Type}

/-! ## Sorting out a list -/

/-- A list falls apart by the keys of its members. -/
theorem perm_flatMap_filter {α κ : Type} [DecidableEq κ] (key : α → κ) {keys : List κ}
    (hkeys : keys.Nodup) {items : List α} (hall : ∀ item ∈ items, key item ∈ keys) :
    items.Perm (keys.flatMap fun own => items.filter fun item => key item = own) := by
  induction keys generalizing items with
  | nil =>
    have hnil : items = [] := by
      apply List.eq_nil_iff_forall_not_mem.mpr
      intro item hmem
      cases hall item hmem
    rw [hnil]
    exact List.Perm.nil
  | cons first rest ih =>
    obtain ⟨hfirst, hrest⟩ := List.nodup_cons.mp hkeys
    have hkept : ∀ item ∈ items.filter fun item => !decide (key item = first), key item ∈ rest := by
      intro item hmem
      obtain ⟨hitem, hdiffers⟩ := List.mem_filter.mp hmem
      have hne : key item ≠ first := by simpa using hdiffers
      exact List.mem_of_ne_of_mem hne (hall item hitem)
    have hothers := ih hrest hkept
    have hsame : ∀ own ∈ rest,
        (items.filter fun item => !decide (key item = first)).filter (fun item => key item = own) =
          items.filter fun item => key item = own := by
      intro own hown
      rw [List.filter_filter]
      apply List.filter_congr
      intro item _
      by_cases hitem : key item = own
      · have hne : own ≠ first := fun hsame => hfirst (hsame ▸ hown)
        simp [hitem, hne]
      · simp [hitem]
    rw [List.flatMap_congr hsame] at hothers
    rw [List.flatMap_cons]
    exact (List.filter_append_perm (fun item => decide (key item = first)) items).symm.trans
      (List.Perm.append_left _ hothers)

namespace RouteList

/-- The patterns of the routes, oldest first. -/
def patterns (entries : RouteList H) : List (List String) :=
  entries.map (·.1)

/-- The patterns that start with a segment are what goes on below it. -/
theorem map_cons_patterns_below (entries : RouteList H) (text : String) :
    (entries.below text).patterns.map (text :: ·) =
      entries.patterns.filter fun pattern => pattern.head? = some text := by
  unfold patterns
  induction entries with
  | nil => rfl
  | cons entry rest ih =>
    obtain ⟨segments, handler⟩ := entry
    cases segments with
    | nil => simpa [below] using ih
    | cons first others =>
      by_cases hfirst : first = text
      · simpa [below, hfirst] using ih
      · simpa [below, hfirst] using ih

theorem nodup_patterns_below {entries : RouteList H} (honce : entries.patterns.Nodup)
    (text : String) : (entries.below text).patterns.Nodup := by
  refine List.Nodup.of_map (text :: ·) ?_
  rw [map_cons_patterns_below]
  exact honce.filter _

/-- The patterns are the empty one, if it is among them, and those that start with one of the first
segments. -/
theorem patterns_perm {entries : RouteList H} (honce : entries.patterns.Nodup)
    {texts : List String} (htexts : texts.Nodup) (hheads : ∀ text ∈ entries.heads, text ∈ texts) :
    entries.patterns.Perm ((if [] ∈ entries.patterns then [[]] else []) ++
      texts.flatMap fun text => (entries.below text).patterns.map (text :: ·)) := by
  have hkeys : (none :: texts.map some).Nodup := by
    refine List.nodup_cons.mpr ⟨by simp, ?_⟩
    exact htexts.map fun _ _ => Option.some.inj
  have hall : ∀ pattern ∈ entries.patterns, pattern.head? ∈ none :: texts.map some := by
    intro pattern hmem
    cases pattern with
    | nil => exact List.mem_cons_self
    | cons text rest =>
      obtain ⟨⟨segments, handler⟩, hentry, rfl⟩ := List.mem_map.mp hmem
      have hhead : text ∈ entries.heads := mem_heads.mpr ⟨rest, handler, hentry⟩
      exact List.mem_cons_of_mem _ (List.mem_map_of_mem (hheads text hhead))
  have hempty : (entries.patterns.filter fun pattern => pattern.head? = none) =
      if [] ∈ entries.patterns then [[]] else [] := by
    have hfilter : (entries.patterns.filter fun pattern => pattern.head? = none) =
        entries.patterns.filter (· = []) :=
      List.filter_congr fun pattern _ => by simp [List.head?_eq_none_iff]
    rw [hfilter, List.filter_eq]
    by_cases hmem : [] ∈ entries.patterns
    · rw [if_pos hmem, List.count_eq_one_of_mem honce hmem]
      rfl
    · rw [if_neg hmem, List.count_eq_zero_of_not_mem hmem]
      rfl
  have hsplit := perm_flatMap_filter List.head? hkeys hall
  rw [List.flatMap_cons, hempty, List.flatMap_map] at hsplit
  simp only [map_cons_patterns_below]
  exact hsplit

end RouteList

namespace Node

/-! ## The listing of a tree -/

/-- The depth that a listing starts with does not change which nodes it lists. -/
theorem map_snd_preorder (depth other : Nat) (node : Node E H) :
    (node.preorder depth).map (·.2) = (node.preorder other).map (·.2) := by
  rw [preorder_eq, preorder_eq, List.map_cons, List.map_cons, List.map_flatMap, List.map_flatMap]
  refine congrArg _ (List.flatMap_congr fun child hchild => ?_)
  exact map_snd_preorder (depth + 1) (other + 1) child
termination_by sizeOf node
decreasing_by exact sizeOf_lt_of_mem_children hchild

/-- A tree lists its root, if that has a handler, and what its children list. -/
theorem routed_eq (node : Node E H) :
    node.routed = (if node.handler.isSome then [node] else []) ++ node.children.flatMap routed := by
  have hbelow : ∀ child ∈ node.children,
      ((child.preorder 1).map (·.2)).filter (·.handler.isSome) = child.routed := by
    intro child _
    rw [routed, map_snd_preorder 1 0]
  rw [routed, preorder_eq, List.map_cons, List.filter_cons, List.map_flatMap, List.filter_flatMap,
    List.flatMap_congr hbelow]
  split
  · rfl
  · rfl

/-- The route of the node that some segments lead to from here. -/
def routeTo (node : Node E H) : List String → String
  | [] => node.fullRoute
  | text :: rest => node.stem ++ Path.slashed (text :: rest)

theorem routeTo_root {tree : Node E H} (hkind : tree.kind = .root) (hroute : tree.fullRoute = "/")
    (texts : List String) : tree.routeTo texts = Path.render texts := by
  cases texts with
  | nil => exact hroute
  | cons text rest =>
    rw [routeTo, stem, hkind, Path.render_eq_slashed (List.cons_ne_nil _ _), String.empty_append]

variable [Constraint E]

theorem Fits.routeTo_cons {node child : Node E H} {step : Descent} (hfits : node.Fits step child)
    (rest : List String) : node.routeTo (child.segment :: rest) = child.routeTo rest := by
  cases rest with
  | nil => rw [routeTo, routeTo, hfits.routed, Path.slashed_cons, Path.slashed_nil,
      String.append_empty, String.append_assoc]
  | cons text others =>
    rw [routeTo, routeTo, hfits.stem_eq, Path.slashed_cons]
    simp only [String.append_assoc]

/-- No two children have the same text. -/
theorem nodup_children {node : Node E H} (harranged : node.Arranged) :
    (node.children.map (·.segment)).Nodup := by
  have hapart : ∀ {step other : Descent} {child sibling : Node E H},
      node.child? step = some child → node.child? other = some sibling → step ≠ other →
        child.segment ≠ sibling.segment := by
    intro step other child sibling hchild hsibling hne hsame
    exact hne (child?_unique harranged hchild hsibling hsame)
  have hstatic : ∀ {child : Node E H}, child ∈ node.statics.values →
      ∃ text, node.child? (.literal text) = some child := by
    intro child hmem
    obtain ⟨⟨key, value⟩, hentry, rfl⟩ := List.mem_map.mp hmem
    exact ⟨key, Table.get?_of_mem_entries harranged.sorted hentry⟩
  have hregex : ∀ {child : Node E H}, child ∈ node.regexChildren →
      ∃ index, node.child? (.regex index) = some child := fun hmem => List.mem_iff_getElem?.mp hmem
  have hoption : ∀ found : Option (Node E H),
      found.toList.Pairwise fun a b => a.segment ≠ b.segment := by
    intro found
    cases found with
    | none => exact List.Pairwise.nil
    | some child => exact List.pairwise_singleton _ _
  rw [List.Nodup, List.pairwise_map, children]
  refine List.pairwise_append.mpr ⟨List.pairwise_append.mpr ⟨List.pairwise_append.mpr
    ⟨?_, ?_, ?_⟩, hoption _, ?_⟩, hoption _, ?_⟩
  · -- Literals stand under their own texts, in ascending order.
    have hown : ∀ entry ∈ node.statics.entries, entry.2.segment = entry.1 := by
      intro entry hentry
      have hplaced : node.child? (.literal entry.1) = some entry.2 :=
        Table.get?_of_mem_entries harranged.sorted hentry
      exact (harranged.fits hplaced).admitted.2
    rw [Table.values, List.pairwise_map]
    apply harranged.sorted.imp_of_mem
    intro entry other hentry hother hlt
    rw [hown entry hentry, hown other hother]
    exact String.ne_of_lt hlt
  · apply List.pairwise_iff_getElem.mpr
    intro i j hi hj hlt
    have hplaced : node.child? (.regex i) = some node.regexChildren[i] := List.getElem?_eq_getElem hi
    have hplaced' : node.child? (.regex j) = some node.regexChildren[j] :=
      List.getElem?_eq_getElem hj
    apply hapart hplaced hplaced'
    intro hsame
    have hindex : i = j := Descent.regex.inj hsame
    omega
  · intro child hchild sibling hsibling
    obtain ⟨text, hplaced⟩ := hstatic hchild
    obtain ⟨index, hplaced'⟩ := hregex hsibling
    exact hapart hplaced hplaced' (by simp)
  · intro child hchild sibling hsibling
    have hplaced' : node.child? .param = some sibling := Option.mem_toList.mp hsibling
    rcases List.mem_append.mp hchild with hliteral | hexpression
    · obtain ⟨text, hplaced⟩ := hstatic hliteral
      exact hapart hplaced hplaced' (by simp)
    · obtain ⟨index, hplaced⟩ := hregex hexpression
      exact hapart hplaced hplaced' (by simp)
  · intro child hchild sibling hsibling
    have hplaced' : node.child? .wildcard = some sibling := Option.mem_toList.mp hsibling
    rcases List.mem_append.mp hchild with hcaptures | hparam
    · rcases List.mem_append.mp hcaptures with hliteral | hexpression
      · obtain ⟨text, hplaced⟩ := hstatic hliteral
        exact hapart hplaced hplaced' (by simp)
      · obtain ⟨index, hplaced⟩ := hregex hexpression
        exact hapart hplaced hplaced' (by simp)
    · have hplaced : node.child? .param = some child := Option.mem_toList.mp hparam
      exact hapart hplaced hplaced' (by simp)

/-- The routes that a tree lists are those of its record, each once. -/
theorem routed_perm {node : Node E H} {entries : RouteList H} (hwell : node.WellFormed)
    (hrecords : Records node entries) (honce : entries.patterns.Nodup) :
    (node.routed.map (·.fullRoute)).Perm (entries.patterns.map node.routeTo) := by
  induction hwell generalizing entries with
  | @intro node harranged hbelow ih =>
    have hchild : ∀ child ∈ node.children, ∃ step, node.child? step = some child :=
      fun child hmem => (mem_children_iff harranged.sorted child).mp hmem
    have hheads : ∀ text ∈ entries.heads, text ∈ node.children.map (·.segment) := by
      intro text hmem
      obtain ⟨step, child, hplaced, rfl⟩ := (hrecords.hasChild_iff text).mpr hmem
      exact List.mem_map_of_mem ((mem_children_iff harranged.sorted child).mpr ⟨step, hplaced⟩)
    have hown : (if node.handler.isSome then [node] else []).map (·.fullRoute) =
        (if [] ∈ entries.patterns then [[]] else []).map node.routeTo := by
      have hends : [] ∈ entries.patterns ↔ node.handler.isSome = true := by
        rw [hrecords.handler_isSome_iff]
        simp [RouteList.patterns]
      by_cases hbound : node.handler.isSome = true
      · rw [if_pos hbound, if_pos (hends.mpr hbound)]
        rfl
      · rw [if_neg hbound, if_neg fun hmem => hbound (hends.mp hmem)]
        rfl
    have hothers : (node.children.flatMap fun child => child.routed.map (·.fullRoute)).Perm
        (node.children.flatMap fun child =>
          ((entries.below child.segment).patterns.map (child.segment :: ·)).map node.routeTo) := by
      apply List.Perm.flatMap_left
      intro child hmem
      obtain ⟨step, hplaced⟩ := hchild child hmem
      have hroute : ((entries.below child.segment).patterns.map (child.segment :: ·)).map
          node.routeTo = (entries.below child.segment).patterns.map child.routeTo := by
        rw [List.map_map]
        exact List.map_congr_left fun rest _ => (harranged.fits hplaced).routeTo_cons rest
      rw [hroute]
      exact ih hplaced (hrecords.child hplaced)
        (RouteList.nodup_patterns_below honce child.segment)
    have hsplit := (RouteList.patterns_perm honce (nodup_children harranged) hheads).map node.routeTo
    rw [List.map_append, List.map_flatMap, List.flatMap_map] at hsplit
    rw [routed_eq, List.map_append, List.map_flatMap, hown]
    exact (List.Perm.append_left _ hothers).trans hsplit.symm

end Node

/-! ## The patterns of a method -/

/-- The patterns registered for a method, written out. -/
theorem map_render_entriesFor {log : List (Call H)}
    (hvalid : ∀ call ∈ log, ∃ segments, Path.patternSegments call.pattern = .ok segments)
    (method : String) :
    (entriesFor method log).patterns.map Path.render =
      (log.filter fun call => call.method = method).map (·.pattern) := by
  unfold entriesFor RouteList.patterns
  induction log with
  | nil => rfl
  | cons call rest ih =>
    have hrest := ih fun other hother => hvalid other (List.mem_cons_of_mem _ hother)
    obtain ⟨segments, hsegments⟩ := hvalid call List.mem_cons_self
    by_cases hmethod : call.method = method
    · simpa [hmethod, hsegments, Path.render_of_patternSegments hsegments] using hrest
    · simpa [hmethod] using hrest

namespace Call

/-- The method and the pattern of a call. -/
def route (call : Call H) : String × String :=
  (call.method, call.pattern)

theorem nodup_route {log : List (Call H)} (hlog : log.Pairwise Call.Compatible) :
    (log.map route).Nodup := by
  rw [List.Nodup, List.pairwise_map]
  apply hlog.imp
  intro call later hcompatible hsame
  obtain ⟨hmethod, hpattern⟩ := Prod.mk.inj hsame
  exact (hcompatible hmethod).1 hpattern

end Call

theorem nodup_patterns_entriesFor {log : List (Call H)} (hlog : log.Pairwise Call.Compatible)
    (hvalid : ∀ call ∈ log, ∃ segments, Path.patternSegments call.pattern = .ok segments)
    (method : String) : (entriesFor method log).patterns.Nodup := by
  refine List.Nodup.of_map Path.render ?_
  rw [map_render_entriesFor hvalid]
  refine List.Nodup.of_map (Prod.mk method) ?_
  have hroutes : ((log.filter fun call => call.method = method).map (·.pattern)).map
      (Prod.mk method) = (log.filter fun call => call.method = method).map Call.route := by
    rw [List.map_map]
    apply List.map_congr_left
    intro call hcall
    have hmethod : call.method = method := by simpa using (List.mem_filter.mp hcall).2
    exact congrArg (·, call.pattern) hmethod.symm
  rw [hroutes]
  exact (Call.nodup_route hlog).sublist (List.filter_sublist.map Call.route)

namespace Router

/-! ## The listing of a router -/

/-- The order of listed routes goes by method, then by pattern. -/
theorem routeBefore_iff {first second : String × String} :
    routeBefore first second = true ↔
      first.1 < second.1 ∨ (first.1 = second.1 ∧ first.2 ≤ second.2) := by
  unfold routeBefore
  rw [Bool.or_eq_true, Bool.and_eq_true, decide_eq_true_iff, decide_eq_true_iff, Bool.not_eq_true',
    decide_eq_false_iff_not, String.not_lt]

theorem routeBefore_trans (first second third : String × String)
    (hfirst : routeBefore first second = true) (hsecond : routeBefore second third = true) :
    routeBefore first third = true := by
  rw [routeBefore_iff] at *
  rcases hfirst with hmethod | ⟨hsame, hpattern⟩
  · rcases hsecond with hmethod' | ⟨hsame', -⟩
    · exact Or.inl (String.lt_trans hmethod hmethod')
    · exact Or.inl (hsame' ▸ hmethod)
  · rcases hsecond with hmethod' | ⟨hsame', hpattern'⟩
    · exact Or.inl (hsame ▸ hmethod')
    · exact Or.inr ⟨hsame.trans hsame', String.le_trans hpattern hpattern'⟩

theorem routeBefore_total (first second : String × String) :
    (routeBefore first second || routeBefore second first) = true := by
  rw [Bool.or_eq_true, routeBefore_iff, routeBefore_iff]
  by_cases hfirst : first.1 < second.1
  · exact Or.inl (Or.inl hfirst)
  · by_cases hsecond : second.1 < first.1
    · exact Or.inr (Or.inl hsecond)
    · have hsame : first.1 = second.1 :=
        String.le_antisymm (String.not_lt.mp hsecond) (String.not_lt.mp hfirst)
      rcases String.le_total first.2 second.2 with hle | hge
      · exact Or.inl (Or.inr ⟨hsame, hle⟩)
      · exact Or.inr (Or.inr ⟨hsame.symm, hge⟩)

theorem eq_of_routeBefore {first second : String × String}
    (hfirst : routeBefore first second = true) (hsecond : routeBefore second first = true) :
    first = second := by
  rw [routeBefore_iff] at *
  rcases hfirst with hmethod | ⟨hsame, hpattern⟩
  · rcases hsecond with hmethod' | ⟨hsame', -⟩
    · exact absurd hmethod' (String.lt_asymm hmethod)
    · exact absurd hmethod (hsame' ▸ String.lt_irrefl _)
  · rcases hsecond with hmethod' | ⟨-, hpattern'⟩
    · exact absurd hmethod' (hsame ▸ String.lt_irrefl _)
    · exact Prod.ext hsame (String.le_antisymm hpattern hpattern')

theorem pairwise_routes (router : Router E H) :
    router.routes.Pairwise fun first second => routeBefore first second = true :=
  List.pairwise_mergeSort routeBefore_trans routeBefore_total _

/-- Listed routes that have the same members in any order are the same. -/
theorem routes_eq_of_perm {router other : Router E H} (hperm : router.routes.Perm other.routes) :
    router.routes = other.routes :=
  hperm.eq_of_pairwise (fun _ _ _ _ => eq_of_routeBefore) router.pairwise_routes
    other.pairwise_routes

theorem size_eq_length_routes (router : Router E H) : router.size = router.routes.length := by
  unfold size routes Table.values
  rw [List.length_mergeSort]
  induction router.trees.entries with
  | nil => rfl
  | cons entry rest ih =>
    obtain ⟨method, tree⟩ := entry
    simp only [List.map_cons, List.foldr_cons, List.flatMap_cons, List.length_append,
      List.length_map]
    rw [ih]

variable [Constraint E]

namespace Tracks

variable {router : Router E H} {log : List (Call H)}

/-- The routes of one tree are the patterns registered for its method. -/
theorem routed_perm (htracks : router.Tracks log) (hlog : log.Pairwise Call.Compatible)
    (hreachable : router.Reachable) {method : String} {tree : Node E H}
    (htree : router.tree? method = some tree) :
    (tree.routed.map fun node => (method, node.fullRoute)).Perm
      ((log.filter fun call => call.method = method).map Call.route) := by
  obtain ⟨hkind, -, hroute⟩ := hreachable.root_eq htree
  have hpatterns := Node.routed_perm (htracks.wellFormed htree) (htracks.records htree)
    (nodup_patterns_entriesFor hlog htracks.valid method)
  rw [List.map_congr_left fun texts _ => Node.routeTo_root hkind hroute texts,
    map_render_entriesFor htracks.valid] at hpatterns
  have hpairs := hpatterns.map (Prod.mk method)
  rw [List.map_map, List.map_map] at hpairs
  refine hpairs.trans (List.Perm.of_eq (List.map_congr_left fun call hcall => ?_))
  have hmethod : call.method = method := by simpa using (List.mem_filter.mp hcall).2
  exact congrArg (·, call.pattern) hmethod.symm

/-- A method is listed exactly when it has a tree. -/
theorem mem_methods_iff (htracks : router.Tracks log) (method : String) :
    method ∈ router.methods ↔ ∃ call ∈ log, call.method = method := by
  rw [← htracks.known]
  constructor
  · intro hmem
    obtain ⟨⟨key, tree⟩, hentry, rfl⟩ := List.mem_map.mp hmem
    exact ⟨tree, Table.get?_of_mem_entries htracks.sorted hentry⟩
  · rintro ⟨tree, htree⟩
    exact List.mem_map.mpr ⟨(method, tree), Table.mem_entries_of_get? htree, rfl⟩

theorem pairwise_methods (htracks : router.Tracks log) : router.methods.Pairwise (· < ·) :=
  List.pairwise_map.mpr htracks.sorted

/-- What a router lists are the calls that succeeded, each once. -/
theorem routes_perm (htracks : router.Tracks log) (hlog : log.Pairwise Call.Compatible)
    (hreachable : router.Reachable) : router.routes.Perm (log.map Call.route) := by
  have hkeys : router.methods.Nodup := htracks.pairwise_methods.imp String.ne_of_lt
  have hall : ∀ call ∈ log, call.method ∈ router.methods := fun call hcall =>
    (htracks.mem_methods_iff call.method).mpr ⟨call, hcall, rfl⟩
  have hsplit := (perm_flatMap_filter Call.method hkeys hall).map Call.route
  rw [List.map_flatMap, methods, Table.keys, List.flatMap_map] at hsplit
  have htrees : (router.trees.entries.flatMap fun entry =>
      entry.2.routed.map fun node => (entry.1, node.fullRoute)).Perm
      (router.trees.entries.flatMap fun entry =>
        (log.filter fun call => call.method = entry.1).map Call.route) := by
    apply List.Perm.flatMap_left
    intro entry hentry
    exact htracks.routed_perm hlog hreachable (Table.get?_of_mem_entries htracks.sorted hentry)
  exact (List.mergeSort_perm _ _).trans (htrees.trans hsplit.symm)

end Tracks

/-- After a run of registrations a router lists those that succeeded: their routes with the patterns
as they were given, in strictly ascending order of their bytes, their number, and their methods. -/
theorem run_listing (config : Config) (calls : List (Call H)) :
    (∀ method pattern, (method, pattern) ∈ ((empty config : Router E H).run calls).routes ↔
      ∃ call ∈ (empty config : Router E H).accepted calls,
        call.method = method ∧ call.pattern = pattern) ∧
    ((empty config : Router E H).run calls).routes.Pairwise (fun first second =>
      Text.bytes first.1 < Text.bytes second.1 ∨
        (first.1 = second.1 ∧ Text.bytes first.2 < Text.bytes second.2)) ∧
    ((empty config : Router E H).run calls).size =
      ((empty config : Router E H).accepted calls).length ∧
    (∀ method, method ∈ ((empty config : Router E H).run calls).methods ↔
      ∃ call ∈ (empty config : Router E H).accepted calls, call.method = method) ∧
    ((empty config : Router E H).run calls).methods.Pairwise (fun first second =>
      Text.bytes first < Text.bytes second) ∧
    (((empty config : Router E H).run calls).isEmpty = true ↔
      (empty config : Router E H).accepted calls = []) := by
  have htracks := tracks_of_run_empty (E := E) config calls
  have hlog := (tracks_empty (E := E) config).pairwise_accepted List.Pairwise.nil calls
  have hroutes := htracks.routes_perm hlog ⟨config, calls, rfl⟩
  have hsize : ((empty config : Router E H).run calls).size =
      ((empty config : Router E H).accepted calls).length := by
    rw [size_eq_length_routes, hroutes.length_eq, List.length_map]
  refine ⟨?_, ?_, hsize, htracks.mem_methods_iff, ?_, ?_⟩
  · intro method pattern
    rw [hroutes.mem_iff, List.mem_map]
    simp only [Call.route, Prod.mk.injEq]
  · have hnodup : ((empty config : Router E H).run calls).routes.Nodup :=
      hroutes.nodup_iff.mpr (Call.nodup_route hlog)
    refine (hnodup.and (pairwise_routes _)).imp ?_
    rintro first second ⟨hne, hbefore⟩
    rw [← Text.lt_iff_bytes_lt, ← Text.lt_iff_bytes_lt]
    rcases routeBefore_iff.mp hbefore with hmethod | ⟨hsame, hle⟩
    · exact Or.inl hmethod
    · refine Or.inr ⟨hsame, String.not_le.mp fun hge => ?_⟩
      exact hne (Prod.ext hsame (String.le_antisymm hle hge))
  · exact htracks.pairwise_methods.imp Text.lt_iff_bytes_lt.mp
  · rw [isEmpty, decide_eq_true_iff, hsize, List.length_eq_zero_iff]

end Router

end PathRouting
