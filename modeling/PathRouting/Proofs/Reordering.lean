import PathRouting.Regex
import PathRouting.Proofs.Similarity
set_option autoImplicit false

/-!
# Registrations in another order

Calls that all succeed can be made in any order, and little depends on it.  `Rearranged` collects
what is known of two routers that keep track of the same calls: they list the same routes, their
trees are similar, and for a method whose expressions stand in the same order they have the same
tree.  `run_perm` says so of runs, with what follows for lookups.
-/

namespace PathRouting

variable {E H : Type}

/-! ## Reordered calls -/

/-- A list of members that are all the same is the same in every order. -/
theorem eq_of_perm_of_alike {α : Type} {left right : List α} (hperm : left.Perm right)
    (halike : ∀ a ∈ left, ∀ b ∈ left, a = b) : left = right := by
  have hsame : ∀ a b : α, a ∈ left → b ∈ right → True → True → a = b :=
    fun a b ha hb _ _ => halike a ha b (hperm.mem_iff.mpr hb)
  exact hperm.eq_of_pairwise hsame (List.pairwise_of_forall fun _ _ => trivial)
    (List.pairwise_of_forall fun _ _ => trivial)

theorem entriesFor_perm {calls reordered : List (Call H)} (hperm : calls.Perm reordered)
    (method : String) : (entriesFor method calls).Perm (entriesFor method reordered) :=
  hperm.filterMap _

/-- No two different expressions share a position in the patterns of a method. -/
def LoneExpressions (method : String) (calls : List (Call H)) : Prop :=
  ∀ {lead : List String} {text other : String},
    text ∈ (entriesFor method calls).continuations lead →
    other ∈ (entriesFor method calls).continuations lead →
    (Segment.ofText text).source?.isSome = true → (Segment.ofText other).source?.isSome = true →
      text = other

namespace Router

/-- In the trees of a method the expressions stand in the same order, node by node. -/
def SameOrder (router other : Router E H) (method : String) : Prop :=
  ∀ {tree tree' : Node E H}, router.tree? method = some tree → other.tree? method = some tree' →
    tree.SameOrder tree'

variable [Constraint E]

theorem accepted_eq_self {router : Router E H} {calls : List (Call H)}
    (hsucceeds : router.Succeeds calls) : router.accepted calls = calls := by
  induction calls generalizing router with
  | nil => rfl
  | cons call rest ih =>
    obtain ⟨hok, hrest⟩ := hsucceeds
    rw [accepted, hok]
    exact congrArg (call :: ·) (ih hrest)

theorem Succeeds.perm {config : Config} {calls reordered : List (Call H)}
    (hsucceeds : (empty config : Router E H).Succeeds calls) (hperm : calls.Perm reordered) :
    (empty config : Router E H).Succeeds reordered := by
  rw [succeeds_iff_compatible] at hsucceeds ⊢
  obtain ⟨hsound, hpairs⟩ := hsucceeds
  exact ⟨fun call hcall => hsound call (hperm.mem_iff.mpr hcall),
    hpairs.perm hperm Call.Compatible.symm⟩

/-- Two routers keep track of the same calls in different orders. -/
structure Rearranged (router other : Router E H) (log reordered : List (Call H)) : Prop where
  tracks : router.Tracks log
  tracks' : other.Tracks reordered
  reachable : router.Reachable
  reachable' : other.Reachable
  compatible : log.Pairwise Call.Compatible
  perm : log.Perm reordered

/-- Runs of the same calls in different orders lead to such routers when all calls succeed. -/
theorem rearranged_run {config : Config} {calls reordered : List (Call H)}
    (hsucceeds : (empty config : Router E H).Succeeds calls) (hperm : calls.Perm reordered) :
    Rearranged ((empty config : Router E H).run calls) ((empty config).run reordered) calls
      reordered where
  tracks := by
    have htracks := tracks_of_run_empty (E := E) config calls
    rwa [accepted_eq_self hsucceeds] at htracks
  tracks' := by
    have htracks := tracks_of_run_empty (E := E) config reordered
    rwa [accepted_eq_self (hsucceeds.perm hperm)] at htracks
  reachable := ⟨config, calls, rfl⟩
  reachable' := ⟨config, reordered, rfl⟩
  compatible := ((succeeds_iff_compatible config calls).mp hsucceeds).2
  perm := hperm

namespace Rearranged

variable {router other : Router E H} {log reordered : List (Call H)}

theorem compatible' (hrearranged : Rearranged router other log reordered) :
    reordered.Pairwise Call.Compatible :=
  hrearranged.compatible.perm hrearranged.perm Call.Compatible.symm

theorem methods_eq (hrearranged : Rearranged router other log reordered) :
    other.methods = router.methods := by
  refine List.Perm.eq_of_pairwise (fun _ _ _ _ hlt hgt => absurd hgt (String.lt_asymm hlt))
    hrearranged.tracks'.pairwise_methods hrearranged.tracks.pairwise_methods ?_
  apply (List.perm_ext_iff_of_nodup (hrearranged.tracks'.pairwise_methods.imp String.ne_of_lt)
    (hrearranged.tracks.pairwise_methods.imp String.ne_of_lt)).mpr
  intro method
  rw [hrearranged.tracks.mem_methods_iff, hrearranged.tracks'.mem_methods_iff]
  simp only [hrearranged.perm.mem_iff]

theorem routes_eq (hrearranged : Rearranged router other log reordered) :
    other.routes = router.routes := by
  have hroutes := hrearranged.tracks.routes_perm hrearranged.compatible hrearranged.reachable
  have hroutes' := hrearranged.tracks'.routes_perm hrearranged.compatible' hrearranged.reachable'
  exact routes_eq_of_perm
    (hroutes'.trans ((hrearranged.perm.symm.map Call.route).trans hroutes.symm))

/-- A method has a tree in both routers or in none, and what holds of roots that are records of the
same routes holds of its trees. -/
theorem tree?_rel (hrearranged : Rearranged router other log reordered) (method : String)
    {related : Node E H → Node E H → Prop}
    (hrelated : ∀ {tree tree' : Node E H}, router.tree? method = some tree →
      other.tree? method = some tree' → Node.SameLabel tree tree' → related tree tree') :
    Option.Rel related (router.tree? method) (other.tree? method) := by
  have hsame : (∃ tree, router.tree? method = some tree) ↔
      ∃ tree, other.tree? method = some tree := by
    refine (hrearranged.tracks.known method).trans
      (Iff.trans ?_ (hrearranged.tracks'.known method).symm)
    simp only [hrearranged.perm.mem_iff]
  cases htree : router.tree? method with
  | some tree =>
    obtain ⟨tree', htree'⟩ := hsame.mp ⟨tree, htree⟩
    obtain ⟨hkind, hsegment, hroute⟩ := hrearranged.reachable.root_eq htree
    obtain ⟨hkind', hsegment', hroute'⟩ := hrearranged.reachable'.root_eq htree'
    rw [htree']
    exact .some (hrelated htree htree' ⟨hkind'.trans hkind.symm, hsegment'.trans hsegment.symm,
      hroute'.trans hroute.symm⟩)
  | none =>
    cases htree' : other.tree? method with
    | none => exact .none
    | some tree' =>
      obtain ⟨tree, hknown⟩ := hsame.mpr ⟨tree', htree'⟩
      rw [htree] at hknown
      cases hknown

theorem nodup_patterns (hrearranged : Rearranged router other log reordered) (method : String) :
    (entriesFor method log).patterns.Nodup :=
  nodup_patterns_entriesFor hrearranged.compatible hrearranged.tracks.valid method

theorem similar (hrearranged : Rearranged router other log reordered) (method : String) :
    Option.Rel Node.Similar (router.tree? method) (other.tree? method) :=
  hrearranged.tree?_rel method fun htree htree' hlabel =>
    Node.similar_of_records (hrearranged.tracks.wellFormed htree)
      (hrearranged.tracks'.wellFormed htree') (hrearranged.tracks.records htree)
      (hrearranged.tracks'.records htree') (entriesFor_perm hrearranged.perm method)
      (hrearranged.nodup_patterns method) hlabel

/-- With the expressions in the same order, the trees are the same. -/
theorem tree?_eq (hrearranged : Rearranged router other log reordered) {method : String}
    (horder : router.SameOrder other method) : other.tree? method = router.tree? method := by
  have hrel : Option.Rel Eq (router.tree? method) (other.tree? method) :=
    hrearranged.tree?_rel method fun htree htree' hlabel =>
      Node.eq_of_records (hrearranged.tracks.wellFormed htree)
        (hrearranged.tracks'.wellFormed htree') (hrearranged.tracks.records htree)
        (hrearranged.tracks'.records htree') (entriesFor_perm hrearranged.perm method)
        (hrearranged.nodup_patterns method) hlabel (horder htree htree')
  generalize router.tree? method = tree? at hrel
  generalize other.tree? method = tree?' at hrel
  cases hrel with
  | some htree => rw [htree]
  | none => rfl

/-- Expressions that are alone in their position stand in the same order. -/
theorem sameOrder (hrearranged : Rearranged router other log reordered) {method : String}
    (hlone : LoneExpressions method log) : router.SameOrder other method := by
  intro tree tree' htree htree' texts steps steps' node node' hreaches hreaches'
  have hperm : (((entriesFor method reordered).continuations texts).filter fun text =>
      (Segment.ofText text).source?.isSome).Perm
        (((entriesFor method log).continuations texts).filter fun text =>
          (Segment.ofText text).source?.isSome) :=
    ((entriesFor_perm hrearranged.perm.symm method).filterMap _).filter _
  rw [hrearranged.tracks.regexTexts_eq ⟨tree, htree, hreaches⟩,
    hrearranged.tracks'.regexTexts_eq ⟨tree', htree', hreaches'⟩]
  -- Any two expressions that go on here are the same text, so every order of them is the same.
  refine congrArg List.eraseDups (eq_of_perm_of_alike hperm.symm ?_).symm
  intro text htext sibling hsibling
  obtain ⟨hnext, hregex⟩ := List.mem_filter.mp htext
  obtain ⟨hnext', hregex'⟩ := List.mem_filter.mp hsibling
  exact hlone hnext hnext' hregex hregex'

end Rearranged

/-- Calls that all succeed do so in any order, and what the order leaves open is only how the
expressions below a node stand: the listings are the same, the trees are similar, and where the
expressions stand in the same order, as they do when no two different ones share a position, the
same lookups give the same answers. -/
theorem run_perm (config : Config) {calls reordered : List (Call H)}
    (hsucceeds : (empty config : Router E H).Succeeds calls) (hperm : calls.Perm reordered) :
    (empty config : Router E H).Succeeds reordered ∧
    ((empty config : Router E H).run reordered).methods =
      ((empty config : Router E H).run calls).methods ∧
    ((empty config : Router E H).run reordered).routes =
      ((empty config : Router E H).run calls).routes ∧
    ((empty config : Router E H).run reordered).size =
      ((empty config : Router E H).run calls).size ∧
    (∀ method, Option.Rel Node.Similar (((empty config : Router E H).run calls).tree? method)
      (((empty config : Router E H).run reordered).tree? method)) ∧
    (∀ method,
      ((empty config : Router E H).run calls).SameOrder ((empty config).run reordered) method →
      ∀ path,
        ((empty config : Router E H).run reordered).matchRoute method path =
          ((empty config : Router E H).run calls).matchRoute method path ∧
        ((empty config : Router E H).run reordered).findHandler method path =
          ((empty config : Router E H).run calls).findHandler method path) ∧
    ∀ method, LoneExpressions method calls →
      ((empty config : Router E H).run calls).SameOrder ((empty config).run reordered) method := by
  have hrearranged := rearranged_run hsucceeds hperm
  refine ⟨hsucceeds.perm hperm, hrearranged.methods_eq, hrearranged.routes_eq, ?_,
    hrearranged.similar, ?_, fun method => hrearranged.sameOrder⟩
  · rw [size_eq_length_routes, size_eq_length_routes, hrearranged.routes_eq]
  · intro method horder path
    have hmatch : ((empty config : Router E H).run reordered).matchRoute method path =
        ((empty config : Router E H).run calls).matchRoute method path :=
      matchRoute_congr (hrearranged.tree?_eq horder) (by rw [run_config, run_config]) path
    refine ⟨hmatch, ?_⟩
    unfold findHandler
    rw [hmatch]

/-- Two expressions that stand side by side, and a route of another method. -/
def siblings : List (Call Nat) :=
  [⟨"GET", "/item/:id(new)", 0⟩, ⟨"GET", "/item/:key(old)/edit", 1⟩, ⟨"POST", "/item", 2⟩]

/-- With the expressions the other way round, the trees of `GET` are still similar, and the lookups
for `POST` are the same. -/
theorem run_perm_siblings :
    (empty default : Router Regex Nat).Succeeds siblings.reverse ∧
    ((empty default : Router Regex Nat).run siblings.reverse).routes =
      ((empty default : Router Regex Nat).run siblings).routes ∧
    Option.Rel Node.Similar (((empty default : Router Regex Nat).run siblings).tree? "GET")
      (((empty default : Router Regex Nat).run siblings.reverse).tree? "GET") ∧
    ∀ path, ((empty default : Router Regex Nat).run siblings.reverse).findHandler "POST" path =
      ((empty default : Router Regex Nat).run siblings).findHandler "POST" path := by
  have hsucceeds : (empty default : Router Regex Nat).Succeeds siblings := ⟨rfl, rfl, rfl, trivial⟩
  have hperm : siblings.Perm siblings.reverse := siblings.reverse_perm.symm
  have hlone : LoneExpressions "POST" siblings := by
    have hentries : entriesFor "POST" siblings = [(["item"], 2)] := rfl
    have hitem : ∀ {lead : List String} {text : String},
        text ∈ (entriesFor "POST" siblings).continuations lead → text = "item" := by
      intro lead text hmem
      obtain ⟨entry, hentry, htext⟩ := RouteList.exists_entry_of_mem_continuations hmem
      rw [hentries, List.mem_singleton] at hentry
      rw [hentry] at htext
      exact List.mem_singleton.mp htext
    intro lead text other htext hother _ _
    rw [hitem htext, hitem hother]
  obtain ⟨hagain, -, hroutes, -, hsimilar, hlookups, horder⟩ :=
    run_perm (E := Regex) default hsucceeds hperm
  exact ⟨hagain, hroutes, hsimilar "GET", fun path =>
    (hlookups "POST" (horder "POST" hlone) path).2⟩

end Router

end PathRouting
