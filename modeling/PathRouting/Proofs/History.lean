import PathRouting.Regex
import PathRouting.Router
import PathRouting.Proofs.Record
set_option autoImplicit false

/-!
# Routers and their history

A router is reached from an empty one by a run of registrations, some of which fail.  `Tracks` is
the invariant of such runs: the trees of the router are in order and are the record of the
registrations that succeeded.  `tracks_run` carries it along every run, and
`register_unchanged_of_error` says that a registration that fails leaves every part of the router as
it was.
-/

namespace PathRouting

variable {E H : Type}

/-! ## Runs -/

/-- What one registration is asked for. -/
structure Call (H : Type) where
  /-- the method -/
  method : String
  /-- the pattern -/
  pattern : String
  /-- the handler to bind -/
  handler : H
  deriving DecidableEq, Repr, Inhabited

/-- The routes that calls have registered for a method, oldest first. -/
def entriesFor (method : String) (calls : List (Call H)) : RouteList H :=
  calls.filterMap fun call =>
    if call.method = method then
      match Path.patternSegments call.pattern with
      | .ok segments => some (segments, call.handler)
      | .error _ => none
    else none

namespace Router

variable [Constraint E]

/-- What a call gives on a router. -/
def answer (router : Router E H) (call : Call H) : Registration E H :=
  router.register call.method call.pattern call.handler

/-- The router after a run of calls, whether or not they succeed. -/
def run (router : Router E H) : List (Call H) → Router E H
  | [] => router
  | call :: rest => (router.answer call).router.run rest

/-- The calls of a run that succeed, in order. -/
def accepted (router : Router E H) : List (Call H) → List (Call H)
  | [] => []
  | call :: rest =>
    match (router.answer call).outcome with
    | .ok () => call :: (router.answer call).router.accepted rest
    | .error _ => (router.answer call).router.accepted rest

/-- A router that some run leads to from an empty router. -/
def Reachable (router : Router E H) : Prop :=
  ∃ config calls, router = (empty config).run calls

/-- The trees of a router are in order, and are the record of the calls that succeeded. -/
structure Tracks (router : Router E H) (log : List (Call H)) : Prop where
  sorted : router.trees.Sorted
  kind_root : ∀ {method : String} {tree : Node E H},
    router.trees.get? method = some tree → tree.kind = .root
  wellFormed : ∀ {method : String} {tree : Node E H},
    router.trees.get? method = some tree → tree.WellFormed
  records : ∀ {method : String} {tree : Node E H},
    router.trees.get? method = some tree → tree.Records (entriesFor method log)
  known : ∀ method, (∃ tree, router.trees.get? method = some tree) ↔
    ∃ call ∈ log, call.method = method
  valid : ∀ call ∈ log, ∃ segments, Path.patternSegments call.pattern = .ok segments

end Router

/-! ## RouteList of a method -/

theorem mem_entriesFor {method : String} {calls : List (Call H)} {segments : List String}
    {handler : H} :
    (segments, handler) ∈ entriesFor method calls ↔
      ∃ call ∈ calls, call.method = method ∧ Path.patternSegments call.pattern = .ok segments ∧
        call.handler = handler := by
  unfold entriesFor
  rw [List.mem_filterMap]
  constructor
  · rintro ⟨call, hmem, hentry⟩
    split at hentry
    · next hmethod =>
      split at hentry
      · next parsed hparsed =>
        have hpair := Option.some.inj hentry
        rw [Prod.mk.injEq] at hpair
        exact ⟨call, hmem, hmethod, hpair.1 ▸ hparsed, hpair.2⟩
      · cases hentry
    · cases hentry
  · rintro ⟨call, hmem, hmethod, hparsed, hhandler⟩
    exact ⟨call, hmem, by rw [if_pos hmethod, hparsed, hhandler]⟩

theorem entriesFor_append_self {call : Call H} {segments : List String}
    (hparsed : Path.patternSegments call.pattern = .ok segments) (log : List (Call H)) :
    entriesFor call.method (log ++ [call]) =
      entriesFor call.method log ++ [(segments, call.handler)] := by
  simp [entriesFor, List.filterMap_append, hparsed]

theorem entriesFor_append_of_ne {call : Call H} {method : String} (hne : call.method ≠ method)
    (log : List (Call H)) : entriesFor method (log ++ [call]) = entriesFor method log := by
  simp [entriesFor, List.filterMap_append, hne]

theorem entriesFor_eq_nil {method : String} {calls : List (Call H)}
    (hunknown : ¬ ∃ call ∈ calls, call.method = method) : entriesFor method calls = [] := by
  refine List.eq_nil_iff_forall_not_mem.mpr ?_
  rintro ⟨segments, handler⟩ hmem
  obtain ⟨call, hcall, hmethod, -, -⟩ := mem_entriesFor.mp hmem
  exact hunknown ⟨call, hcall, hmethod⟩

namespace Router

variable [Constraint E]

/-! ## One registration -/

/-- The tree of a method, an empty one before its first registration. -/
def treeOrRoot (router : Router E H) (method : String) : Node E H :=
  (router.trees.get? method).getD .root

omit [Constraint E] in
theorem eq_ok_of_mapError_eq_ok {outcome : Except Obstacle Unit} {error : Obstacle → RouteError}
    (hok : outcome.mapError error = .ok ()) : outcome = .ok () := by
  cases outcome with
  | ok done => rfl
  | error obstacle => cases hok

/-- Before the first registration for a method, nothing is in the way in its tree. -/
theorem insert_treeOrRoot_ok {router : Router E H} {method above : String}
    (hunknown : router.trees.get? method = none) {segments : List String}
    {nodes : List (Node E H)} (hchain : Node.chain above segments = .ok nodes) (handler : H) :
    ((router.treeOrRoot method).insert handler nodes).2 = .ok () := by
  rw [treeOrRoot, hunknown]
  exact Node.insert_bare_ok hchain .root "/" "/"

/-- All that a registration can do. -/
theorem register_cases (router : Router E H) (method pattern : String) (handler : H) :
    (∃ fault, Path.patternSegments pattern = .error fault ∧
      (router.register method pattern handler).outcome = .error (.invalidPattern pattern fault) ∧
      (router.register method pattern handler).router = router) ∨
    (∃ segments bad, Path.patternSegments pattern = .ok segments ∧
      Node.chain (E := E) (H := H) "" segments = .error bad ∧
      (router.register method pattern handler).outcome =
        .error (.invalidRegex pattern bad.segment bad.reason) ∧
      (router.register method pattern handler).router = router) ∨
    (∃ segments nodes, Path.patternSegments pattern = .ok segments ∧
      Node.chain "" segments = .ok nodes ∧
      (router.register method pattern handler).outcome =
        ((router.treeOrRoot method).insert handler nodes).2.mapError
          (obstacleError method pattern) ∧
      (router.register method pattern handler).router =
        { router with
          trees := router.trees.insert method
            ((router.treeOrRoot method).insert handler nodes).1 }) := by
  cases hparsed : Path.patternSegments pattern with
  | error fault =>
    have hread : readPattern (E := E) (H := H) pattern =
        .error (.invalidPattern pattern fault) := by
      rw [readPattern, hparsed]
    exact Or.inl ⟨fault, rfl, by rw [register, hread], by rw [register, hread]⟩
  | ok segments =>
    cases hchain : Node.chain (E := E) (H := H) "" segments with
    | error bad =>
      have hread : readPattern (E := E) (H := H) pattern =
          .error (.invalidRegex pattern bad.segment bad.reason) := by
        rw [readPattern, hparsed]
        simp only [hchain]
      exact Or.inr (Or.inl ⟨segments, bad, rfl, hchain, by rw [register, hread],
        by rw [register, hread]⟩)
    | ok nodes =>
      have hread : readPattern (E := E) pattern = .ok nodes := by
        rw [readPattern, hparsed]
        simp only [hchain]
      exact Or.inr (Or.inr ⟨segments, nodes, rfl, hchain, by rw [register, hread]; rfl,
        by rw [register, hread]; rfl⟩)

/-! ## The invariant -/

theorem tracks_empty (config : Config) : (empty config : Router E H).Tracks [] where
  sorted := Table.sorted_empty
  kind_root := by
    intro method tree htree
    cases htree
  wellFormed := by
    intro method tree htree
    cases htree
  records := by
    intro method tree htree
    cases htree
  known := by
    intro method
    simp [empty]
  valid := by simp

namespace Tracks

variable {router : Router E H} {log : List (Call H)}

/-- The tree of a method is in order and keeps its record, also before its first registration. -/
theorem treeOrRoot (htracks : router.Tracks log) (method : String) :
    (router.treeOrRoot method).kind = .root ∧ (router.treeOrRoot method).WellFormed ∧
      (router.treeOrRoot method).Records (entriesFor method log) := by
  unfold Router.treeOrRoot
  cases htree : router.trees.get? method with
  | some tree => exact ⟨htracks.kind_root htree, htracks.wellFormed htree, htracks.records htree⟩
  | none =>
    have hunknown : ¬ ∃ call ∈ log, call.method = method := by
      rw [← htracks.known, htree]
      simp
    rw [entriesFor_eq_nil hunknown]
    exact ⟨rfl, Node.wellFormed_bare _ _ _, Node.records_bare _ _ _⟩

/-- A tree is made by the first call that succeeds, so it has routes. -/
theorem entriesFor_ne_nil (htracks : router.Tracks log) {method : String} {tree : Node E H}
    (htree : router.tree? method = some tree) : entriesFor method log ≠ [] := by
  obtain ⟨call, hcall, hmethod⟩ := (htracks.known method).mp ⟨tree, htree⟩
  obtain ⟨segments, hsegments⟩ := htracks.valid call hcall
  exact List.ne_nil_of_mem (mem_entriesFor.mpr ⟨call, hcall, hmethod, hsegments, rfl⟩)

/-- A registration that fails changes nothing. -/
theorem register_eq_self_of_error (htracks : router.Tracks log) {method pattern : String}
    {handler : H} {error : RouteError}
    (herror : (router.register method pattern handler).outcome = .error error) :
    (router.register method pattern handler).router = router := by
  rcases router.register_cases method pattern handler with
    ⟨fault, -, -, hsame⟩ | ⟨segments, bad, -, -, -, hsame⟩ |
      ⟨segments, nodes, -, hchain, houtcome, hrouter⟩
  · exact hsame
  · exact hsame
  · rw [houtcome] at herror
    rw [hrouter]
    cases hinsert : ((router.treeOrRoot method).insert handler nodes).2 with
    | ok done =>
      rw [hinsert] at herror
      cases herror
    | error obstacle =>
      cases htree : router.trees.get? method with
      | none =>
        rw [insert_treeOrRoot_ok htree hchain] at hinsert
        cases hinsert
      | some tree =>
        have hhere : router.treeOrRoot method = tree := by
          rw [Router.treeOrRoot, htree]
          rfl
        rw [hhere] at hinsert ⊢
        rw [Node.insert_eq_self_of_error (htracks.wellFormed htree) hchain hinsert,
          Table.insert_eq_self htracks.sorted htree]

/-- A registration that succeeds adds its call to the record. -/
theorem register_of_ok (htracks : router.Tracks log) {call : Call H}
    (hok : (router.answer call).outcome = .ok ()) :
    (router.answer call).router.Tracks (log ++ [call]) := by
  unfold answer at hok ⊢
  rcases router.register_cases call.method call.pattern call.handler with
    ⟨fault, -, houtcome, -⟩ | ⟨segments, bad, -, -, houtcome, -⟩ |
      ⟨segments, nodes, hparsed, hchain, houtcome, hrouter⟩
  · rw [houtcome] at hok
    cases hok
  · rw [houtcome] at hok
    cases hok
  · obtain ⟨hkind, hwell, hrecords⟩ := htracks.treeOrRoot call.method
    rw [houtcome] at hok
    have hinserted := eq_ok_of_mapError_eq_ok hok
    have hstem : (router.treeOrRoot call.method).stem = "" := by
      unfold Node.stem
      rw [hkind]
    have hsegments : ∀ text ∈ segments, Path.IsSegment text := fun text hmem =>
      Path.isSegment_of_patternSegments hparsed hmem
    rw [hrouter]
    refine ⟨Table.sorted_insert htracks.sorted _ _, ?_, ?_, ?_, ?_, ?_⟩
    · exact Table.forall_get?_insert (fun _ tree => tree.kind = .root)
        (by rw [Node.insert_kind, hkind]) fun _ htree => htracks.kind_root htree
    · exact Table.forall_get?_insert (fun _ tree => tree.WellFormed)
        (Node.wellFormed_insert hwell hsegments (hstem ▸ hchain) call.handler)
        fun _ htree => htracks.wellFormed htree
    · refine Table.forall_get?_insert
        (fun method (tree : Node E H) => tree.Records (entriesFor method (log ++ [call]))) ?_
        fun hmethod htree => ?_
      · rw [entriesFor_append_self hparsed]
        exact Node.records_insert hwell hrecords hchain hinserted
      · rw [entriesFor_append_of_ne (Ne.symm hmethod)]
        exact htracks.records htree
    · intro method
      rw [Table.get?_insert]
      split
      · next hmethod => simp [hmethod]
      · next hmethod =>
        rw [htracks.known method]
        simp [List.mem_append, or_and_right, exists_or, Ne.symm hmethod]
    · intro other hother
      rcases List.mem_append.mp hother with hold | hnew
      · exact htracks.valid other hold
      · rw [List.mem_singleton.mp hnew]
        exact ⟨segments, hparsed⟩

end Tracks

/-! ## Runs of registrations -/

/-- After a run, the trees are the record of the calls that succeeded. -/
theorem tracks_run {router : Router E H} {log : List (Call H)} (htracks : router.Tracks log)
    (calls : List (Call H)) : (router.run calls).Tracks (log ++ router.accepted calls) := by
  induction calls generalizing router log with
  | nil =>
    rw [run, accepted, List.append_nil]
    exact htracks
  | cons call rest ih =>
    rw [run, accepted]
    cases houtcome : (router.answer call).outcome with
    | ok done =>
      have hnext := ih (htracks.register_of_ok houtcome)
      rw [List.append_assoc] at hnext
      exact hnext
    | error error =>
      have hsame : (router.answer call).router = router :=
        htracks.register_eq_self_of_error houtcome
      rw [hsame]
      exact ih htracks

theorem tracks_of_run_empty (config : Config) (calls : List (Call H)) :
    ((empty config : Router E H).run calls).Tracks
      ((empty config : Router E H).accepted calls) :=
  tracks_run (tracks_empty config) calls

theorem Reachable.tracks {router : Router E H} (hreachable : router.Reachable) :
    ∃ log, router.Tracks log := by
  obtain ⟨config, calls, rfl⟩ := hreachable
  exact ⟨_, tracks_of_run_empty config calls⟩

/-- What holds of every tree, and of the root of an empty one, holds of every tree after a run when
insertions keep it. -/
theorem forall_tree_run (property : Node E H → Prop) (hroot : property .root)
    (hinsert : ∀ (node : Node E H) handler nodes,
      property node → property (node.insert handler nodes).1)
    {router : Router E H}
    (hhere : ∀ {method tree}, router.trees.get? method = some tree → property tree)
    (calls : List (Call H)) {method : String} {tree : Node E H}
    (htree : (router.run calls).trees.get? method = some tree) : property tree := by
  induction calls generalizing router with
  | nil => exact hhere htree
  | cons call rest ih =>
    refine ih ?_ htree
    intro method tree hnext
    rw [answer] at hnext
    rcases router.register_cases call.method call.pattern call.handler with
      ⟨fault, -, -, hsame⟩ | ⟨segments, bad, -, -, -, hsame⟩ | ⟨segments, nodes, -, -, -, hrouter⟩
    · exact hhere (hsame ▸ hnext)
    · exact hhere (hsame ▸ hnext)
    · rw [hrouter] at hnext
      refine Table.forall_get?_insert (fun _ tree => property tree) (hinsert _ _ _ ?_)
        (fun _ hold => hhere hold) hnext
      rw [treeOrRoot]
      cases hold : router.trees.get? call.method with
      | none => exact hroot
      | some tree => exact hhere hold

/-- Every tree has its root at `/`. -/
theorem Reachable.root_eq {router : Router E H} (hreachable : router.Reachable) {method : String}
    {tree : Node E H} (htree : router.tree? method = some tree) :
    tree.kind = .root ∧ tree.segment = "/" ∧ tree.fullRoute = "/" := by
  obtain ⟨config, calls, rfl⟩ := hreachable
  refine forall_tree_run
    (fun tree => tree.kind = .root ∧ tree.segment = "/" ∧ tree.fullRoute = "/")
    ⟨rfl, rfl, rfl⟩ ?_ ?_ calls htree
  · intro node handler nodes hnode
    rw [Node.insert_kind, Node.insert_segment, Node.insert_fullRoute]
    exact hnode
  · intro method tree hempty
    cases hempty

theorem register_config (router : Router E H) (method pattern : String) (handler : H) :
    (router.register method pattern handler).router.config = router.config := by
  rcases router.register_cases method pattern handler with
    ⟨fault, -, -, hsame⟩ | ⟨segments, bad, -, -, -, hsame⟩ | ⟨segments, nodes, -, -, -, hrouter⟩
  · rw [hsame]
  · rw [hsame]
  · rw [hrouter]

theorem run_config (router : Router E H) (calls : List (Call H)) :
    (router.run calls).config = router.config := by
  induction calls generalizing router with
  | nil => rfl
  | cons call rest ih => rw [run, ih, answer, register_config]

/-- Lookups for a method depend on its tree and on the options for matching. -/
theorem matchRoute_congr {router other : Router E H} {method : String}
    (htree : other.tree? method = router.tree? method) (hconfig : other.config = router.config)
    (path : String) : other.matchRoute method path = router.matchRoute method path := by
  unfold tree? at htree
  unfold matchRoute
  rw [htree, hconfig]

/-! ## Failures -/

/-- A registration that fails, by method or by verb, leaves every part of the router as it was. -/
theorem register_unchanged_of_error {router : Router E H} (hreachable : router.Reachable)
    (pattern : String) (handler : H) (error : RouteError) :
    (∀ method, (router.register method pattern handler).outcome = .error error →
      (router.register method pattern handler).router = router) ∧
    (∀ verb, (router.registerVerb verb pattern handler).outcome = .error error →
      (router.registerVerb verb pattern handler).router = router) := by
  obtain ⟨log, htracks⟩ := hreachable.tracks
  refine ⟨fun method herror => ?_, fun verb herror => ?_⟩
  · exact htracks.register_eq_self_of_error herror
  · have hmethod : (router.register verb.method pattern handler).outcome = .error error := herror
    exact htracks.register_eq_self_of_error hmethod

/-- The wildcard is met below a segment that is there, by its method and by its verb. -/
theorem register_unchanged_beside_wildcard :
    (((empty default : Router Regex Nat).run [⟨"GET", "/a/*", 0⟩]).register
        "GET" "/a/:id/deeper" 1).outcome = .error (.conflict "/a/:id/deeper" "*" ":id") ∧
      (((empty default : Router Regex Nat).run [⟨"GET", "/a/*", 0⟩]).register
        "GET" "/a/:id/deeper" 1).router = (empty default).run [⟨"GET", "/a/*", 0⟩] ∧
      (((empty default : Router Regex Nat).run [⟨"GET", "/a/*", 0⟩]).registerVerb
        .get "/a/:id/deeper" 1).router = (empty default).run [⟨"GET", "/a/*", 0⟩] := by
  have hreachable : ((empty default : Router Regex Nat).run [⟨"GET", "/a/*", 0⟩]).Reachable :=
    ⟨default, _, rfl⟩
  have herror : (((empty default : Router Regex Nat).run [⟨"GET", "/a/*", 0⟩]).register
      "GET" "/a/:id/deeper" 1).outcome = .error (.conflict "/a/:id/deeper" "*" ":id") := by
    rfl
  obtain ⟨hmethod, hverb⟩ := register_unchanged_of_error hreachable "/a/:id/deeper" 1
    (.conflict "/a/:id/deeper" "*" ":id")
  exact ⟨herror, hmethod "GET" herror, hverb .get herror⟩

end Router

end PathRouting
