import PathRouting.Proofs.Listing
set_option autoImplicit false

/-!
# The log of a router

Whatever is asked of a router, it reports what it did.  A registration announces the tree of its
method before it walks down that tree, and the walk can fail; but in a tree that was just made
nothing is in the way (`insert_treeOrRoot_ok`), so no tree is announced that is not kept.  From the
report of one action (`Tracks.action_cases`) follows what the log of a whole run contains
(`Tracks.log_announced`, `Tracks.log_registered`): `log_truthful` reads the methods and the number
of routes of a router off its log.  What the log says is said in words: `Event.Shown` and
`RouteError.Reads` spell out the texts, one rule for each kind of event and of error.
-/

namespace PathRouting

variable {E H : Type}

/-! ## Actions -/

/-- Something that is asked of a router. -/
inductive Action (H : Type) where
  /-- to register a route -/
  | register (call : Call H)
  /-- to look a path up -/
  | matchRoute (method path : String)
  /-- to look up the handler for a path -/
  | findHandler (method path : String)
  deriving DecidableEq, Repr, Inhabited

/-- The registration that an action asks for. -/
def Action.call? : Action H → Option (Call H)
  | .register call => some call
  | .matchRoute _ _ => none
  | .findHandler _ _ => none

/-- The registrations among some actions, in order. -/
def Action.calls (actions : List (Action H)) : List (Call H) :=
  actions.filterMap Action.call?

/-! ## Words -/

/-- What is said of a malformed pattern. -/
inductive PatternFault.Reads : PatternFault → String → Prop where
  | empty : Reads .empty "pattern is empty"
  | missingLeadingSlash : Reads .missingLeadingSlash "pattern must start with '/'"
  | trailingSlash : Reads .trailingSlash "pattern must not end with '/'"
  | emptySegment : Reads .emptySegment "pattern must not contain empty segments ('//')"

/-- What is said of a refused registration.  The fault of a pattern and the reason that a compiler
gives come after a colon. -/
inductive RouteError.Reads : RouteError → String → Prop where
  | invalidPattern (pattern : String) {fault : PatternFault} {text : String}
      (hfault : fault.Reads text) :
      Reads (.invalidPattern pattern fault) ("invalid route pattern `" ++ pattern ++ "`: " ++ text)
  | invalidRegex (pattern segment reason : String) :
      Reads (.invalidRegex pattern segment reason)
        ("invalid regex in segment `" ++ segment ++ "` of route `" ++ pattern ++ "`: " ++ reason)
  | conflict (pattern existing incoming : String) :
      Reads (.conflict pattern existing incoming)
        ("route `" ++ pattern ++ "` conflicts: segment `" ++ incoming
          ++ "` cannot be registered alongside existing `" ++ existing ++ "`")
  | duplicate (method pattern : String) :
      Reads (.duplicate method pattern)
        ("route `" ++ pattern ++ "` is already registered for method " ++ method)

theorem PatternFault.reads_message (fault : PatternFault) : fault.Reads fault.message := by
  cases fault with
  | empty => exact .empty
  | missingLeadingSlash => exact .missingLeadingSlash
  | trailingSlash => exact .trailingSlash
  | emptySegment => exact .emptySegment

theorem RouteError.reads_message (error : RouteError) : error.Reads error.message := by
  cases error with
  | invalidPattern pattern fault => exact .invalidPattern pattern fault.reads_message
  | invalidRegex pattern segment reason => exact .invalidRegex pattern segment reason
  | conflict pattern existing incoming => exact .conflict pattern existing incoming
  | duplicate method pattern => exact .duplicate method pattern

namespace Event

/-- How an event is shown: its level, its text and its named details. -/
inductive Shown : Event → Level → String → List (String × String) → Prop where
  | treeCreated (method : String) :
      Shown (.treeCreated method) .debug "created routing tree" [("method", method)]
  | routeRegistered (method pattern : String) :
      Shown (.routeRegistered method pattern) .debug "registered route"
        [("method", method), ("pattern", pattern)]
  | routeRejected (method pattern reason : String) :
      Shown (.routeRejected method pattern reason) .warn "rejected route"
        [("method", method), ("pattern", pattern), ("error", reason)]
  | methodUnknown (method path : String) :
      Shown (.methodUnknown method path) .trace "no routes for method"
        [("method", method), ("path", path)]
  | routeMatched (method path route : String) :
      Shown (.routeMatched method path route) .trace "matched route"
        [("method", method), ("path", path), ("route", route)]
  | routeMissed (method path : String) :
      Shown (.routeMissed method path) .trace "no matching route"
        [("method", method), ("path", path)]

theorem shown (event : Event) : event.Shown event.level event.message event.fields := by
  cases event with
  | treeCreated method => exact .treeCreated method
  | routeRegistered method pattern => exact .routeRegistered method pattern
  | routeRejected method pattern reason => exact .routeRejected method pattern reason
  | methodUnknown method path => exact .methodUnknown method path
  | routeMatched method path route => exact .routeMatched method path route
  | routeMissed method path => exact .routeMissed method path

/-! ## What an event tells -/

/-- The method whose tree an event announces. -/
def announced? : Event → Option String
  | treeCreated method => some method
  | routeRegistered _ _ => none
  | routeRejected _ _ _ => none
  | methodUnknown _ _ => none
  | routeMatched _ _ _ => none
  | routeMissed _ _ => none

/-- The method and the pattern that an event reports as registered. -/
def registered? : Event → Option (String × String)
  | routeRegistered method pattern => some (method, pattern)
  | treeCreated _ => none
  | routeRejected _ _ _ => none
  | methodUnknown _ _ => none
  | routeMatched _ _ _ => none
  | routeMissed _ _ => none

end Event

namespace Router

variable [Constraint E]

/-- The router after an action. -/
def next (router : Router E H) : Action H → Router E H
  | .register call => (router.answer call).router
  | .matchRoute _ _ => router
  | .findHandler _ _ => router

/-- What a router reports about an action. -/
def report (router : Router E H) : Action H → List Event
  | .register call => (router.answer call).events
  | .matchRoute method path => (router.matchRoute method path).events
  | .findHandler method path => (router.findHandler method path).events

/-- The router after a run of actions. -/
def serve (router : Router E H) : List (Action H) → Router E H
  | [] => router
  | action :: rest => (router.next action).serve rest

/-- All that a router reports during a run of actions, in order. -/
def log (router : Router E H) : List (Action H) → List Event
  | [] => []
  | action :: rest => router.report action ++ (router.next action).log rest

/-- Lookups leave a router as it is. -/
theorem serve_eq_run (router : Router E H) (actions : List (Action H)) :
    router.serve actions = router.run (Action.calls actions) := by
  induction actions generalizing router with
  | nil => rfl
  | cons action rest ih =>
    rw [serve, ih]
    cases action with
    | register call => rfl
    | matchRoute method path => rfl
    | findHandler method path => rfl

/-! ## The report of a registration -/

theorem chain_of_readPattern {pattern : String} {nodes : List (Node E H)}
    (hread : readPattern pattern = .ok nodes) :
    ∃ segments, Node.chain "" segments = .ok nodes := by
  unfold readPattern at hread
  split at hread
  · cases hread
  · next segments _ =>
    split at hread
    · cases hread
    · next nodes' hchain => exact ⟨segments, (Except.ok.inj hread) ▸ hchain⟩

/-- A registration that succeeds reports itself, after the tree that it made. -/
theorem events_of_ok {router : Router E H} {method pattern : String} {handler : H}
    (hok : (router.register method pattern handler).outcome = .ok ()) :
    (router.register method pattern handler).events =
      (if router.trees.contains method then [] else [.treeCreated method]) ++
        [.routeRegistered method pattern] := by
  unfold register at hok ⊢
  cases hread : readPattern (E := E) (H := H) pattern with
  | error error =>
    rw [hread] at hok
    cases hok
  | ok nodes =>
    simp only [hread] at hok ⊢
    rw [hok]
    rfl

/-- A registration that fails reports its error and nothing else: had it made the tree, it would not
have failed. -/
theorem events_of_error {router : Router E H} {method pattern : String} {handler : H}
    {error : RouteError}
    (herror : (router.register method pattern handler).outcome = .error error) :
    (router.register method pattern handler).events =
      [.routeRejected method pattern error.message] := by
  unfold register at herror ⊢
  cases hread : readPattern (E := E) (H := H) pattern with
  | error fault =>
    rw [hread] at herror
    cases herror
    rfl
  | ok nodes =>
    simp only [hread] at herror ⊢
    have hmade : (router.registerNodes method pattern nodes handler).events =
        if router.trees.contains method then [] else [.treeCreated method] := rfl
    have houtcome : (router.registerNodes method pattern nodes handler).outcome =
        ((router.treeOrRoot method).insert handler nodes).2.mapError
          (obstacleError method pattern) := rfl
    by_cases hknown : router.trees.contains method = true
    · rw [herror, hmade, if_pos hknown]
      rfl
    · obtain ⟨segments, hchain⟩ := chain_of_readPattern hread
      have hunknown := Table.get?_eq_none_of_not_contains hknown
      rw [houtcome, insert_treeOrRoot_ok hunknown hchain] at herror
      cases herror

/-! ## The report of a lookup -/

/-- What a lookup reports: one event, which says that the method is unknown, or where the path led,
whether or not a handler is bound there, or that it led nowhere. -/
def ReportsLookup (router : Router E H) (method path : String) (events : List Event) : Prop :=
  ∃ event, events = [event] ∧ event.level = .trace ∧
    event.fields.take 2 = [("method", method), ("path", path)] ∧
    (event = .methodUnknown method path ↔ method ∉ router.methods) ∧
    (∀ found, (router.matchRoute method path).answer = some found →
      event = .routeMatched method path found.fullRoute) ∧
    (method ∈ router.methods → (router.matchRoute method path).answer = none →
      event = .routeMissed method path)

/-- What a router reports about an action is true, `earlier` being the registrations that succeeded
before it. -/
def Truthful (router : Router E H) (earlier : List (Call H)) (events : List Event) :
    Action H → Prop
  | .register call =>
    ((router.answer call).outcome = .ok () →
      (call.method ∈ earlier.map (·.method) ∧
        events = [.routeRegistered call.method call.pattern]) ∨
      (call.method ∉ earlier.map (·.method) ∧
        events = [.treeCreated call.method, .routeRegistered call.method call.pattern])) ∧
    ∀ error, (router.answer call).outcome = .error error →
      ∃ text, error.Reads text ∧ events = [.routeRejected call.method call.pattern text]
  | .matchRoute method path => router.ReportsLookup method path events
  | .findHandler method path => router.ReportsLookup method path events

theorem ReportsLookup.registers_nothing {router : Router E H} {method path : String}
    {events : List Event} (hreports : router.ReportsLookup method path events) :
    events.filterMap Event.registered? = [] ∧ events.filterMap Event.announced? = [] := by
  obtain ⟨event, rfl, htrace, -⟩ := hreports
  cases event with
  | treeCreated method => cases htrace
  | routeRegistered method pattern => cases htrace
  | routeRejected method pattern reason => cases htrace
  | methodUnknown method path => exact ⟨rfl, rfl⟩
  | routeMatched method path route => exact ⟨rfl, rfl⟩
  | routeMissed method path => exact ⟨rfl, rfl⟩

namespace Tracks

variable {router : Router E H} {known : List (Call H)}

theorem contains_iff (htracks : router.Tracks known) (method : String) :
    router.trees.contains method = true ↔ method ∈ known.map (·.method) := by
  rw [List.mem_map, ← htracks.known, Table.contains, Option.isSome_iff_exists]

theorem reportsLookup (htracks : router.Tracks known) (method path : String) :
    router.ReportsLookup method path (router.matchRoute method path).events := by
  have hmem : method ∈ router.methods ↔ ∃ tree, router.trees.get? method = some tree :=
    (htracks.mem_methods_iff method).trans (htracks.known method).symm
  unfold ReportsLookup matchRoute
  rw [hmem]
  cases router.trees.get? method with
  | none => exact ⟨.methodUnknown method path, rfl, rfl, rfl, by simp, by simp, by simp⟩
  | some tree =>
    simp only
    cases tree.search router.config.wildcardMode (Path.requestSegments path) .empty with
    | mk found captures =>
      cases found with
      | none => exact ⟨.routeMissed method path, rfl, rfl, rfl, by simp, by simp, by simp⟩
      | some node =>
        refine ⟨.routeMatched method path node.fullRoute, rfl, rfl, rfl, by simp, ?_, by simp⟩
        intro found hfound
        rw [← Option.some.inj hfound]
        rfl

/-- Every report is true. -/
theorem truthful (htracks : router.Tracks known) (action : Action H) :
    router.Truthful known (router.report action) action := by
  cases action with
  | register call =>
    refine ⟨fun hok => ?_, fun error herror =>
      ⟨error.message, error.reads_message, events_of_error herror⟩⟩
    have hevents := events_of_ok hok
    by_cases hknown : call.method ∈ known.map (·.method)
    · rw [if_pos ((htracks.contains_iff call.method).mpr hknown)] at hevents
      exact Or.inl ⟨hknown, hevents⟩
    · rw [if_neg fun hcontains => hknown ((htracks.contains_iff call.method).mp hcontains)]
        at hevents
      exact Or.inr ⟨hknown, hevents⟩
  | matchRoute method path => exact htracks.reportsLookup method path
  | findHandler method path => exact htracks.reportsLookup method path

/-! ## The log of a run -/

/-- All that one action can do: register a route, and report it with the tree that was made for it,
or leave the router alone and report neither a route nor a tree. -/
theorem action_cases (htracks : router.Tracks known) (action : Action H) (rest : List (Action H)) :
    (∃ call, (router.next action).Tracks (known ++ [call]) ∧
      router.accepted (Action.calls (action :: rest)) =
        call :: (router.next action).accepted (Action.calls rest) ∧
      (router.report action).filterMap Event.registered? = [call.route] ∧
      (call.method ∈ known.map (·.method) ∧
          (router.report action).filterMap Event.announced? = [] ∨
        call.method ∉ known.map (·.method) ∧
          (router.report action).filterMap Event.announced? = [call.method])) ∨
    (router.next action = router ∧
      router.accepted (Action.calls (action :: rest)) = router.accepted (Action.calls rest) ∧
      (router.report action).filterMap Event.registered? = [] ∧
      (router.report action).filterMap Event.announced? = []) := by
  have htruthful := htracks.truthful action
  cases action with
  | register call =>
    obtain ⟨hregistered, hrejected⟩ := htruthful
    have hcalls : Action.calls (.register call :: rest) = call :: Action.calls rest := rfl
    rw [hcalls, accepted]
    cases houtcome : (router.answer call).outcome with
    | ok done =>
      refine Or.inl ⟨call, htracks.register_of_ok houtcome, rfl, ?_⟩
      rcases hregistered houtcome with ⟨hknown, hevents⟩ | ⟨hunknown, hevents⟩
      · rw [hevents]
        exact ⟨rfl, Or.inl ⟨hknown, rfl⟩⟩
      · rw [hevents]
        exact ⟨rfl, Or.inr ⟨hunknown, rfl⟩⟩
    | error error =>
      have hsame : (router.answer call).router = router :=
        htracks.register_eq_self_of_error houtcome
      obtain ⟨text, -, hevents⟩ := hrejected error houtcome
      rw [hevents]
      exact Or.inr ⟨hsame, by rw [hsame], rfl, rfl⟩
  | matchRoute method path => exact Or.inr ⟨rfl, rfl, htruthful.registers_nothing⟩
  | findHandler method path => exact Or.inr ⟨rfl, rfl, htruthful.registers_nothing⟩

/-- The log of a run reports the registrations that succeeded, in their order. -/
theorem log_registered (htracks : router.Tracks known) (actions : List (Action H)) :
    (router.log actions).filterMap Event.registered? =
      (router.accepted (Action.calls actions)).map Call.route := by
  induction actions generalizing router known with
  | nil => rfl
  | cons action rest ih =>
    rw [log, List.filterMap_append]
    rcases htracks.action_cases action rest with
      ⟨call, hnext, haccepted, hregistered, -⟩ | ⟨hsame, haccepted, hregistered, -⟩
    · rw [ih hnext, haccepted, hregistered]
      rfl
    · rw [hsame, ih htracks, haccepted, hregistered]
      rfl

/-- The log of a run announces a tree for each method that gets its first route, once. -/
theorem log_announced (htracks : router.Tracks known) (actions : List (Action H)) :
    ((router.log actions).filterMap Event.announced?).Nodup ∧
      ∀ method, method ∈ (router.log actions).filterMap Event.announced? ↔
        method ∈ (router.accepted (Action.calls actions)).map (·.method) ∧
          method ∉ known.map (·.method) := by
  induction actions generalizing router known with
  | nil => exact ⟨List.nodup_nil, by simp [log, Action.calls, accepted]⟩
  | cons action rest ih =>
    rw [log, List.filterMap_append]
    rcases htracks.action_cases action rest with
      ⟨call, hnext, haccepted, -, hannounced⟩ | ⟨hsame, haccepted, -, hannounced⟩
    · obtain ⟨hnodup, hmem⟩ := ih hnext
      simp only [List.map_append, List.map_cons, List.map_nil, List.mem_append,
        List.mem_singleton, not_or] at hmem
      rw [haccepted, List.map_cons]
      rcases hannounced with ⟨hknown, hannounced⟩ | ⟨hunknown, hannounced⟩
      · rw [hannounced, List.nil_append]
        refine ⟨hnodup, fun method => ?_⟩
        rw [hmem, List.mem_cons]
        constructor
        · rintro ⟨hlater, hnot, -⟩
          exact ⟨Or.inr hlater, hnot⟩
        · rintro ⟨rfl | hlater, hnot⟩
          · exact absurd hknown hnot
          · exact ⟨hlater, hnot, fun hsame => hnot (hsame ▸ hknown)⟩
      · rw [hannounced, List.singleton_append, List.nodup_cons]
        refine ⟨⟨fun hagain => ((hmem _).mp hagain).2.2 rfl, hnodup⟩, fun method => ?_⟩
        rw [List.mem_cons, List.mem_cons, hmem]
        constructor
        · rintro (rfl | ⟨hlater, hnot, -⟩)
          · exact ⟨Or.inl rfl, hunknown⟩
          · exact ⟨Or.inr hlater, hnot⟩
        · rintro ⟨hmethod, hnot⟩
          by_cases hsame : method = call.method
          · exact Or.inl hsame
          · exact Or.inr ⟨hmethod.resolve_left hsame, hnot, hsame⟩
    · rw [hsame, haccepted, hannounced, List.nil_append]
      exact ih htracks

end Tracks

/-- The log of a run tells the truth.  A registration that succeeds reports its route, and the tree
of its method if it is the first to succeed for it; one that fails reports its error only, in the
words for it; a lookup reports where it led.  So the trees that are announced are those of the
methods of the router, each announced once, and the routes that are reported are as many as the
router has. -/
theorem log_truthful (config : Config) (actions : List (Action H)) :
    (∀ before action after, actions = before ++ action :: after →
      ((empty config : Router E H).serve before).Truthful
        ((empty config : Router E H).accepted (Action.calls before))
        (((empty config : Router E H).serve before).report action) action) ∧
    (∀ event ∈ (empty config : Router E H).log actions,
      event.Shown event.level event.message event.fields) ∧
    (((empty config : Router E H).log actions).filterMap Event.announced?).Nodup ∧
    (∀ method, method ∈ ((empty config : Router E H).log actions).filterMap Event.announced? ↔
      method ∈ ((empty config : Router E H).serve actions).methods) ∧
    (((empty config : Router E H).log actions).filterMap Event.registered?).length =
      ((empty config : Router E H).serve actions).size := by
  have hempty := tracks_empty (E := E) (H := H) config
  have htracks := tracks_of_run_empty (E := E) config (Action.calls actions)
  have hlog := hempty.pairwise_accepted List.Pairwise.nil (Action.calls actions)
  obtain ⟨hnodup, hannounced⟩ := hempty.log_announced actions
  refine ⟨?_, fun event _ => event.shown, hnodup, fun method => ?_, ?_⟩
  · intro before action after _
    rw [serve_eq_run]
    exact (tracks_of_run_empty config (Action.calls before)).truthful action
  · rw [hannounced, serve_eq_run, htracks.mem_methods_iff, List.mem_map]
    simp
  · rw [hempty.log_registered, serve_eq_run, size_eq_length_routes,
      (htracks.routes_perm hlog ⟨config, _, rfl⟩).length_eq]

end Router

end PathRouting
