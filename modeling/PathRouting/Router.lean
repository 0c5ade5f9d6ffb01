import PathRouting.Event
import PathRouting.Node.Insert
import PathRouting.Node.Listing
import PathRouting.Node.Search
import PathRouting.RouteError
set_option autoImplicit false

/-!
# The router

A router keeps one routing tree for each method.  Methods are opaque texts: any text is one, and its
tree is made by its first registration.  Registering gives a new router, an outcome and the events
to report; matching leaves the router as it is.
-/

namespace PathRouting

/-- One routing tree per method, and the options for matching. -/
structure Router (E H : Type) where
  /-- the root of the tree of each method -/
  trees : Table (Node E H)
  /-- the options for matching -/
  config : Config

/-- What a registration gives. -/
structure Registration (E H : Type) where
  /-- the router afterwards -/
  router : Router E H
  /-- whether the route was registered -/
  outcome : Except RouteError Unit
  /-- the events to report, in order -/
  events : List Event

/-- What a registration gives that passes its router on: there is a router to go on with only when
it succeeds. -/
structure Extension (E H : Type) where
  /-- the router with the new route, or why there is none -/
  outcome : Except RouteError (Router E H)
  /-- the events to report, in order -/
  events : List Event

/-- A node that a path leads to, and what was captured on the way. -/
structure RouteMatch (E H : Type) where
  /-- the node, which may be one that is only passed through -/
  node : Node E H
  /-- the captured texts -/
  params : Captures

namespace RouteMatch

variable {E H : Type}

/-- The handler bound to the node. -/
def handler (found : RouteMatch E H) : Option H := found.node.handler

/-- Can the match be dispatched?  A node that is only passed through is found, but has no handler.
-/
def isRoutable (found : RouteMatch E H) : Bool := found.node.handler.isSome

/-- The pattern of the node. -/
def fullRoute (found : RouteMatch E H) : String := found.node.fullRoute

/-- The text captured under a name; of two segments with one name the deeper one counts. -/
def param? (found : RouteMatch E H) (name : String) : Option String := found.params.get? name

end RouteMatch

/-- What a lookup gives: an answer, if there is one, and the events to report. -/
structure Lookup (α : Type) where
  /-- the answer -/
  answer : Option α
  /-- the events to report, in order -/
  events : List Event

/-- The verbs that have a registration of their own. -/
inductive Verb where
  | get
  | post
  | put
  | delete
  | patch
  deriving DecidableEq, Repr, Inhabited

/-- The method that a verb stands for. -/
def Verb.method : Verb → String
  | .get => "GET"
  | .post => "POST"
  | .put => "PUT"
  | .delete => "DELETE"
  | .patch => "PATCH"

namespace Router

variable {E H : Type}

/-- A router without routes. -/
def empty (config : Config) : Router E H := ⟨.empty, config⟩

instance : Inhabited (Router E H) := ⟨empty default⟩

/-! ## Registration -/

/-- The error that an obstacle in a tree amounts to. -/
def obstacleError (method pattern : String) : Obstacle → RouteError
  | .sibling existing incoming => .conflict pattern existing incoming
  | .occupied => .duplicate method pattern

/-- Reads a pattern into bare nodes.  A malformed pattern is reported before a bad expression. -/
def readPattern [Constraint E] (pattern : String) : Except RouteError (List (Node E H)) :=
  match Path.patternSegments pattern with
  | .error fault => .error (.invalidPattern pattern fault)
  | .ok segments =>
    match Node.chain "" segments with
    | .error bad => .error (.invalidRegex pattern bad.segment bad.reason)
    | .ok nodes => .ok nodes

/-- Registers along bare nodes in the tree of the method, which is made when there is none yet.  The
tree is put back whatever the outcome. -/
def registerNodes (router : Router E H) (method pattern : String) (nodes : List (Node E H))
    (handler : H) : Registration E H :=
  let made : List Event := if router.trees.contains method then [] else [.treeCreated method]
  let (tree, outcome) := ((router.trees.get? method).getD .root).insert handler nodes
  { router := { router with trees := router.trees.insert method tree }
    outcome := outcome.mapError (obstacleError method pattern)
    events := made }

/-- Binds a handler to a method and a pattern. -/
def register [Constraint E] (router : Router E H) (method pattern : String) (handler : H) :
    Registration E H :=
  let result : Registration E H :=
    match readPattern pattern with
    | .error error => { router := router, outcome := .error error, events := [] }
    | .ok nodes => router.registerNodes method pattern nodes handler
  let report : Event :=
    match result.outcome with
    | .ok () => .routeRegistered method pattern
    | .error error => .routeRejected method pattern error.message
  { result with events := result.events ++ [report] }

/-- Binds a handler to a method and a pattern, and passes the router on. -/
def withRoute [Constraint E] (router : Router E H) (method pattern : String) (handler : H) :
    Extension E H :=
  let done := router.register method pattern handler
  { outcome :=
      match done.outcome with
      | .ok () => .ok done.router
      | .error error => .error error
    events := done.events }

/-- Binds a handler to a pattern for the method of a verb. -/
def registerVerb [Constraint E] (router : Router E H) (verb : Verb) (pattern : String)
    (handler : H) : Registration E H :=
  router.register verb.method pattern handler

/-! ## Matching -/

/-- The node that a path leads to in the tree of a method. -/
def matchRoute [Constraint E] (router : Router E H) (method path : String) :
    Lookup (RouteMatch E H) :=
  match router.trees.get? method with
  | none => ⟨none, [.methodUnknown method path]⟩
  | some tree =>
    match tree.search router.config.wildcardMode (Path.requestSegments path) .empty with
    | (some node, captures) =>
      ⟨some ⟨node, captures⟩, [.routeMatched method path node.fullRoute]⟩
    | (none, _) => ⟨none, [.routeMissed method path]⟩

/-- The handler that a path leads to, with what was captured on the way. -/
def findHandler [Constraint E] (router : Router E H) (method path : String) :
    Lookup (H × Captures) :=
  let lookup := router.matchRoute method path
  ⟨lookup.answer.bind fun found => found.handler.map fun handler => (handler, found.params),
    lookup.events⟩

/-! ## Introspection -/

/-- The root of the tree of a method. -/
def tree? (router : Router E H) (method : String) : Option (Node E H) :=
  router.trees.get? method

/-- The methods that have a tree, in ascending order. -/
def methods (router : Router E H) : List String :=
  router.trees.keys

/-- The order of listed routes: by method, then by pattern. -/
def routeBefore (a b : String × String) : Bool :=
  a.1 < b.1 || (a.1 = b.1 && !(b.2 < a.2))

/-- Every registered method and pattern, in ascending order. -/
def routes (router : Router E H) : List (String × String) :=
  (router.trees.entries.flatMap fun (method, tree) =>
    tree.routed.map fun node => (method, node.fullRoute)).mergeSort routeBefore

/-- The number of registered routes. -/
def size (router : Router E H) : Nat :=
  (router.trees.values.map fun tree => tree.routed.length).foldr (· + ·) 0

/-- Is no route registered? -/
def isEmpty (router : Router E H) : Bool :=
  router.size = 0

end Router

end PathRouting
