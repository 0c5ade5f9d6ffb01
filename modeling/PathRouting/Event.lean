set_option autoImplicit false

/-!
# Events

What a router reports while it works.  Every registration and every match reports itself, and the
tree of a method is announced once, when its first route is registered.
-/

namespace PathRouting

/-- How much attention an event asks for. -/
inductive Level where
  | trace
  | debug
  | warn
  deriving DecidableEq, Repr, Inhabited

/-- The name of a level. -/
def Level.name : Level → String
  | .trace => "trace"
  | .debug => "debug"
  | .warn => "warn"

/-- Something a router reports. -/
inductive Event where
  /-- the first registration for a method made its tree -/
  | treeCreated (method : String)
  /-- a route was registered -/
  | routeRegistered (method pattern : String)
  /-- a registration was refused, for the reason given in words -/
  | routeRejected (method pattern reason : String)
  /-- a path was looked up for a method that has no tree -/
  | methodUnknown (method path : String)
  /-- a path led to the node of the given route -/
  | routeMatched (method path route : String)
  /-- a path led nowhere in the tree of its method -/
  | routeMissed (method path : String)
  deriving DecidableEq, Repr, Inhabited

namespace Event

/-- The level of an event: matching is traced, registration is logged, and a refusal is a warning.
-/
def level : Event → Level
  | treeCreated _ => .debug
  | routeRegistered _ _ => .debug
  | routeRejected _ _ _ => .warn
  | methodUnknown _ _ => .trace
  | routeMatched _ _ _ => .trace
  | routeMissed _ _ => .trace

/-- The text of an event. -/
def message : Event → String
  | treeCreated _ => "created routing tree"
  | routeRegistered _ _ => "registered route"
  | routeRejected _ _ _ => "rejected route"
  | methodUnknown _ _ => "no routes for method"
  | routeMatched _ _ _ => "matched route"
  | routeMissed _ _ => "no matching route"

/-- The named details of an event. -/
def fields : Event → List (String × String)
  | treeCreated method => [("method", method)]
  | routeRegistered method pattern => [("method", method), ("pattern", pattern)]
  | routeRejected method pattern reason =>
    [("method", method), ("pattern", pattern), ("error", reason)]
  | methodUnknown method path => [("method", method), ("path", path)]
  | routeMatched method path route => [("method", method), ("path", path), ("route", route)]
  | routeMissed method path => [("method", method), ("path", path)]

end Event

end PathRouting
