import EndpointGate.Route
import EndpointGate.Router.Table

/-!
# Routers

A router is put together by steps: routes, routers nested under a base path, and routers merged. It
remembers the routes as they were registered, with the base paths in front, beside its routing table.
-/

namespace EndpointGate

/-- A step in putting a router together. -/
inductive Step where
  /-- Registers a handler for a method and a path. -/
  | route (method path : String)
  /-- Puts a router under a base path. -/
  | nest (base : String) (steps : List Step)
  /-- Adds the routes of a router. -/
  | merge (steps : List Step)
  deriving Repr, Inhabited

/-- A router: its routes as they were registered, and its table. -/
structure Router where
  routes : List Route
  table : Table
  deriving DecidableEq, Repr, Inhabited

def trimSlashes (s : String) : String :=
  String.ofList (s.toList.reverse.dropWhile (· == '/')).reverse

/-- A path under a base path, where the root is the base path itself. -/
def under (base path : String) : String := if path = "/" then base else base ++ path

/-- The segment is a parameter for the rest of the path. -/
def isRestSegment (segment : List Char) : Bool :=
  segment.take 2 == ['\x7b', '*'] && segment.getLast? == some '\x7d' &&
    !(segment.reverse.take 2 == ['\x7d', '\x7d'])

/-- Routers can be nested under the path. -/
def isBasePath (base : String) : Bool :=
  isRoutePath base && 1 < base.length &&
    !(Text.pieces (· == '/') base.toList).any isRestSegment

namespace Router

/-- The router without routes. -/
def empty : Router := ⟨[], []⟩

/-- Registers a handler. -/
def route? (r : Router) (method path : String) : Option Router :=
  if Http.isMethod method then
    (r.table.add? path [.ofMethod method]).map fun table =>
      ⟨r.routes ++ [⟨method, path⟩], table⟩
  else none

/-- Puts another router under a base path. -/
def nest? (r : Router) (base : String) (inner : Router) : Option Router :=
  let base := trimSlashes base
  if isBasePath base then
    (r.table.addAll? (under base) inner.table).map fun table =>
      ⟨r.routes ++ inner.routes.map (fun x => ⟨x.method, under base x.path⟩), table⟩
  else none

/-- Adds the routes of another router. -/
def merge? (r other : Router) : Option Router :=
  (r.table.addAll? id other.table).map fun table => ⟨r.routes ++ other.routes, table⟩

mutual

def take? (r : Router) : Step → Option Router
  | .route method path => r.route? method path
  | .nest base steps => (run? empty steps).bind fun inner => r.nest? base inner
  | .merge steps => (run? empty steps).bind fun other => r.merge? other

/-- Takes steps one after another. -/
def run? (r : Router) : List Step → Option Router
  | [] => some r
  | s :: steps => (take? r s).bind fun r => run? r steps

end

/-- The router that steps put together, if it can be. -/
def ofSteps? (steps : List Step) : Option Router := run? empty steps

end Router

end EndpointGate
