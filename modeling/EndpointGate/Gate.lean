import EndpointGate.Declaration
import EndpointGate.Event
import EndpointGate.Tally.Basic

/-!
# The gate

A gate decides on each request by its method and path. What it declines is counted and logged. The same
look-up, on sample paths, tells which registered routes the gate disables.
-/

namespace EndpointGate

/-- What becomes of a request. -/
inductive Decision where
  | allow
  | decline (d : Declined)
  deriving DecidableEq, Repr, Inhabited

/-- The path of a request URI: what stands before its query and fragment. -/
def uriPath (uri : String) : String :=
  String.ofList (uri.toList.takeWhile fun c => !(c == '?' || c == '#'))

namespace Registry

/-- Decides on a request. Letter case in ASCII does not matter in the method. -/
def judge (r : Registry) (method uri : String) : Decision :=
  match r.lookup (uriPath uri) (Text.asciiUppercase method) with
  | none => .allow
  | some e => .decline ⟨method, uri, e.methods, e.text⟩

/-- A registered route is disabled: its sample path with its method is covered. -/
def disables (r : Registry) (route : Route) : Bool :=
  (r.lookup route.samplePath (Text.asciiUppercase route.method)).isSome

/-- The disabled ones among the routes, in their order. -/
def disabledAmong (r : Registry) (routes : List Route) : List Route := routes.filter r.disables

end Registry

namespace Decision

/-- The request is declined. -/
def isDeclined : Decision → Bool
  | .allow => false
  | .decline _ => true

def events : Decision → List Event
  | .allow => []
  | .decline d => [.declined d]

/-- Counts a decision. -/
def tallyIn (t : Tally) : Decision → Tally
  | .allow => t
  | .decline d => t.record d.pattern (Text.asciiUppercase d.method)

end Decision

/-- A registry with the tally of what was declined by it. -/
structure Gate where
  registry : Registry
  tally : Tally
  deriving DecidableEq, Repr, Inhabited

namespace Gate

/-- A gate that counts in the given tally. -/
def ofTally (registry : Registry) (tally : Tally) : Gate :=
  ⟨registry, tally.setPatterns (UInt64.ofNat registry.size)⟩

/-- A gate that counts from zero. -/
def ofRegistry (registry : Registry) : Gate := ofTally registry (.ofStem Tally.defaultStem)

def startEvent (g : Gate) : Event := .initialized g.registry.size

/-- Decides on a request and counts it if it is declined. -/
def evaluate (g : Gate) (method uri : String) : Decision × Gate :=
  let decision := g.registry.judge method uri
  (decision, { g with tally := decision.tallyIn g.tally })

/-! ## Reports -/

/-- The paths of the routes, without repeats, in increasing order. -/
def reportPaths (routes : List Route) : List String :=
  (routes.map (·.path)).eraseDups.mergeSort fun a b => a < b || a == b

/-- The methods of a path among the routes, without repeats, in order of first occurrence. -/
def methodsAt (path : String) (routes : List Route) : List String :=
  ((routes.filter (·.path == path)).map (·.method)).eraseDups

def reportLine (path : String) (methods : List String) : String :=
  path ++ " [" ++ String.intercalate "," methods ++ "]"

/-- One line for each path that has a disabled route. -/
def disabledRoutes (g : Gate) (routes : List Route) : List String :=
  let disabled := g.registry.disabledAmong routes
  (reportPaths disabled).map fun path => reportLine path (methodsAt path disabled)

def findingEvents (g : Gate) (routes : List Route) : List Event :=
  (g.registry.disabledAmong routes).map .routeDisabled

def reportEvents (g : Gate) (routes : List Route) : List Event :=
  g.findingEvents routes ++ [.reported (g.disabledRoutes routes)]

end Gate

end EndpointGate
