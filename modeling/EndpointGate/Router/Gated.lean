import EndpointGate.Gate
import EndpointGate.Router.Basic

/-!
# Routers behind a gate

With a gate every request, routed or not, passes the gate first; what it declines never reaches a
handler. Without a gate the router answers by itself.
-/

namespace EndpointGate

/-- A router with the gate in front of it, if there is one. -/
structure GatedRouter where
  router : Router
  gate : Option Gate
  deriving DecidableEq, Repr, Inhabited

namespace GatedRouter

/-- What becomes of a request. Without a gate every one is allowed. -/
def decision (g : GatedRouter) (r : Http.Request) : Decision :=
  match g.gate with
  | none => .allow
  | some gate => gate.registry.judge r.method r.target.resource

/-- The answer to a request before it is sent; `id` marks the answer to a declined one. -/
def response (id : String) (g : GatedRouter) (r : Http.Request) : Http.Response :=
  match g.decision r with
  | .allow => g.router.table.respond r
  | .decline d => .declined id d

/-- An answer as it is sent. Only where the table misses the path an answer is sent as it is. -/
def sent (g : GatedRouter) (r : Http.Request) (a : Http.Response) : Http.Response :=
  if g.router.table.misses r.target.path then a else a.sentFor r.method

/-- The router after a request, which the gate has counted if it is declined. -/
def after (g : GatedRouter) (r : Http.Request) : GatedRouter :=
  { g with gate := g.gate.map fun gate => (gate.evaluate r.method r.target.resource).2 }

def answer (id : String) (g : GatedRouter) (r : Http.Request) : Http.Response × GatedRouter :=
  (g.sent r (g.response id r), g.after r)

def answerEvents (g : GatedRouter) (r : Http.Request) : List Event :=
  match g.decision r with
  | .allow => if (g.router.table.respond r).grantsConnect r.method then [.bodyDropped] else []
  | .decline d => (Decision.decline d).events

def report (g : GatedRouter) : Option (List String) :=
  g.gate.map fun gate => gate.disabledRoutes g.router.routes

end GatedRouter

end EndpointGate
