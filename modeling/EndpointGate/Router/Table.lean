import EndpointGate.Http.Message
import EndpointGate.Router.Template
import EndpointGate.Text.Split

/-!
# Routing tables

The paths with their templates and what each of them serves. A request is served by the template that
matches its path, the one with characters where others have parameters.
-/

namespace EndpointGate

/-- What a handler serves. -/
inductive Service where
  /-- One method. -/
  | method (name : String)
  /-- Every method that is not served otherwise. -/
  | every
  deriving DecidableEq, Repr, Inhabited

/-- The service of a handler for this method: only standard methods can be told apart. -/
def Service.ofMethod (name : String) : Service :=
  if name ∈ Http.standardMethods then .method name else .every

/-- A path with its template and its handlers. -/
structure Endpoint where
  path : String
  template : Template
  services : List Service
  deriving DecidableEq, Repr, Inhabited

namespace Endpoint

/-- A handler serves the method. `GET` handlers serve `HEAD` too. -/
def serves (e : Endpoint) (method : String) : Bool :=
  .method method ∈ e.services || (method == "HEAD" && .method "GET" ∈ e.services) ||
    .every ∈ e.services

/-- The answer to a request with this method. -/
def respond (e : Endpoint) (method : String) : Http.Response :=
  if e.serves method then .served else .methodNotAllowed

end Endpoint

/-- The endpoints in the order of their first handlers. -/
abbrev Table := List Endpoint

/-- The path starts with a slash, and no segment of it starts with a colon or an asterisk. -/
def isRoutePath (path : String) : Bool :=
  path.toList.head? == some '/' &&
    (Text.pieces (· == '/') path.toList).all fun segment =>
      !(segment.head? == some ':' || segment.head? == some '*')

namespace Table

/-- Adds an endpoint for a path that has none. It must not clash with another one. -/
def addEndpoint? (path : String) (services : List Service) (t : Table) : Option Table :=
  (Template.ofText? path).bind fun template =>
    if t.any fun e => e.template.clashes template then none
    else some (t ++ [⟨path, template, services⟩])

/-- Adds handlers to the endpoint of a path. No service may be there twice. -/
def extend? (path : String) (services : List Service) : Table → Option Table
  | [] => none
  | e :: es =>
    if e.path = path then
      if services.any (· ∈ e.services) then none
      else some ({ e with services := e.services ++ services } :: es)
    else (extend? path services es).map (e :: ·)

/-- Adds handlers for a path. -/
def add? (path : String) (services : List Service) (t : Table) : Option Table :=
  if isRoutePath path then
    if t.any (·.path == path) then t.extend? path services else t.addEndpoint? path services
  else none

/-- Adds the endpoints of another table, their paths changed. -/
def addAll? (place : String → String) (t : Table) (endpoints : List Endpoint) : Option Table :=
  endpoints.foldlM (fun t e => t.add? (place e.path) e.services) t

/-- The better one of two endpoints whose templates match. -/
def better (a b : Endpoint) : Endpoint := if b.template.beats a.template then b else a

/-- The best endpoint for a path. -/
def lookup (t : Table) (path : String) : Option Endpoint :=
  match t.filter fun e => e.template.matches? path.toList with
  | [] => none
  | e :: es => some (es.foldl better e)

/-- The path has the form of a routed one, but no endpoint has it. -/
def misses (t : Table) (path : String) : Bool :=
  path.toList.head? == some '/' && (t.lookup path).isNone

/-- The answer to a request without a gate. -/
def respond (t : Table) (r : Http.Request) : Http.Response :=
  match t.lookup r.target.path with
  | none => .notFound
  | some e => e.respond r.method

end Table

end EndpointGate
