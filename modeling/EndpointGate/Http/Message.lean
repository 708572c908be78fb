import EndpointGate.ErrorBody
import EndpointGate.Http.Target

/-!
# Requests and responses
-/

namespace EndpointGate.Http

/-- The marks a method may have besides letters and digits. -/
def methodMarks : List Char :=
  ['!', '#', '$', '%', '&', '\'', '*', '+', '-', '.', '^', '_', '\x60', '|', '~']

/-- The text is the name of a method. -/
def isMethod (s : String) : Bool :=
  !s.toList.isEmpty && s.toList.all fun c => c.isAlphanum || c ∈ methodMarks

/-- The methods that routes can be limited to. -/
def standardMethods : List String :=
  ["GET", "HEAD", "POST", "PUT", "DELETE", "CONNECT", "OPTIONS", "TRACE", "PATCH"]

structure Request where
  method : String
  target : Target
  deriving DecidableEq, Repr, Inhabited

def Request.ofText? (method uri : String) : Option Request :=
  if isMethod method then (Target.ofText? uri).map (⟨method, ·⟩) else none

/-- An answer to a request. -/
structure Response where
  status : Nat
  contentType : Option String
  body : String
  deriving DecidableEq, Repr, Inhabited

namespace Response

/-- An answer without content. -/
def empty (status : Nat) : Response := ⟨status, none, ""⟩

/-- No route has the path. -/
def notFound : Response := .empty 404

/-- A route has the path but does not serve the method. -/
def methodNotAllowed : Response := .empty 405

/-- The answer of a handler. -/
def served : Response := ⟨200, some "text/plain; charset=utf-8", "ok"⟩

/-- The answer to a declined request. -/
def declined (id : String) (d : Declined) : Response :=
  ⟨Declined.status, some "application/json", (ErrorBody.ofDeclined id d).render⟩

/-- The answer grants a `CONNECT` request. -/
def grantsConnect (method : String) (r : Response) : Bool := method == "CONNECT" && r.status == 200

/-- The answer as it is sent: none to a `HEAD` request has a body, nor has one that grants a `CONNECT`
request. -/
def sentFor (method : String) (r : Response) : Response :=
  if method = "HEAD" ∨ r.grantsConnect method then { r with body := "" } else r

end Response

end EndpointGate.Http
