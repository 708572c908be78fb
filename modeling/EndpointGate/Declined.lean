import EndpointGate.MethodSet

/-!
# Declined requests

What is known about a request to a deprecated endpoint, and the wording of the answer.
-/

namespace EndpointGate

/-- A request that addressed a deprecated endpoint. -/
structure Declined where
  /-- The method as received. -/
  method : String
  /-- The URI as received, with its query. -/
  uri : String
  /-- The methods of the entry that covers the request. -/
  methods : MethodSet
  /-- The pattern text of that entry. -/
  pattern : String
  deriving DecidableEq, Repr, Inhabited

namespace Declined

/-- The status of the answer to a declined request. -/
def status : Nat := 404

/-- The error code of every declined request. -/
def code : String := "NC-COMMON-2101"

/-- The title that belongs to the code. -/
def reason : String :=
  "Request is declined with 404 Not Found, because deprecated REST API is disabled"

/-- The message for a declined request. -/
def message (d : Declined) : String :=
  "Request [" ++ d.method ++ "] '" ++ d.uri ++
    "' is declined with 404 Not Found, because the following deprecated REST API is disabled: " ++
    d.methods.render ++ " " ++ d.pattern

end Declined

end EndpointGate
