import EndpointGate.Declined
import EndpointGate.Json.Value

/-!
# Error bodies

The answer to a declined request as a JSON object, and reading such an object.
-/

namespace EndpointGate

/-- The body of an answer to a declined request. -/
structure ErrorBody where
  id : String
  code : String
  reason : String
  message : String
  status : String
  /-- The type of the object, its member `@type`. -/
  kind : String
  deriving DecidableEq, Repr, Inhabited

namespace ErrorBody

/-- The type of every error body. -/
def standardKind : String := "NC.TMFErrorResponse.v1.0"

/-- The body that tells of a declined request. -/
def ofDeclined (id : String) (d : Declined) : ErrorBody :=
  ⟨id, Declined.code, Declined.reason, d.message, toString Declined.status, standardKind⟩

/-- The names of the members in their order. -/
def names : List String := ["id", "code", "reason", "message", "status", "@type"]

/-- The texts of the members in their order. -/
def texts (b : ErrorBody) : List String := [b.id, b.code, b.reason, b.message, b.status, b.kind]

/-- The body with these texts. -/
def ofTexts? : List String → Option ErrorBody
  | [id, code, reason, message, status, kind] => some ⟨id, code, reason, message, status, kind⟩
  | _ => none

/-- Writes a body. -/
def render (b : ErrorBody) : String := Json.renderObject (names.zip b.texts)

/-- The body in the members of an object. Each name stands there once, with a text; members with other
names do not matter. -/
def ofMembers? (members : List (Option String × Json.Value)) : Option ErrorBody :=
  let keys := members.map (·.1)
  if none ∉ keys ∧ ∀ name ∈ names, keys.count (some name) = 1 then
    (names.mapM fun name => (members.lookup (some name)).bind Json.Value.text?).bind ofTexts?
  else none

/-- The body a value stands for: an object, or an array of the texts in their order. -/
def ofValue? : Json.Value → Option ErrorBody
  | .object members => ofMembers? members
  | .array items => (items.mapM Json.Value.text?).bind ofTexts?
  | _ => none

def parse? (text : String) : Option ErrorBody := (Json.Value.ofText? text).bind ofValue?

theorem ofTexts?_texts (b : ErrorBody) : ofTexts? b.texts = some b := rfl

end ErrorBody

end EndpointGate
