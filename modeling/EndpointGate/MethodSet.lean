import EndpointGate.Text.Blank
import EndpointGate.Text.UpperCase

/-!
# Sets of methods

The methods a declaration covers: all of them, or a list without repeats in upper case.
-/

namespace EndpointGate

/-- The methods a declaration covers. -/
inductive MethodSet where
  /-- Every method. -/
  | any
  /-- The listed methods. -/
  | only (methods : List String)
  deriving DecidableEq, Repr, Inhabited

namespace MethodSet

/-- The token that stands for every method. -/
def anyToken : String := "*"

/-- A method name as it is kept: trimmed and in upper case. -/
def nameOf (token : String) : String := String.ofList (Text.upper (Text.trim token.toList))

/-- The set of the named methods. Blank tokens do not count; no token at all, or `*` among them, stands
for every method. -/
def ofTokens (tokens : List String) : MethodSet :=
  let names := (tokens.map nameOf).filter (· != "")
  if anyToken ∈ names then .any
  else
    match names.eraseDups with
    | [] => .any
    | methods => .only methods

/-- The method, already in upper case, is covered. -/
def covers : MethodSet → String → Bool
  | .any, _ => true
  | .only methods, method => methods.contains method

/-- The methods as listed, `*` for all. -/
def toList : MethodSet → List String
  | .any => [anyToken]
  | .only methods => methods

/-- The methods between brackets. -/
def render (ms : MethodSet) : String := "[" ++ String.intercalate " " ms.toList ++ "]"

theorem covers_only {methods : List String} {method : String} :
    (only methods).covers method = true ↔ method ∈ methods := by
  simp [covers]

end MethodSet

end EndpointGate
