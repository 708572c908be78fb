import EndpointGate.Text.Case

/-!
# Registered routes

A route is a method and a path template. Filling every parameter of the template with a placeholder
gives a concrete path, the sample path, that patterns can be matched with.
-/

namespace EndpointGate

/-- A route as it was registered. -/
structure Route where
  method : String
  path : String
  deriving DecidableEq, Repr, Inhabited

namespace Route

/-- What stands for a parameter in a sample path. -/
def placeholder : List Char := ['p', 'a', 'r', 'a', 'm']

/-- The character may stand between the braces of a parameter. -/
def isNameChar (c : Char) : Bool := !(c == '/' || c == '{' || c == '}')

/-- The text starts with a parameter name and its closing brace. -/
def closesBrace (cs : List Char) : Bool := (cs.dropWhile isNameChar).head? == some '}'

/-- The character ends a parameter that began with a colon. -/
def endsColon (c : Char) : Bool := c == '/' || c == '.' || c == '-'

/-- Whether the text being read belongs to a parameter already replaced, and how that one ends. -/
inductive Within where
  | none
  | braces
  | colon
  deriving DecidableEq, Repr

/-- Replaces every parameter by the placeholder. A parameter is a name between braces, a colon and what
follows up to `/`, `.` or `-`, or a single `+` or `*`; of those that overlap the first one counts. -/
def fill : Within → List Char → List Char
  | _, [] => []
  | .braces, c :: cs => if c = '}' then fill .none cs else fill .braces cs
  | .colon, c :: cs => if endsColon c then c :: fill .none cs else fill .colon cs
  | .none, c :: cs =>
    if c = '{' ∧ closesBrace cs then placeholder ++ fill .braces cs
    else if c = ':' then placeholder ++ fill .colon cs
    else if c = '+' ∨ c = '*' then placeholder ++ fill .none cs
    else c :: fill .none cs

/-- The path with its parameters filled. -/
def sample (path : String) : String := String.ofList (fill .none path.toList)

def samplePath (r : Route) : String := sample r.path

end Route

end EndpointGate
