import EndpointGate.Pattern.Walk

/-!
# Path patterns

A pattern keeps its text and the compiled form of it. Pattern and path agree on a leading slash, and on a
trailing one unless the pattern ends in `**`; repeated slashes do not matter.
-/

namespace EndpointGate

/-- A compiled path pattern. -/
structure Pattern where
  /-- The text as declared. -/
  source : String
  segments : List Pattern.Segment
  /-- The text starts with a slash. -/
  absolute : Bool
  /-- The text ends with a slash and is more than that. -/
  trailing : Bool
  deriving DecidableEq, Repr, Inhabited

def startsWithSlash (path : List Char) : Bool := path.head?.any isSlash

/-- The path ends with a slash and is more than that. -/
def endsWithSlash (path : List Char) : Bool := path.length > 1 && path.getLast?.any isSlash

namespace Pattern

/-- Compiles a pattern. Every text is a pattern. -/
def compile (source : String) : Pattern :=
  let text := source.toList
  ⟨source, Segment.ofParts (pathParts text), startsWithSlash text, endsWithSlash text⟩

def endsOpen (p : Pattern) : Bool := p.segments.getLast? == some .anyPath

def matchesPath (p : Pattern) (path : List Char) : Bool :=
  startsWithSlash path == p.absolute &&
    matchesParts p.segments (pathParts path) &&
    (p.endsOpen || endsWithSlash path == p.trailing)

def matches? (p : Pattern) (path : String) : Bool := p.matchesPath path.toList

@[simp] theorem compile_source (source : String) : (compile source).source = source := rfl

end Pattern

end EndpointGate
