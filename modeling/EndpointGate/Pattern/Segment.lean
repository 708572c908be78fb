import EndpointGate.Text.Split

/-!
# Pattern segments

A path pattern is written as segments between slashes. `**` stands for any number of path segments;
inside any other segment `?` is one character, `*` and a template variable `{…}` are any text. A brace
that is not closed in its segment is an ordinary character.
-/

namespace EndpointGate

/-- The character between path segments. -/
def isSlash (c : Char) : Bool := c == '/'

/-- The segments of a path, or of a path pattern, that are not empty. -/
def pathParts (path : List Char) : List (List Char) := Text.fields isSlash path

namespace Pattern

/-- A wildcard token of one segment. -/
inductive Token where
  /-- The character itself. -/
  | char (c : Char)
  /-- Any one character. -/
  | one
  /-- Any text, also none. -/
  | many
  deriving DecidableEq, Repr, Inhabited

/-- A compiled segment of a path pattern. -/
inductive Segment where
  /-- Any number of path segments. -/
  | anyPath
  /-- The path segment with exactly this text. -/
  | literal (text : List Char)
  /-- A path segment that the tokens match. -/
  | glob (tokens : List Token)
  deriving DecidableEq, Repr, Inhabited

/-- Puts `many` in front, unless `many` stands there already. -/
def Token.consMany : List Token → List Token
  | .many :: ts => .many :: ts
  | ts => .many :: ts

/-- The tokens of a segment. The flag is set inside a template variable, up to its closing brace. -/
def Token.ofText : Bool → List Char → List Token
  | _, [] => []
  | true, c :: cs => Token.ofText (c != '}') cs
  | false, c :: cs =>
    if c = '?' then .one :: Token.ofText false cs
    else if c = '*' then Token.consMany (Token.ofText false cs)
    else if c = '{' ∧ '}' ∈ cs then Token.consMany (Token.ofText true cs)
    else .char c :: Token.ofText false cs

/-- The character makes a segment more than a literal. -/
def isWild (c : Char) : Bool := c == '*' || c == '?' || c == '{'

/-- Compiles one segment. -/
def Segment.ofText (part : List Char) : Segment :=
  if part = ['*', '*'] then .anyPath
  else if part.any isWild then .glob (Token.ofText false part)
  else .literal part

/-- Puts a segment in front, but no second `anyPath` before another one. -/
def Segment.cons : Segment → List Segment → List Segment
  | .anyPath, .anyPath :: rest => .anyPath :: rest
  | s, rest => s :: rest

/-- Compiles the segments of a pattern. -/
def Segment.ofParts (parts : List (List Char)) : List Segment :=
  parts.foldr (fun part rest => Segment.cons (Segment.ofText part) rest) []

@[simp] theorem Segment.ofParts_cons (part : List Char) (parts : List (List Char)) :
    Segment.ofParts (part :: parts) = Segment.cons (Segment.ofText part) (Segment.ofParts parts) :=
  rfl

theorem Segment.ofText_eq_anyPath_iff {part : List Char} :
    Segment.ofText part = .anyPath ↔ part = ['*', '*'] := by
  unfold Segment.ofText
  split
  · simp [*]
  · split <;> simp [*]

end Pattern

end EndpointGate
