import EndpointGate.Pattern.Segment

/-!
# Matching the tokens of a segment

A scan walks along tokens and text together. At a `many` it first lets it stand for no text and notes the
place; at a mismatch it goes back to the last such place and gives that `many` one character more.
Earlier `many`s are never revisited.
-/

namespace EndpointGate.Pattern

/-- Where a scan stands: the next token, the next character, and, after a `many`, the index of that
token and of the character where its text ends. -/
structure Scan where
  token : Nat
  char : Nat
  retry : Option (Nat × Nat)
  deriving DecidableEq, Repr

namespace Scan

def start : Scan := ⟨0, 0, none⟩

/-- What one step of a scan comes to. -/
inductive Outcome where
  | move (next : Scan)
  | stop (verdict : Bool)
  deriving DecidableEq, Repr

/-- Past the next token and the next character. -/
def advance (s : Scan) : Scan := { s with token := s.token + 1, char := s.char + 1 }

/-- Back to the last `many`, whose text takes one character more. -/
def back (s : Scan) : Outcome :=
  match s.retry with
  | some (star, mark) => .move ⟨star + 1, mark + 1, some (star, mark + 1)⟩
  | none => .stop false

/-- One step. The text is used up when nothing but `many`s may remain. -/
def step (tokens : Array Token) (text : Array Char) (s : Scan) : Outcome :=
  match text[s.char]? with
  | none => .stop ((tokens.toList.drop s.token).all (· == .many))
  | some c =>
    match tokens[s.token]? with
    | some .many => .move ⟨s.token + 1, s.char, some (s.token, s.char)⟩
    | some .one => .move s.advance
    | some (.char d) => if d = c then .move s.advance else s.back
    | none => s.back

/-- Runs a scan for at most `n` steps; `none` when they do not suffice. -/
def run (tokens : Array Token) (text : Array Char) : Nat → Scan → Option Bool
  | 0, _ => none
  | n + 1, s =>
    match s.step tokens text with
    | .move next => run tokens text n next
    | .stop verdict => some verdict

/-- Steps that suffice for every scan: each token but the last can be the `many` gone back to, once for
each character, and between two returns each token is passed at most once. -/
def stepLimit (tokens text : Nat) : Nat := (tokens + 1) * (text + 1) * (tokens + 2) + 1

end Scan

def matchesTokens (tokens : List Token) (text : List Char) : Bool :=
  (Scan.run tokens.toArray text.toArray (Scan.stepLimit tokens.length text.length) .start).getD false

/-- A segment other than `anyPath` takes one path segment it accepts. -/
def Segment.accepts : Segment → List Char → Bool
  | .anyPath, _ => true
  | .literal text, part => text == part
  | .glob tokens, part => matchesTokens tokens part

end EndpointGate.Pattern
