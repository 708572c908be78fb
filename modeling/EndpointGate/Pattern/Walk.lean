import EndpointGate.Pattern.Glob

/-!
# Walking along pattern and path

Pattern segments and path segments are matched together; only `anyPath` leaves a choice, how many path
segments it takes. The walk writes down its verdict for each pair of positions, so that a pair met again
is not worked out twice and patterns with many `anyPath` segments stay cheap.
-/

namespace EndpointGate.Pattern

/-- Verdicts found so far, one slot for each pair of positions, and how many have been worked out. -/
structure Memo where
  slots : Array (Option Bool)
  worked : Nat
  deriving DecidableEq, Repr

namespace Memo

/-- No verdict yet. -/
def empty (size : Nat) : Memo := ⟨Array.replicate size none, 0⟩

/-- The verdict in a slot. -/
def get? (memo : Memo) (slot : Nat) : Option Bool := (memo.slots[slot]?).join

/-- Writes a verdict into a slot. -/
def fill (memo : Memo) (slot : Nat) (verdict : Bool) : Memo :=
  ⟨memo.slots.setIfInBounds slot (some verdict), memo.worked + 1⟩

/-- The verdict in a slot; if there is none yet, it is worked out and written down. -/
def reuse (memo : Memo) (slot : Nat) (work : Memo → Bool × Memo) : Bool × Memo :=
  match memo.get? slot with
  | some known => (known, memo)
  | none =>
    let (verdict, after) := work memo
    (verdict, after.fill slot verdict)

end Memo

/-- A path, with the number of segments already taken from it. -/
abbrev Visit := List (List Char) → Nat → Memo → Bool × Memo

/-- Tries `visit` on the path, then with one segment less, and so on until it succeeds. -/
def anyRest (visit : Visit) : Visit
  | [], s, memo => visit [] s memo
  | part :: parts, s, memo =>
    match visit (part :: parts) s memo with
    | (true, memo) => (true, memo)
    | (false, memo) => anyRest visit parts (s + 1) memo

/-- Matches the segments from position `p` of the pattern with the path from position `s`. The slot of
the pair is `p * width + s`. -/
def walk (width : Nat) : List Segment → Nat → Visit
  | [], p, path, s, memo => memo.reuse (p * width + s) fun memo => (path.isEmpty, memo)
  | segment :: rest, p, path, s, memo =>
    memo.reuse (p * width + s) fun memo =>
      match segment, rest, path with
      | .anyPath, [], _ => (true, memo)
      | .anyPath, rest, path => anyRest (walk width rest (p + 1)) path s memo
      | _, _, [] => (false, memo)
      | segment, rest, part :: parts =>
        if segment.accepts part then walk width rest (p + 1) parts (s + 1) memo else (false, memo)

def matchesParts (segments : List Segment) (path : List (List Char)) : Bool :=
  let width := path.length + 1
  (walk width segments 0 path 0 (.empty ((segments.length + 1) * width))).1

end EndpointGate.Pattern
