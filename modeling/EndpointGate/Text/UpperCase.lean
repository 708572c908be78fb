import EndpointGate.Text.Case
import EndpointGate.Text.UpperCase.Mappings

/-!
# Upper case in full Unicode

Every character is mapped on its own, whatever stands around it, and may become several characters.
-/

namespace EndpointGate.Text

/-- The code point `n` is one of the characters of the run. -/
def CaseRun.covers (r : CaseRun) (n : Nat) : Bool :=
  r.first ≤ n && n ≤ r.last && (n - r.first) % r.step == 0

/-- The upper case of a character outside ASCII, as code points. -/
def upperCodes (n : Nat) : List Nat :=
  match upperExpansions.find? (·.1 == n) with
  | some (_, us) => us
  | none =>
    match upperRuns.find? (·.covers n) with
    | some r => [r.upper + (n - r.first)]
    | none => [n]

def upperChar (c : Char) : List Char :=
  if c.toNat < 0x80 then [asciiUpper c] else (upperCodes c.toNat).map Char.ofNat

def upper (cs : List Char) : List Char := cs.flatMap upperChar

theorem upper_append (as bs : List Char) : upper (as ++ bs) = upper as ++ upper bs := by
  simp [upper]

end EndpointGate.Text
