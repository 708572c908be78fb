import EndpointGate.Text.Printable.Ranges

/-!
# Printable characters
-/

namespace EndpointGate.Text

/-- The code point lies in one of the ranges. -/
def inRanges (rs : List (Nat × Nat)) (n : Nat) : Bool := rs.any fun r => r.1 ≤ n && n ≤ r.2

/-- The character can be shown as itself. -/
def isPrintable (c : Char) : Bool :=
  let n := c.toNat
  if n < 0x7F then 0x20 ≤ n
  else if n < 0x1000 then !inRanges unprintableLow n
  else if n < 0x10000 then !(inRanges unprintableMiddle n || inRanges unprintableLow n)
  else !(inRanges unprintableHigh n || inRanges unprintableMiddle n)

end EndpointGate.Text
