import EndpointGate.Text.Hex
import EndpointGate.Text.Printable

/-!
# Quoted text

A text between double quotes, with escapes for what would be misread or could not be seen.
-/

namespace EndpointGate.Text

/-- The form of one character inside quotes. -/
def quotedChar (c : Char) : List Char :=
  if c = '"' ∨ c = '\\' then ['\\', c]
  else if c = '\x00' then ['\\', '0']
  else if c = '\t' then ['\\', 't']
  else if c = '\n' then ['\\', 'n']
  else if c = '\r' then ['\\', 'r']
  else if isPrintable c then [c]
  else ['\\', 'u', '{'] ++ hexDigits c.toNat ++ ['}']

/-- The text between double quotes. -/
def quoted (s : String) : String := String.ofList ('"' :: s.toList.flatMap quotedChar ++ ['"'])

end EndpointGate.Text
