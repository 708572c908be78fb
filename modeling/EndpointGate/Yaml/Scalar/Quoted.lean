import EndpointGate.Text.Hex
import EndpointGate.Yaml.Gap

/-!
# Quoted scalars

A scalar between single quotes writes a quote twice; one between double quotes has escapes. Line breaks
are folded in either.
-/

namespace EndpointGate.Yaml

/-- Where a reader of quoted text stands. -/
inductive QuotedState where
  /-- After a gap, at any character. -/
  | inside (gap : Gap)
  /-- After a single quote, which ends the text unless another one follows. -/
  | afterQuote
  /-- After a backslash. -/
  | escape
  /-- This many hexadecimal digits are left, after those with this value. -/
  | digits (left value : Nat)
  deriving Repr, Inhabited

def charOf? (n : Nat) : Option Char := if n.isValidChar then some (Char.ofNat n) else none

/-- The characters that are escaped by one character after the backslash. -/
def shortEscapes : List (Char × Char) :=
  [('0', '\x00'), ('a', '\x07'), ('b', '\x08'), ('t', '\t'), ('\t', '\t'), ('n', '\n'),
    ('v', '\x0B'), ('f', '\x0C'), ('r', '\r'), ('e', '\x1B'), (' ', ' '), ('"', '"'), ('/', '/'),
    ('\\', '\\'), ('N', '\u0085'), ('_', '\u00A0'), ('L', '\u2028'), ('P', '\u2029')]

/-- The number of digits that follow the letter of a numeric escape. -/
def digitCount? : Char → Option Nat
  | 'x' => some 2
  | 'u' => some 4
  | 'U' => some 8
  | _ => none

/-- The text of a quoted scalar and what follows its closing quote. -/
abbrev QuotedText := List Char × List Mark

/-- Text in front of what is read later. -/
def QuotedText.prepend (text : List Char) (r : QuotedText) : QuotedText := (text ++ r.1, r.2)

/-- Reads the text between quotes, single or double ones. -/
def readQuoted? (isSingle : Bool) : QuotedState → List Mark → Option QuotedText
  | .inside gap, m :: ms =>
    if m.char = endChar ∨ atDocumentMarker (m :: ms) then none
    else if isWhite m.char || isBreak m.char then
      readQuoted? isSingle (.inside (gap.add m.char)) ms
    else if m.char = (if isSingle then '\'' else '"') then
      if isSingle then (readQuoted? isSingle .afterQuote ms).map (.prepend gap.text)
      else some (gap.text, ms)
    else if m.char = '\\' ∧ !isSingle then
      (readQuoted? isSingle .escape ms).map (.prepend gap.text)
    else
      (readQuoted? isSingle (.inside .none) ms).map (.prepend (gap.text ++ [m.char]))
  | .afterQuote, m :: ms =>
    if m.char = '\'' then (readQuoted? isSingle (.inside .none) ms).map (.prepend [m.char])
    else some ([], m :: ms)
  | .escape, m :: ms =>
    if isBreak m.char then readQuoted? isSingle (.inside .escaped) ms
    else
      match shortEscapes.lookup m.char with
      | some c => (readQuoted? isSingle (.inside .none) ms).map (.prepend [c])
      | none => (digitCount? m.char).bind fun n => readQuoted? isSingle (.digits n 0) ms
  | .digits left value, m :: ms =>
    (Text.hexValue? m.char).bind fun d =>
      if left ≤ 1 then
        (charOf? (16 * value + d)).bind fun c =>
          (readQuoted? isSingle (.inside .none) ms).map (.prepend [c])
      else readQuoted? isSingle (.digits (left - 1) (16 * value + d)) ms
  | _, [] => none

end EndpointGate.Yaml
