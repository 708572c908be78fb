import EndpointGate.Yaml.Gap

/-!
# Plain scalars

A plain scalar has no delimiters. It ends before a colon that ends a word, before a comment, before a
flow indicator inside flow collections, and outside of them before a line that is not indented enough.
-/

namespace EndpointGate.Yaml

/-- What decides where a plain scalar ends. -/
structure PlainContext where
  /-- The scalar stands inside a flow collection. -/
  inFlow : Bool
  /-- The least column of further lines, outside of flow collections. -/
  indent : Nat
  deriving DecidableEq, Repr, Inhabited

/-- A plain scalar as it was read. -/
structure PlainText where
  text : List Char
  /-- The scalar was left on a later line. -/
  endsInBreak : Bool
  rest : List Mark
  deriving Repr, Inhabited

namespace PlainContext

/-- The characters that hyphens, question marks and colons keep from starting a plain scalar. -/
def indicators : List Char :=
  [',', '[', ']', '{', '}', '#', '&', '*', '!', '|', '>', '\'', '"', '%', '@', '\x60']

/-- A plain scalar starts with this character, if the other one follows. -/
def starts (inFlow : Bool) (c next : Char) : Bool :=
  if c = '-' then !isWhite next
  else if c = '?' ∨ c = ':' then !(inFlow || endsWord next)
  else !(endsWord c || c ∈ indicators)

/-- The scalar is over before these marks, because of what precedes them. -/
def endsAt (ctx : PlainContext) (started : Bool) (gap : Gap) (m : Mark) (ms : List Mark) : Bool :=
  let afterGap := gap != .none
  (afterGap && !ctx.inFlow && m.place.column < ctx.indent) ||
    ((afterGap || !started) && (m.char == '#' || atDocumentMarker (m :: ms)))

/-- The scalar is over before this character, because of what it is. -/
def endsBefore (ctx : PlainContext) (c next : Char) : Bool :=
  c == endChar || (c == ':' && endsWord next) || (ctx.inFlow && isFlowIndicator c)

/-- A colon that may not stand inside flow collections. -/
def strayColon (ctx : PlainContext) (c next : Char) : Bool :=
  ctx.inFlow && c == ':' && (next == '?' || isFlowIndicator next)

/-- A tabulator that stands where a further line is to be indented by spaces. -/
def strayTab (ctx : PlainContext) (gap : Gap) (m : Mark) : Bool :=
  gap.hasBreak && m.char == '\t' && m.place.column < ctx.indent

/-- Reads on after a gap; `started` when the scalar has some text. -/
def readFrom? (ctx : PlainContext) (started : Bool) (gap : Gap) :
    List Mark → Option PlainText
  | [] => some ⟨[], gap.hasBreak, []⟩
  | m :: ms =>
    if isWhite m.char || isBreak m.char then
      if ctx.strayTab gap m then none else readFrom? ctx started (gap.add m.char) ms
    else if ctx.endsAt started gap m ms then some ⟨[], gap.hasBreak, m :: ms⟩
    else if ctx.strayColon m.char (peek ms) then none
    else if ctx.endsBefore m.char (peek ms) then some ⟨[], gap.hasBreak, m :: ms⟩
    else
      (readFrom? ctx true .none ms).map fun r => { r with text := gap.text ++ m.char :: r.text }

/-- Reads a plain scalar from its first character on. -/
def read? (ctx : PlainContext) (ms : List Mark) : Option PlainText := ctx.readFrom? false .none ms

end PlainContext

end EndpointGate.Yaml
