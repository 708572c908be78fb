import EndpointGate.Yaml.Mark

/-!
# Block scalars

A block scalar is made of the lines below its header that are indented at least as much as its first
one. A literal scalar keeps its line breaks, a folded one joins its lines; the header says what becomes
of the breaks at the end.
-/

namespace EndpointGate.Yaml

/-- What becomes of the line breaks at the end of a block scalar. -/
inductive Chomping where
  | strip
  | clip
  | keep
  deriving DecidableEq, Repr, Inhabited

/-- What the header of a block scalar says. -/
structure BlockHeader where
  chomping : Chomping
  /-- The indentation added to that of the parent. -/
  indent : Option Nat
  deriving DecidableEq, Repr, Inhabited

/-- The chomping a character asks for. -/
def Chomping.ofChar? : Char → Option Chomping
  | '-' => some .strip
  | '+' => some .keep
  | _ => none

/-- The indentation in front, if there is one; it is not zero. -/
def indentIndicator? : List Mark → Option (Option Nat × List Mark)
  | [] => some (none, [])
  | m :: ms =>
    if m.char = '0' then none
    else if m.char.isDigit then some (some (m.char.toNat - '0'.toNat), ms)
    else some (none, m :: ms)

/-- The chomping in front, if there is one. -/
def chompingIndicator : List Mark → Option Chomping × List Mark
  | [] => (none, [])
  | m :: ms =>
    match Chomping.ofChar? m.char with
    | some c => (some c, ms)
    | none => (none, m :: ms)

/-- Reads a header: chomping and indentation in either order. -/
def BlockHeader.read? (ms : List Mark) : Option (BlockHeader × List Mark) := do
  let (before, ms) := chompingIndicator ms
  let (indent, ms) ← indentIndicator? ms
  let (after, ms) :=
    if before.isNone ∧ indent.isSome then chompingIndicator ms else (none, ms)
  let ms ← finishLine? ms
  return (⟨(before <|> after).getD .clip, indent⟩, ms)

/-- The greatest column reached by the spaces in front of the first line with other text, and of the
empty lines before it. Tabulators may not stand there. -/
def deepestColumn? (deepest : Nat) : List Mark → Option Nat
  | [] => some deepest
  | m :: ms =>
    if m.char = '\t' then none
    else if m.char = ' ' then deepestColumn? deepest ms
    else if isBreak m.char then deepestColumn? (max deepest m.place.column) ms
    else some (max deepest m.place.column)

/-- How the lines of a block scalar are read. -/
structure BlockForm where
  isLiteral : Bool
  chomping : Chomping
  /-- The column where the lines start. -/
  column : Nat
  deriving DecidableEq, Repr, Inhabited

/-- Where a reader of a block scalar stands. -/
structure BlockState where
  /-- A line has begun. -/
  inLine : Bool
  /-- The break of the last line with text. -/
  lineBreak : Option Char
  /-- The breaks of the empty lines after it. -/
  emptyLines : List Char
  /-- The last line with text starts with a white character. -/
  afterWhite : Bool
  deriving DecidableEq, Repr, Inhabited

/-- Before the first line. -/
def BlockState.start : BlockState := ⟨false, none, [], false⟩

/-- The text for the breaks before a line, which starts with a white character or not. -/
def BlockForm.joint (form : BlockForm) (s : BlockState) (startsWhite : Bool) : List Char :=
  if !form.isLiteral ∧ s.lineBreak = some '\n' ∧ !s.afterWhite ∧ !startsWhite then
    if s.emptyLines = [] then [' '] else s.emptyLines
  else s.lineBreak.toList ++ s.emptyLines

/-- The text for the breaks at the end. -/
def BlockForm.ending (form : BlockForm) (s : BlockState) : List Char :=
  match form.chomping with
  | .strip => []
  | .clip => s.lineBreak.toList
  | .keep => s.lineBreak.toList ++ s.emptyLines

def BlockForm.readLines? (form : BlockForm) (s : BlockState) :
    List Mark → Option (List Char × List Mark)
  | [] => some (form.ending s, [])
  | m :: ms =>
    if s.inLine then
      if isBreak m.char then
        form.readLines? { s with inLine := false, lineBreak := some m.char } ms
      else if m.char = endChar then some (form.ending { s with lineBreak := none }, m :: ms)
      else (form.readLines? s ms).map fun (text, rest) => (m.char :: text, rest)
    else if m.place.column < form.column ∧ m.char = ' ' then form.readLines? s ms
    else if m.place.column < form.column ∧ m.char = '\t' then none
    else if isBreak m.char then form.readLines? { s with emptyLines := s.emptyLines ++ [m.char] } ms
    else if m.place.column = form.column ∧ m.char ≠ endChar then
      let startsWhite := isWhite m.char
      (form.readLines? ⟨true, none, [], startsWhite⟩ ms).map fun (text, rest) =>
        (form.joint s startsWhite ++ m.char :: text, rest)
    else some (form.ending s, m :: ms)

/-- Reads a block scalar from its header on, inside collections indented by `parent`. -/
def readBlock? (isLiteral : Bool) (parent : Option Nat) (ms : List Mark) :
    Option (List Char × List Mark) := do
  let (header, ms) ← BlockHeader.read? ms
  let column ←
    match header.indent with
    | some n => some (parent.getD 0 + n)
    | none => (deepestColumn? 0 ms).map fun n => max n (max ((parent.map (· + 1)).getD 0) 1)
  BlockForm.readLines? ⟨isLiteral, header.chomping, column⟩ .start ms

end EndpointGate.Yaml
