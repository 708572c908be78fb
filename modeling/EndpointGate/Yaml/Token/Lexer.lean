import EndpointGate.Yaml.Scalar.Block
import EndpointGate.Yaml.Scalar.Plain
import EndpointGate.Yaml.Token

/-!
# Cutting a text into tokens

A token is a key only when a colon turns out to follow it. So the place of a token that may be a key is
remembered, and the tokens that announce the key are inserted there once the colon is read.
-/

namespace EndpointGate.Yaml

/-- A token that may turn out to be a key. -/
structure KeyCandidate where
  /-- It stands where a block mapping goes on, so it has to be a key. -/
  required : Bool
  /-- The number of tokens before it. -/
  position : Nat
  place : Place
  deriving Repr, Inhabited

/-- What is known between two tokens. -/
structure Lexer where
  tokens : Array Token
  /-- The columns of the open block collections, innermost first. -/
  indents : List Nat
  /-- A token that starts here may be a key. -/
  keyAllowed : Bool
  candidate : Option KeyCandidate
  /-- The candidates around the open flow collections, innermost first. -/
  outer : List (Option KeyCandidate)
  deriving Repr, Inhabited

namespace KeyCandidate

/-- No colon at this place makes a key of the candidate. A key is on one line and not too long. -/
def isPast (k : KeyCandidate) (p : Place) : Bool :=
  k.place.line < p.line || k.place.index + 1024 < p.index

/-- Gives up a candidate, unless it has to be a key. -/
def drop? (k : Option KeyCandidate) : Option Unit :=
  match k with
  | some k => if k.required then none else some ()
  | none => some ()

/-- Gives up a candidate that is past. -/
def dropPast? (p : Place) : Option KeyCandidate → Option (Option KeyCandidate)
  | none => some none
  | some k => if k.isPast p then (drop? (some k)).map fun _ => none else some (some k)

end KeyCandidate

namespace Lexer

/-- Before the first token. -/
def start : Lexer := ⟨#[], [], true, none, []⟩

/-- The next token stands inside a flow collection. -/
def inFlow (s : Lexer) : Bool := !s.outer.isEmpty

/-- Adds a token. -/
def push (t : Token) (s : Lexer) : Lexer := { s with tokens := s.tokens.push t }

/-- Lets keys start here, or not. -/
def allowKey (b : Bool) (s : Lexer) : Lexer := { s with keyAllowed := b }

/-! ## Keys -/

/-- Forgets the candidate. -/
def dropKey? (s : Lexer) : Option Lexer :=
  (KeyCandidate.drop? s.candidate).map fun _ => { s with candidate := none }

/-- Forgets the candidates that are past. -/
def dropPastKeys? (p : Place) (s : Lexer) : Option Lexer := do
  let candidate ← KeyCandidate.dropPast? p s.candidate
  let outer ← s.outer.mapM (KeyCandidate.dropPast? p)
  return { s with candidate, outer }

/-- The token that comes next may be a key, if keys may start here. -/
def noteKey? (p : Place) (s : Lexer) : Option Lexer :=
  if s.keyAllowed then do
    let s ← s.dropKey?
    let required := !s.inFlow && s.indents.head? == some p.column
    return { s with candidate := some ⟨required, s.tokens.size, p⟩ }
  else some s

/-! ## Indentation -/

/-- A token at this column starts a block collection, unless it goes on with one. -/
def indent (column : Nat) (start : Token) (position : Nat) (s : Lexer) : Lexer :=
  if s.inFlow ∨ s.indents.head?.any (column ≤ ·) then s
  else
    { s with
      indents := column :: s.indents
      tokens := s.tokens.insertIdxIfInBounds position start }

/-- A token at this column ends the block collections that are indented more. -/
def dedent (column : Nat) (s : Lexer) : Lexer :=
  if s.inFlow then s
  else
    { s with
      indents := s.indents.dropWhile (column < ·)
      tokens := (s.indents.takeWhile (column < ·)).foldl (fun ts _ => ts.push .blockEnd) s.tokens }

/-- Ends all block collections. -/
def dedentAll (s : Lexer) : Lexer :=
  if s.inFlow then s
  else
    { s with
      indents := []
      tokens := s.indents.foldl (fun ts _ => ts.push .blockEnd) s.tokens }

/-! ## Tokens -/

/-- A token that stands outside of all collections. -/
def pushOutside? (t : Token) (s : Lexer) : Option Lexer := do
  let s ← s.dedentAll.dropKey?
  return (s.allowKey false).push t

/-- A flow collection opens. -/
def open? (t : Token) (p : Place) (s : Lexer) : Option Lexer := do
  let s ← s.noteKey? p
  return { s with
    tokens := s.tokens.push t
    keyAllowed := true
    candidate := none
    outer := s.candidate :: s.outer }

/-- A flow collection closes. -/
def close? (t : Token) (s : Lexer) : Option Lexer := do
  let s ← s.dropKey?
  match s.outer with
  | [] => none
  | candidate :: outer =>
    return { s with tokens := s.tokens.push t, keyAllowed := false, candidate, outer }

/-- A comma between items of a flow collection. -/
def comma? (s : Lexer) : Option Lexer := do
  let s ← s.dropKey?
  return (s.allowKey true).push .comma

/-- The indicator of a block item or of a key, which starts a block collection of its own. -/
def entry? (t start : Token) (p : Place) (s : Lexer) : Option Lexer :=
  if !s.inFlow ∧ !s.keyAllowed then none
  else do
    let s ← (s.indent p.column start s.tokens.size).dropKey?
    return s.push t

/-- The hyphen of a block item. -/
def item? (p : Place) (s : Lexer) : Option Lexer :=
  (s.entry? .item .blockSequence p).map (·.allowKey true)

/-- The question mark of a key. -/
def key? (p : Place) (s : Lexer) : Option Lexer :=
  (s.entry? .key .blockMapping p).map fun s => s.allowKey !s.inFlow

/-- The colon of a value: what stood before it is a key, or the key is empty. -/
def value? (p : Place) (s : Lexer) : Option Lexer :=
  match s.candidate with
  | some k =>
    let s := { s with
      tokens := s.tokens.insertIdxIfInBounds k.position .key
      candidate := none
      keyAllowed := false }
    some ((s.indent k.place.column .blockMapping k.position).push .value)
  | none =>
    if !s.inFlow ∧ !s.keyAllowed then none
    else
      let s := s.indent p.column .blockMapping s.tokens.size
      some ((s.allowKey !s.inFlow).push .value)

def atom? (p : Place) (s : Lexer) : Option Lexer := (s.noteKey? p).map (·.allowKey false)

end Lexer

/-! ## Gaps between tokens -/

/-- Passes over blanks, line breaks and comments, and over a byte order mark at the start of a line.
Tabulators count as blanks only where no key may start. The answer tells whether a key may start
then. -/
def skipGap (inFlow : Bool) (keyAllowed inComment : Bool) : List Mark → Bool × List Mark
  | [] => (keyAllowed, [])
  | m :: ms =>
    if isBreak m.char then skipGap inFlow (keyAllowed || !inFlow) false ms
    else if inComment ∧ m.char ≠ endChar then skipGap inFlow keyAllowed true ms
    else if m.char = ' ' ∨ (m.char = '\t' ∧ (inFlow ∨ !keyAllowed)) ∨
        (m.char = byteOrderMark ∧ m.place.column = 0) then
      skipGap inFlow keyAllowed false ms
    else if m.char = '#' then skipGap inFlow keyAllowed true ms
    else (keyAllowed, m :: ms)

/-- Reads the name of an anchor or an alias. -/
def readName? (ms : List Mark) : Option (String × List Mark) :=
  let name := takeChars isNameChar ms
  let rest := skipWhile isNameChar ms
  let c := peek rest
  if name ≠ [] ∧ (endsWord c ∨ c ∈ ['?', ':', ',', ']', '}', '%', '@', '\x60']) then
    some (String.ofList name, rest)
  else none

namespace Lexer

/-! ## Reading one token -/

/-- Reads an alias or an anchor. -/
def named? (token : String → Token) (p : Place) (ms : List Mark) (s : Lexer) :
    Option (Lexer × List Mark) := do
  let s ← s.atom? p
  let (name, rest) ← readName? ms
  return (s.push (token name), rest)

/-- Reads a tag. -/
def tagged? (p : Place) (ms : List Mark) (s : Lexer) : Option (Lexer × List Mark) := do
  let s ← s.atom? p
  let (tag, rest) ← Tag.read? s.inFlow ms
  return (s.push (.tag tag), rest)

/-- Reads a quoted scalar. -/
def quoted? (isSingle : Bool) (p : Place) (ms : List Mark) (s : Lexer) :
    Option (Lexer × List Mark) := do
  let s ← s.atom? p
  let (text, rest) ← readQuoted? isSingle (.inside .none) ms
  return (s.push (.scalar .quoted (String.ofList text)), rest)

/-- Reads a block scalar. -/
def block? (isLiteral : Bool) (ms : List Mark) (s : Lexer) : Option (Lexer × List Mark) := do
  let s ← s.dropKey?
  let (text, rest) ← readBlock? isLiteral s.indents.head? ms
  let style := if isLiteral then Style.literal else .folded
  return ((s.allowKey true).push (.scalar style (String.ofList text)), rest)

/-- Reads a plain scalar. -/
def plain? (p : Place) (ms : List Mark) (s : Lexer) : Option (Lexer × List Mark) := do
  let s ← s.atom? p
  let ctx : PlainContext := ⟨s.inFlow, (s.indents.head?.map (· + 1)).getD 0⟩
  let r ← ctx.read? ms
  let s := s.push (.scalar .plain (String.ofList r.text))
  return (if r.endsInBreak then s.allowKey true else s, r.rest)

/-- Reads the token that starts with a character; what follows it is given too. -/
def readToken? (m : Mark) (ms : List Mark) (s : Lexer) : Option (Lexer × List Mark) :=
  let c := m.char
  let p := m.place
  let next := peek ms
  let taken (s : Option Lexer) : Option (Lexer × List Mark) := s.map (·, ms)
  if p.column = 0 ∧ c = '%' then do
    let s ← s.dedentAll.dropKey?
    let (directive, rest) ← Directive.read? ms
    return ((s.allowKey false).push (.directive directive), rest)
  else if atDocumentMarker (m :: ms) then
    (s.pushOutside? (if c = '-' then .documentStart else .documentEnd)).map (·, ms.drop 2)
  else if c = '[' then taken (s.open? .openSequence p)
  else if c = '{' then taken (s.open? .openMapping p)
  else if c = ']' then taken (s.close? .closeSequence)
  else if c = '}' then taken (s.close? .closeMapping)
  else if c = ',' then taken s.comma?
  else if c = '-' ∧ endsWord next then taken (s.item? p)
  else if c = '?' ∧ (s.inFlow ∨ endsWord next) then taken (s.key? p)
  else if c = ':' ∧ (s.inFlow ∨ endsWord next) then taken (s.value? p)
  else if c = '*' then s.named? .alias p ms
  else if c = '&' then s.named? .anchor p ms
  else if c = '!' then s.tagged? p ms
  else if c = '|' ∧ !s.inFlow then s.block? true ms
  else if c = '>' ∧ !s.inFlow then s.block? false ms
  else if c = '\'' then s.quoted? true p ms
  else if c = '"' then s.quoted? false p ms
  else if PlainContext.starts s.inFlow c next then s.plain? p (m :: ms)
  else none

/-! ## Reading all tokens -/

/-- The tokens that end a text. -/
def finish? (s : Lexer) : Option (List Token) := (s.dedentAll.dropKey?).map (·.tokens.toList)

/-- Reads the tokens of the marks; every token takes at least one of them, so their number is fuel
enough. -/
def run? : Nat → List Mark → Lexer → Option (List Token)
  | fuel, ms, s => do
    let (keyAllowed, ms) := skipGap s.inFlow s.keyAllowed false ms
    let s ← (s.allowKey keyAllowed).dropPastKeys? (placeOf ms)
    match ms with
    | [] => s.finish?
    | m :: ms =>
      if m.char = endChar then s.finish?
      else
        match fuel with
        | 0 => none
        | fuel + 1 =>
          let (s, rest) ← (s.dedent m.place.column).readToken? m ms
          run? fuel rest s

end Lexer

def tokens? (text : String) : Option (List Token) :=
  (marks? text).bind fun ms => Lexer.run? ms.length ms .start

end EndpointGate.Yaml
