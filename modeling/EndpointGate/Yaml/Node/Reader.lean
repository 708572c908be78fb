import EndpointGate.Yaml.Node
import EndpointGate.Yaml.Token.Lexer

/-!
# Reading nodes

The nodes that tokens make up. A text holds one document or none.
-/

namespace EndpointGate.Yaml

/-- The tokens that are left, and the number of every anchor name known. -/
structure Reading where
  rest : List Token
  names : List (String × Nat)
  deriving Repr, Inhabited

/-- What stands in front of a node. -/
structure Properties where
  anchor : Option Nat
  tag : Option String
  deriving DecidableEq, Repr, Inhabited

namespace Reading

/-- The reading with these tokens left. -/
def skipTo (r : Reading) (rest : List Token) : Reading := { r with rest }

/-- The next token is one of these. -/
def isAt (r : Reading) (ts : List Token) : Bool := r.rest.head?.any (· ∈ ts)

/-- Gives an anchor its number, which is the number of names known before. -/
def define (r : Reading) (name : String) : Nat × Reading :=
  let number := r.names.length
  (number, { r with names := (name, number) :: r.names.filter (·.1 != name) })

def anchor (r : Reading) : Option Nat × Reading :=
  match r.rest with
  | .anchor name :: rest => let (n, r) := (r.skipTo rest).define name; (some n, r)
  | _ => (none, r)

def tag? (handles : Handles) (r : Reading) : Option (Option String × Reading) :=
  match r.rest with
  | .tag t :: rest => (t.expand? handles).map fun name => (some name, r.skipTo rest)
  | _ => some (none, r)

/-- Reads an anchor and a tag in either order. -/
def properties? (handles : Handles) (r : Reading) : Option (Properties × Reading) := do
  let (before, r) := r.anchor
  let (tag, r) ← r.tag? handles
  let (after, r) := if before.isNone ∧ tag.isSome then r.anchor else (none, r)
  return (⟨before <|> after, tag⟩, r)

end Reading

/-- Where a node stands. -/
inductive Position where
  | inFlow
  | inBlock
  /-- A key or a value of a block mapping, which may be a sequence that is not indented. -/
  | inMapping
  deriving DecidableEq, Repr, Inhabited

/-- The tokens before which an item of a block sequence is absent. -/
def itemEnds : List Token := [.item, .blockEnd]

/-- The tokens before which an item of a sequence that is not indented is absent. -/
def looseItemEnds : List Token := [.item, .key, .value, .blockEnd]

/-- The tokens before which a key or a value of a block mapping is absent. -/
def pairEnds : List Token := [.key, .value, .blockEnd]

/-- The tokens before which a key of a flow mapping is absent. -/
def flowKeyEnds : List Token := [.value, .comma, .closeMapping]

/-- The tokens before which a value of a flow mapping is absent. -/
def flowValueEnds : List Token := [.comma, .closeMapping]

/-- The tokens before which the key of a lone pair in a flow sequence is absent. -/
def loneKeyEnds : List Token := [.value, .comma, .closeSequence]

/-- The tokens before which the value of a lone pair in a flow sequence is absent. -/
def loneValueEnds : List Token := [.comma, .closeSequence]

mutual

def Reading.node? (handles : Handles) :
    Nat → Position → Reading → Option (Node × Reading)
  | 0, _, _ => none
  | fuel + 1, position, r =>
    match r.rest with
    | .alias name :: rest => (r.names.lookup name).map fun n => (.alias n, r.skipTo rest)
    | _ => do
      let (props, r) ← r.properties? handles
      match r.rest with
      | .scalar style text :: rest =>
        return (.scalar props.anchor ⟨style, props.tag, text⟩, r.skipTo rest)
      | .openSequence :: rest =>
        let (items, r) ← Reading.flowItems? handles fuel true (r.skipTo rest)
        return (.sequence props.anchor items, r)
      | .openMapping :: rest =>
        let (pairs, r) ← Reading.flowPairs? handles fuel true (r.skipTo rest)
        return (.mapping props.anchor pairs, r)
      | .blockSequence :: rest =>
        if position = .inFlow then none
        let (items, r) ← Reading.items? handles fuel (r.skipTo rest)
        return (.sequence props.anchor items, r)
      | .blockMapping :: rest =>
        if position = .inFlow then none
        let (pairs, r) ← Reading.pairs? handles fuel (r.skipTo rest)
        return (.mapping props.anchor pairs, r)
      | rest =>
        if position = .inMapping ∧ rest.head? = some .item then
          let (items, r) ← Reading.looseItems? handles fuel r
          return (.sequence props.anchor items, r)
        else if props.anchor.isSome ∨ props.tag.isSome then
          return (.scalar props.anchor ⟨.plain, props.tag, ""⟩, r)
        else none

/-- Reads a node that is absent before the given tokens. -/
def Reading.optional? (handles : Handles) :
    Nat → Position → List Token → Reading → Option (Node × Reading)
  | 0, _, _, _ => none
  | fuel + 1, position, ends, r =>
    if r.isAt ends then some (.absent, r) else Reading.node? handles fuel position r

/-- Reads the items of a block sequence and its end. -/
def Reading.items? (handles : Handles) : Nat → Reading → Option (List Node × Reading)
  | 0, _ => none
  | fuel + 1, r =>
    match r.rest with
    | .item :: rest => do
      let (x, r) ← Reading.optional? handles fuel .inBlock itemEnds (r.skipTo rest)
      let (xs, r) ← Reading.items? handles fuel r
      return (x :: xs, r)
    | .blockEnd :: rest => some ([], r.skipTo rest)
    | _ => none

/-- Reads the items of a sequence that is not indented. -/
def Reading.looseItems? (handles : Handles) : Nat → Reading → Option (List Node × Reading)
  | 0, _ => none
  | fuel + 1, r =>
    match r.rest with
    | .item :: rest => do
      let (x, r) ← Reading.optional? handles fuel .inBlock looseItemEnds (r.skipTo rest)
      let (xs, r) ← Reading.looseItems? handles fuel r
      return (x :: xs, r)
    | _ => some ([], r)

/-- Reads the pairs of a block mapping and its end. A value needs a key before it. -/
def Reading.pairs? (handles : Handles) : Nat → Reading → Option (List (Node × Node) × Reading)
  | 0, _ => none
  | fuel + 1, r =>
    match r.rest with
    | .key :: rest => do
      let (k, r) ← Reading.optional? handles fuel .inMapping pairEnds (r.skipTo rest)
      let (v, r) ← Reading.valueAfter? handles fuel .inMapping pairEnds r
      let (ps, r) ← Reading.pairs? handles fuel r
      return ((k, v) :: ps, r)
    | .blockEnd :: rest => some ([], r.skipTo rest)
    | _ => none

/-- Reads a value with its indicator; without one it is absent. -/
def Reading.valueAfter? (handles : Handles) :
    Nat → Position → List Token → Reading → Option (Node × Reading)
  | 0, _, _, _ => none
  | fuel + 1, position, ends, r =>
    match r.rest with
    | .value :: rest => Reading.optional? handles fuel position ends (r.skipTo rest)
    | _ => some (.absent, r)

/-- Reads the items of a flow sequence and its end. A pair may stand alone as an item. -/
def Reading.flowItems? (handles : Handles) :
    Nat → Bool → Reading → Option (List Node × Reading)
  | 0, _, _ => none
  | fuel + 1, isFirst, r =>
    match r.rest with
    | .closeSequence :: rest => some ([], r.skipTo rest)
    | .comma :: .closeSequence :: rest => if isFirst then none else some ([], r.skipTo rest)
    | .comma :: rest =>
      if isFirst then none else Reading.flowItem? handles fuel (r.skipTo rest)
    | _ => if isFirst then Reading.flowItem? handles fuel r else none

/-- Reads an item of a flow sequence, and the others. -/
def Reading.flowItem? (handles : Handles) : Nat → Reading → Option (List Node × Reading)
  | 0, _ => none
  | fuel + 1, r =>
    match r.rest with
    | .key :: rest => do
      let (k, r) ← Reading.optional? handles fuel .inFlow loneKeyEnds (r.skipTo rest)
      let (v, r) ← Reading.valueAfter? handles fuel .inFlow loneValueEnds r
      let (xs, r) ← Reading.flowItems? handles fuel false r
      return (.mapping none [(k, v)] :: xs, r)
    | _ => do
      let (x, r) ← Reading.node? handles fuel .inFlow r
      let (xs, r) ← Reading.flowItems? handles fuel false r
      return (x :: xs, r)

def Reading.flowPairs? (handles : Handles) :
    Nat → Bool → Reading → Option (List (Node × Node) × Reading)
  | 0, _, _ => none
  | fuel + 1, isFirst, r =>
    match r.rest with
    | .closeMapping :: rest => some ([], r.skipTo rest)
    | .comma :: .closeMapping :: rest => if isFirst then none else some ([], r.skipTo rest)
    | .comma :: rest =>
      if isFirst then none else Reading.flowPair? handles fuel (r.skipTo rest)
    | _ => if isFirst then Reading.flowPair? handles fuel r else none

/-- Reads a pair of a flow mapping, and the others. What is no key has no value. -/
def Reading.flowPair? (handles : Handles) :
    Nat → Reading → Option (List (Node × Node) × Reading)
  | 0, _ => none
  | fuel + 1, r =>
    match r.rest with
    | .key :: rest => do
      let (k, r) ← Reading.optional? handles fuel .inFlow flowKeyEnds (r.skipTo rest)
      let (v, r) ← Reading.valueAfter? handles fuel .inFlow flowValueEnds r
      let (ps, r) ← Reading.flowPairs? handles fuel false r
      return ((k, v) :: ps, r)
    | _ => do
      let (k, r) ← Reading.node? handles fuel .inFlow r
      let (ps, r) ← Reading.flowPairs? handles fuel false r
      return ((k, .absent) :: ps, r)

end

/-! ## Documents -/

def Token.directive? : Token → Option Directive
  | .directive d => some d
  | _ => none

/-- The tokens that may not start the content of a document. -/
def Token.isOutside : Token → Bool
  | .directive _ | .documentStart | .documentEnd => true
  | _ => false

/-- Reads the content of a document; it may be absent after the mark of its start. -/
def readContent? (handles : Handles) (isMarked : Bool) (ts : List Token) :
    Option (Node × List Token) :=
  if isMarked ∧ ts.head?.all Token.isOutside then some (.absent, ts)
  else
    (Reading.node? handles (4 * ts.length + 4) .inBlock ⟨ts, []⟩).map fun (node, r) =>
      (node, r.rest)

/-- Reads the document of the tokens: none where there are no tokens. Directives need the mark of a
document's start, and nothing but marks of its end may follow. -/
def document? (ts : List Token) : Option (Option Node) :=
  if ts = [] then some none
  else do
    let directives := (ts.takeWhile fun t => t.directive?.isSome).filterMap Token.directive?
    let handles ← handlesOf? directives
    let (node, rest) ←
      match ts.drop directives.length with
      | .documentStart :: ts => readContent? handles true ts
      | ts => if directives = [] then readContent? handles false ts else none
    if rest.all (· = .documentEnd) then return some node else none

/-- Reads the document of a text. -/
def read? (text : String) : Option (Option Node) := (tokens? text).bind document?

end EndpointGate.Yaml
