import EndpointGate.Yaml.Scalar.Quoted

/-!
# Tags and directives

A tag is a handle with a suffix, or verbatim. Directives in front of a document state the version and
declare handles.
-/

namespace EndpointGate.Yaml

/-- A tag as it is written; the handle is empty for a verbatim tag. -/
structure Tag where
  handle : String
  suffix : String
  deriving DecidableEq, Repr, Inhabited

/-- What stands in front of a document. -/
inductive Directive where
  | version (major minor : Nat)
  | handle (handle expansion : String)
  deriving DecidableEq, Repr, Inhabited

/-! ## The text of tags -/

/-- The characters of tags, names aside. -/
def tagSigns : List Char :=
  [';', '/', '?', ':', '@', '&', '=', '+', '$', '.', '%', '!', '~', '*', '\'', '(', ')']

/-- The character may stand in a tag. Commas and brackets may where the tag is delimited otherwise. -/
def isTagChar (delimited : Bool) (c : Char) : Bool :=
  isNameChar c || c ∈ tagSigns || (delimited && (c == ',' || c == '[' || c == ']'))

/-- The number of octets of a character whose first octet this is. -/
def octetCount? (octet : Nat) : Option Nat :=
  if octet < 0x80 then some 1
  else if 0xC0 ≤ octet ∧ octet < 0xE0 then some 2
  else if 0xE0 ≤ octet ∧ octet < 0xF0 then some 3
  else if 0xF0 ≤ octet ∧ octet < 0xF8 then some 4
  else none

/-- The character of octets, or the replacement character if there is none. -/
def charOfOctets (octets : List Nat) : List Char :=
  ((String.fromUTF8? ⟨(octets.map UInt8.ofNat).toArray⟩).getD "\uFFFD").toList

/-- Where a reader of percent-encoded text stands. -/
inductive EncodedState where
  /-- At any character. -/
  | plain
  /-- Before an octet: those before it and the number of those that must follow. -/
  | percent (octets : List Nat) (left : Nat)
  /-- After a percent sign. -/
  | high (octets : List Nat) (left : Nat)
  /-- After the first digit of an octet. -/
  | low (octets : List Nat) (left digit : Nat)
  deriving Repr, Inhabited

/-- The state after an octet, and the character that is complete with it. -/
def EncodedState.afterOctet? (octets : List Nat) (left octet : Nat) :
    Option (List Char × EncodedState) := do
  let left ← if octets = [] then octetCount? octet
    else if 0x80 ≤ octet ∧ octet < 0xC0 then some left else none
  let octets := octets ++ [octet]
  return if left ≤ 1 then (charOfOctets octets, .plain) else ([], .percent octets (left - 1))

/-- Reads the characters of a tag, up to one that cannot stand in it. -/
def readTagChars? (delimited : Bool) : EncodedState → List Mark → Option QuotedText
  | .plain, m :: ms =>
    if m.char = '%' then readTagChars? delimited (.high [] 0) ms
    else if isTagChar delimited m.char then
      (readTagChars? delimited .plain ms).map (.prepend [m.char])
    else some ([], m :: ms)
  | .plain, [] => some ([], [])
  | .percent octets left, m :: ms =>
    if m.char = '%' then readTagChars? delimited (.high octets left) ms else none
  | .high octets left, m :: ms =>
    (Text.hexValue? m.char).bind fun d => readTagChars? delimited (.low octets left d) ms
  | .low octets left digit, m :: ms =>
    (Text.hexValue? m.char).bind fun d =>
      (EncodedState.afterOctet? octets left (16 * digit + d)).bind fun (text, state) =>
        (readTagChars? delimited state ms).map (.prepend text)
  | _, [] => none

/-- The text of a tag, which an encoded end character ends. -/
def tagText (cs : List Char) : String := String.ofList (cs.takeWhile (· != endChar))

/-- Reads characters of a tag, of which there must be one. -/
def readTagText? (delimited : Bool) (ms : List Mark) : Option (String × List Mark) := do
  let (text, rest) ← readTagChars? delimited .plain ms
  if text = [] then none else return (tagText text, rest)

/-! ## Tags -/

/-- Reads a verbatim tag, from behind its opening bracket. -/
def readVerbatimTag? (ms : List Mark) : Option (Tag × List Mark) := do
  let (text, rest) ← readTagText? true ms
  match rest with
  | [] => none
  | m :: rest => if m.char = '>' then return (⟨"", text⟩, rest) else none

/-- Reads a tag with a handle, from behind its exclamation mark. Without a second one what follows is
the suffix; the lone mark is a verbatim tag. -/
def readShortTag? (ms : List Mark) : Option (Tag × List Mark) := do
  let name := String.ofList (takeChars isNameChar ms)
  match skipWhile isNameChar ms with
  | [] => none
  | m :: rest =>
    if m.char = '!' then
      let (suffix, rest) ← readTagText? false rest
      return (⟨"!" ++ name ++ "!", suffix⟩, rest)
    else
      let (text, rest) ← readTagChars? false .plain (m :: rest)
      let suffix := name ++ tagText text
      return (if suffix = "" then ⟨"", "!"⟩ else ⟨"!", suffix⟩, rest)

/-- Reads a tag from behind its exclamation mark. A blank, a line break or, inside flow collections, a
comma must follow. -/
def Tag.read? (inFlow : Bool) (ms : List Mark) : Option (Tag × List Mark) := do
  let (tag, rest) ←
    match ms with
    | [] => none
    | m :: after => if m.char = '<' then readVerbatimTag? after else readShortTag? (m :: after)
  if endsWord (peek rest) ∨ (inFlow ∧ peek rest = ',') then return (tag, rest) else none

/-! ## Directives -/

/-- The number of decimal digits. -/
def decimalValue (cs : List Char) : Nat :=
  cs.foldl (fun n c => 10 * n + (c.toNat - '0'.toNat)) 0

/-- Reads a part of a version: up to nine digits. -/
def readVersionPart? (ms : List Mark) : Option (Nat × List Mark) :=
  let cs := takeChars Char.isDigit ms
  if cs = [] ∨ 9 < cs.length then none
  else some (decimalValue cs, skipWhile Char.isDigit ms)

def readVersion? (ms : List Mark) : Option (Directive × List Mark) := do
  let (major, ms) ← readVersionPart? ms
  match ms with
  | [] => none
  | m :: ms =>
    if m.char = '.' then
      let (minor, ms) ← readVersionPart? ms
      return (.version major minor, ms)
    else none

/-- Reads a handle: an exclamation mark, or a name between two of them. -/
def readHandle? : List Mark → Option (String × List Mark)
  | [] => none
  | m :: ms =>
    if m.char = '!' then
      let name := takeChars isNameChar ms
      match skipWhile isNameChar ms with
      | [] => none
      | n :: rest =>
        if n.char = '!' then some ("!" ++ String.ofList name ++ "!", rest)
        else if name = [] then some ("!", n :: rest)
        else none
    else none

def readHandleDeclaration? (ms : List Mark) : Option (Directive × List Mark) := do
  let (handle, ms) ← readHandle? ms
  if !isWhite (peek ms) then none
  let (expansion, ms) ← readTagText? true (skipWhile isWhite ms)
  if endsWord (peek ms) then return (.handle handle expansion, ms) else none

/-- Reads a directive from behind its percent sign to the end of its line. -/
def Directive.read? (ms : List Mark) : Option (Directive × List Mark) := do
  let rest := skipWhile isNameChar ms
  if !endsWord (peek rest) then none
  let name := String.ofList (takeChars isNameChar ms)
  let rest := skipWhile isWhite rest
  let (directive, rest) ←
    if name = "YAML" then readVersion? rest
    else if name = "TAG" then readHandleDeclaration? rest
    else none
  return (directive, ← finishLine? rest)

/-! ## Expansion -/

/-- The handles of a document with their expansions. -/
abbrev Handles := List (String × String)

/-- The handles every document has. -/
def Handles.standard : Handles := [("!", "!"), ("!!", "tag:yaml.org,2002:")]

/-- The full name of a tag. -/
def Tag.expand? (handles : Handles) (tag : Tag) : Option String :=
  if tag.handle = "" then some tag.suffix
  else (handles.lookup tag.handle).map (· ++ tag.suffix)

/-- The handles that directives declare, in front of the standard ones. No handle may be declared
twice, and the version may be stated once, as 1.1 or 1.2. -/
def handlesOf? (directives : List Directive) : Option Handles :=
  let versions := directives.filterMap fun
    | .version major minor => some (major, minor)
    | .handle _ _ => none
  let declared := directives.filterMap fun
    | .handle handle expansion => some (handle, expansion)
    | .version _ _ => none
  let known := versions.all fun v => v == (1, 1) || v == (1, 2)
  if versions.length ≤ 1 ∧ known ∧ (declared.map (·.1)).Nodup then
    some (declared ++ Handles.standard)
  else none

end EndpointGate.Yaml
