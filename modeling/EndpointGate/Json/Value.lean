import EndpointGate.Json.Quoted

/-!
# JSON values

Reading a value from a text, and writing an object of strings.
-/

namespace EndpointGate.Json

/-- A JSON value. Numbers are kept as they are written; a string in which half a character stands alone
has no text. -/
inductive Value where
  | null
  | bool (b : Bool)
  | number (text : List Char)
  | string (text : Option String)
  | array (items : List Value)
  | object (members : List (Option String × Value))
  deriving Repr, Inhabited

namespace Value

def text? : Value → Option String
  | .string text => text
  | _ => none

end Value

/-! ## Parts of a value -/

/-- The character may stand between the parts of a value. -/
def isSpace (c : Char) : Bool := c == ' ' || c == '\n' || c == '\r' || c == '\t'

/-- The text without the space it starts with. -/
def skipSpace (cs : List Char) : List Char := cs.dropWhile isSpace

/-- What follows a word. -/
def word? : List Char → List Char → Option (List Char)
  | [], cs => some cs
  | w :: ws, c :: cs => if w = c then word? ws cs else none
  | _ :: _, [] => none

/-- Takes decimal digits, of which there must be one. -/
def digits? (cs : List Char) : Option (List Char × List Char) :=
  let ds := cs.takeWhile Char.isDigit
  if ds = [] then none else some (ds, cs.dropWhile Char.isDigit)

/-- Takes the digits before a point; a zero stands alone. -/
def whole? : List Char → Option (List Char × List Char)
  | [] => none
  | c :: cs =>
    if c = '0' then
      match cs with
      | [] => some (['0'], [])
      | d :: ds => if d.isDigit then none else some (['0'], d :: ds)
    else digits? (c :: cs)

/-- Takes a point with the digits behind it, if there is one. -/
def fraction? : List Char → Option (List Char × List Char)
  | [] => some ([], [])
  | c :: cs =>
    if c = '.' then (digits? cs).map fun (ds, rest) => (c :: ds, rest) else some ([], c :: cs)

/-- Takes a sign if one is allowed and there. -/
def sign (allowed : List Char) : List Char → List Char × List Char
  | [] => ([], [])
  | c :: cs => if c ∈ allowed then ([c], cs) else ([], c :: cs)

/-- Takes an exponent, if there is one. -/
def exponent? : List Char → Option (List Char × List Char)
  | [] => some ([], [])
  | c :: cs =>
    if c = 'e' ∨ c = 'E' then
      let (s, rest) := sign ['+', '-'] cs
      (digits? rest).map fun (ds, rest) => (c :: s ++ ds, rest)
    else some ([], c :: cs)

def readNumber? (cs : List Char) : Option (Value × List Char) := do
  let (minus, cs) := sign ['-'] cs
  let (whole, cs) ← whole? cs
  let (fraction, cs) ← fraction? cs
  let (exponent, cs) ← exponent? cs
  return (.number (minus ++ whole ++ fraction ++ exponent), cs)

/-- Reads a string from behind its opening quote. -/
def readText? (cs : List Char) : Option (Option String × List Char) :=
  (readString? cs).map fun (text, rest) => (text.map String.ofList, rest)

/-! ## Values -/

mutual

def readValue? : Nat → List Char → Option (Value × List Char)
  | 0, _ => none
  | fuel + 1, cs =>
    match skipSpace cs with
    | '"' :: rest => (readText? rest).map fun (text, rest) => (.string text, rest)
    | '[' :: rest =>
      match skipSpace rest with
      | ']' :: rest => some (.array [], rest)
      | rest => (readItems? fuel rest).map fun (items, rest) => (.array items, rest)
    | '\x7b' :: rest =>
      match skipSpace rest with
      | '\x7d' :: rest => some (.object [], rest)
      | rest => (readMembers? fuel rest).map fun (members, rest) => (.object members, rest)
    | 'n' :: rest => (word? ['u', 'l', 'l'] rest).map (.null, ·)
    | 't' :: rest => (word? ['r', 'u', 'e'] rest).map (.bool true, ·)
    | 'f' :: rest => (word? ['a', 'l', 's', 'e'] rest).map (.bool false, ·)
    | rest => readNumber? rest

/-- Reads the items of an array, of which there must be one, and its end. -/
def readItems? : Nat → List Char → Option (List Value × List Char)
  | 0, _ => none
  | fuel + 1, cs => do
    let (v, rest) ← readValue? fuel cs
    match skipSpace rest with
    | ',' :: rest =>
      let (vs, rest) ← readItems? fuel rest
      return (v :: vs, rest)
    | ']' :: rest => return ([v], rest)
    | _ => none

/-- Reads the members of an object, of which there must be one, and its end. -/
def readMembers? : Nat → List Char → Option (List (Option String × Value) × List Char)
  | 0, _ => none
  | fuel + 1, cs =>
    match skipSpace cs with
    | '"' :: rest => do
      let (key, rest) ← readText? rest
      match skipSpace rest with
      | ':' :: rest =>
        let (v, rest) ← readValue? fuel rest
        match skipSpace rest with
        | ',' :: rest =>
          let (ms, rest) ← readMembers? fuel rest
          return ((key, v) :: ms, rest)
        | '\x7d' :: rest => return ([(key, v)], rest)
        | _ => none
      | _ => none
    | _ => none

end

/-- The value a text is. Every part of a value takes a character, so their number is fuel enough. -/
def Value.ofText? (s : String) : Option Value :=
  match readValue? (2 * s.length + 2) s.toList with
  | some (v, rest) => if skipSpace rest = [] then some v else none
  | none => none

/-! ## Writing -/

/-- A member of an object of strings. -/
def renderMember (key value : String) : List Char := quote key.toList ++ ':' :: quote value.toList

/-- Members with commas between them. -/
def renderMembers : List (String × String) → List Char
  | [] => []
  | [(key, value)] => renderMember key value
  | (key, value) :: ms => renderMember key value ++ ',' :: renderMembers ms

/-- An object of strings, without space. -/
def renderObject (members : List (String × String)) : String :=
  String.ofList ('\x7b' :: renderMembers members ++ ['\x7d'])

end EndpointGate.Json
