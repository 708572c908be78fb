/-!
# Marks

The characters of a YAML text, each with its place. A text ends with a mark of its own, so that what
stands at the end has a place too.
-/

namespace EndpointGate.Yaml

/-- A place in a text. -/
structure Place where
  index : Nat
  line : Nat
  column : Nat
  deriving DecidableEq, Repr, Inhabited

/-- A character in its place. -/
structure Mark where
  char : Char
  place : Place
  deriving DecidableEq, Repr, Inhabited

/-! ## Characters -/

/-- The character may stand in a YAML text. -/
def isAllowed (c : Char) : Bool :=
  let n := c.toNat
  n == 0x9 || n == 0xA || n == 0xD || (0x20 ≤ n && n ≤ 0x7E) || n == 0x85 ||
    (0xA0 ≤ n && n ≤ 0xD7FF) || (0xE000 ≤ n && n ≤ 0xFFFD) || 0x10000 ≤ n

/-- The character that stands for the end of a text. It is not allowed in one. -/
def endChar : Char := '\x00'

/-- The character is white: a space or a tabulator. -/
def isWhite (c : Char) : Bool := c == ' ' || c == '\t'

/-- The character breaks a line. Carriage returns and next-line characters are line feeds here. -/
def isBreak (c : Char) : Bool := c == '\n' || c == '\u2028' || c == '\u2029'

/-- No more characters follow on the line. -/
def endsLine (c : Char) : Bool := isBreak c || c == endChar

def endsWord (c : Char) : Bool := isWhite c || endsLine c

/-- The byte order mark, which may start a line. -/
def byteOrderMark : Char := '\uFEFF'

/-- The character may stand in the name of an anchor, a handle or a directive. -/
def isNameChar (c : Char) : Bool := c.isAlphanum || c == '_' || c == '-'

def isFlowIndicator (c : Char) : Bool := c == ',' || c == '[' || c == ']' || c == '{' || c == '}'

theorem isAllowed_endChar : isAllowed endChar = false := by decide

/-! ## The marks of a text -/

/-- The line breaks of a text in one form: a carriage return, with or without a line feed, and a
next-line character are each a line feed. -/
def unifyBreaks : List Char → List Char
  | [] => []
  | '\r' :: '\n' :: cs => '\n' :: unifyBreaks cs
  | c :: cs => (if c = '\r' ∨ c = '\u0085' then '\n' else c) :: unifyBreaks cs

def Place.after (p : Place) (c : Char) : Place :=
  if isBreak c then ⟨p.index + 1, p.line + 1, 0⟩ else ⟨p.index + 1, p.line, p.column + 1⟩

/-- The marks of characters that start at a place, with the mark of their end. -/
def marksFrom (p : Place) : List Char → List Mark
  | [] => [⟨endChar, p⟩]
  | c :: cs => ⟨c, p⟩ :: marksFrom (p.after c) cs

def marks? (text : String) : Option (List Mark) :=
  if text.toList.all isAllowed then
    some (marksFrom ⟨0, 0, 0⟩ (unifyBreaks text.toList))
  else none

/-! ## Looking at marks -/

/-- The next character. -/
def peek : List Mark → Char
  | [] => endChar
  | m :: _ => m.char

/-- The place of the next character. -/
def placeOf : List Mark → Place
  | [] => ⟨0, 0, 0⟩
  | m :: _ => m.place

/-- The marks from the first one on whose character `p` does not hold. -/
def skipWhile (p : Char → Bool) (ms : List Mark) : List Mark := ms.dropWhile fun m => p m.char

/-- The characters in front for which `p` holds. -/
def takeChars (p : Char → Bool) (ms : List Mark) : List Char :=
  (ms.takeWhile fun m => p m.char).map (·.char)

/-- A document starts or ends here: three hyphens or three dots stand alone at the start of a line. -/
def atDocumentMarker : List Mark → Bool
  | a :: b :: c :: rest =>
    a.place.column == 0 && (a.char == '-' || a.char == '.') && b.char == a.char &&
      c.char == a.char && endsWord (peek rest)
  | _ => false

/-- A comment in front is passed over. -/
def skipComment (ms : List Mark) : List Mark :=
  if peek ms = '#' then skipWhile (fun c => !endsLine c) ms else ms

/-- What follows on a line must be white or a comment; the marks of the next line. -/
def finishLine? (ms : List Mark) : Option (List Mark) :=
  let rest := skipComment (skipWhile isWhite ms)
  match rest with
  | [] => some []
  | m :: ms => if isBreak m.char then some ms else if m.char = endChar then some rest else none

end EndpointGate.Yaml
