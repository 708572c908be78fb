/-!
# Route templates

A route template is a path in which a segment, or its end, may be a parameter, and in which the rest of
the path may be one. Doubled braces stand for braces.
-/

namespace EndpointGate

/-- A part of a route template. -/
inductive Part where
  /-- A character that stands for itself. -/
  | char (c : Char)
  /-- The characters up to the end of the segment, of which there may be none in front of a slash. -/
  | param
  /-- One or more characters up to the end of the path. -/
  | rest
  deriving DecidableEq, Repr, Inhabited

abbrev Template := List Part

namespace Template

/-! ## Reading -/

/-- A brace that was written twice, or any other character. -/
abbrev Sign := Char × Bool

/-- The signs of a text. -/
def signs : List Char → List Sign
  | [] => []
  | '\x7b' :: '\x7b' :: cs => ('\x7b', true) :: signs cs
  | '\x7d' :: '\x7d' :: cs => ('\x7d', true) :: signs cs
  | c :: cs => (c, false) :: signs cs

/-- Where a reader of a template stands. -/
inductive ReadState where
  | outside
  /-- Behind the opening brace of a parameter. -/
  | opened
  /-- Behind the asterisk in front of a name. -/
  | starred
  /-- In the name of a parameter, for the rest of the path or not. -/
  | name (isRest : Bool)
  deriving DecidableEq, Repr, Inhabited

/-- A parameter may be closed before these signs: at the end of the path or, if it is not for the rest
of the path, of a segment. -/
def closes (isRest : Bool) (following : List Sign) : Bool :=
  match following with
  | [] => true
  | (c, _) :: _ => !isRest && c == '/'

def readParts? : ReadState → List Sign → Option Template
  | .outside, [] => some []
  | _, [] => none
  | .outside, (c, doubled) :: ss =>
    if doubled then (readParts? .outside ss).map (.char c :: ·)
    else if c = '\x7b' then readParts? .opened ss
    else if c = '\x7d' then none
    else (readParts? .outside ss).map (.char c :: ·)
  | .opened, (c, _) :: ss =>
    if c = '\x7d' then none
    else if c = '*' then readParts? .starred ss
    else readParts? (.name false) ss
  | .starred, (c, doubled) :: ss =>
    if (c = '\x7d' ∧ !doubled) ∨ c = '*' ∨ c = '/' then none else readParts? (.name true) ss
  | .name isRest, (c, doubled) :: ss =>
    if c = '\x7d' ∧ !doubled then
      if closes isRest ss then
        (readParts? .outside ss).map ((if isRest then .rest else .param) :: ·)
      else none
    else if c = '*' ∨ c = '/' then none
    else readParts? (.name isRest) ss

/-- The greatest number of parameters in a template, the one for the rest aside. -/
def maxParams : Nat := 25

def ofText? (path : String) : Option Template :=
  (readParts? .outside (signs path.toList)).filter fun t => t.count .param ≤ maxParams

/-! ## Matching -/

/-- The character ends a segment. -/
def isSlash (c : Char) : Bool := c == '/'

/-- The path is an instance of the template. A parameter may be empty only in front of a slash: it takes
nothing from a path that is at its end. -/
def matches? : Template → List Char → Bool
  | [], cs => cs.isEmpty
  | .char c :: ps, d :: cs => c == d && matches? ps cs
  | .char _ :: _, [] => false
  | .param :: ps, cs =>
    !cs.isEmpty && matches? ps (cs.dropWhile fun c => !isSlash c)
  | .rest :: _, cs => !cs.isEmpty

/-- Where the templates differ first the one has a character and the other a parameter. -/
def beats : Template → Template → Bool
  | .char _ :: _, .param :: _ => true
  | .char _ :: _, .rest :: _ => true
  | p :: ps, q :: qs => p == q && beats ps qs
  | _, _ => false

/-- The templates are the same, or where they differ first both have parameters. -/
def clashes : Template → Template → Bool
  | [], [] => true
  | p :: ps, q :: qs =>
    if p = q then clashes ps qs
    else
      match p, q with
      | .char _, _ | _, .char _ => false
      | _, _ => true
  | _, _ => false

theorem clashes_self (t : Template) : clashes t t = true := by
  induction t with
  | nil => rfl
  | cons p ps ih => simp [clashes, ih]

end Template

end EndpointGate
