/-!
# Request targets

The URI of a request: a path with a query, an absolute URI, an authority, or an asterisk. What is left
of it is the path that routes are matched against, and the path with its query.
-/

namespace EndpointGate.Http

/-- The target of a request. -/
structure Target where
  /-- The path without the query. -/
  path : String
  /-- The path with the query. -/
  resource : String
  deriving DecidableEq, Repr, Inhabited

/-- The greatest number of octets in a URI. -/
def maxLength : Nat := 65534

/-! ## Path and query -/

/-- The character may stand in a path. -/
def isPathChar (c : Char) : Bool :=
  let n := c.toNat
  n == 0x21 || n == 0x22 || (0x24 ≤ n && n ≤ 0x3B) || n == 0x3D || (0x40 ≤ n && n ≤ 0x5F) ||
    (0x61 ≤ n && n ≤ 0x7E) || 0x80 ≤ n

/-- The character may stand in a query. -/
def isQueryChar (c : Char) : Bool :=
  let n := c.toNat
  n == 0x21 || (0x24 ≤ n && n ≤ 0x3B) || n == 0x3D ||
    (0x3F ≤ n && n ≤ 0x7E) || 0x80 ≤ n

def isFragmentStart (c : Char) : Bool := c == '#'

def endsPath (c : Char) : Bool := c == '?' || isFragmentStart c

/-- What stands before the fragment. -/
def dropFragment (cs : List Char) : List Char := cs.takeWhile fun c => !isFragmentStart c

/-- The path and the query are made of the characters they may have. -/
def isResource (cs : List Char) : Bool :=
  (cs.takeWhile fun c => !endsPath c).all isPathChar &&
    ((cs.dropWhile fun c => !endsPath c).drop 1).all isQueryChar

/-- The text, or a slash in place of the empty one. -/
def orSlash (cs : List Char) : List Char := if cs = [] then ['/'] else cs

/-- The target of a path with its query. -/
def Target.ofResource (cs : List Char) : Target :=
  ⟨String.ofList (orSlash (cs.takeWhile fun c => !endsPath c)), String.ofList (orSlash cs)⟩

/-- Reads a path with a query and a fragment. -/
def readResource? (cs : List Char) : Option Target :=
  let resource := dropFragment cs
  if isResource resource then some (.ofResource resource) else none

/-! ## Authority -/

def endsAuthority (c : Char) : Bool := c == '/' || endsPath c

/-- The marks an authority may have besides letters and digits. -/
def authorityMarks : List Char :=
  ['!', '$', '&', '\'', '(', ')', '*', '+', ',', '-', '.', ';', '=', '_', '~']

/-- What has been read of an authority. -/
structure AuthorityState where
  /-- The colons since the last bracket or at sign. -/
  colons : Nat
  opened : Bool
  closed : Bool
  /-- A percent sign came after the last bracket or at sign. -/
  percent : Bool
  deriving DecidableEq, Repr, Inhabited

def AuthorityState.after? (s : AuthorityState) (c : Char) : Option AuthorityState :=
  if c = ':' then if 8 ≤ s.colons then none else some { s with colons := s.colons + 1 }
  else if c = '[' then if s.percent || s.opened then none else some { s with opened := true }
  else if c = ']' then
    if !s.opened || s.closed then none
    else some { s with colons := 0, closed := true, percent := false }
  else if c = '@' then some { s with colons := 0, percent := false }
  else if c = '%' then some { s with percent := true }
  else if c.isAlphanum || c ∈ authorityMarks then some s
  else none

/-- The authority is complete: at most one colon, no open bracket and no percent sign are left. -/
def AuthorityState.isFinal (s : AuthorityState) : Bool :=
  s.opened == s.closed && s.colons ≤ 1 && !s.percent

/-- The text is an authority. -/
def isAuthority (cs : List Char) : Bool :=
  ((cs.foldlM AuthorityState.after? ⟨0, false, false, false⟩).any (·.isFinal)) &&
    cs.getLast? != some '@'

/-! ## Absolute URIs -/

/-- The character may stand in a scheme. -/
def isSchemeChar (c : Char) : Bool := c.isAlphanum || c == '+' || c == '-' || c == '.'

/-- The greatest length of a scheme. -/
def maxScheme : Nat := 64

/-- The length of the scheme of a text, if what follows it are a colon and two slashes. -/
def schemeLength? (cs : List Char) : Option Nat :=
  match cs.dropWhile isSchemeChar with
  | ':' :: '/' :: '/' :: _ =>
    if 3 < cs.length then some (cs.takeWhile isSchemeChar).length else none
  | _ => none

/-- Reads what follows a scheme: an authority, then a path with a query. -/
def readAfterScheme? (cs : List Char) : Option Target :=
  let authority := cs.takeWhile fun c => !endsAuthority c
  if authority ≠ [] ∧ isAuthority authority then
    readResource? (cs.dropWhile fun c => !endsAuthority c)
  else none

/-- Reads the URI of a request. -/
def Target.ofText? (uri : String) : Option Target :=
  let cs := uri.toList
  if maxLength < uri.utf8ByteSize ∨ cs = [] then none
  else if cs = ['*'] then some ⟨"*", "*"⟩
  else if cs.head? = some '/' then readResource? cs
  else
    match schemeLength? cs with
    | some n => if n ≤ maxScheme then readAfterScheme? (cs.drop (n + 3)) else none
    | none => if isAuthority cs then some ⟨"", ""⟩ else none

end EndpointGate.Http
