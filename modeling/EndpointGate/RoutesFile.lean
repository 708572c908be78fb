import EndpointGate.Route
import EndpointGate.Text.Case
import EndpointGate.Text.Split

/-!
# Routes files

A routes file has one route on a line, a method and a path. Blank lines and comments do not count as
routes, but they count as lines.
-/

namespace EndpointGate

/-- The two words of a text that has exactly two. -/
def wordPair? (cs : List Char) : Option (String × String) :=
  match Text.words cs with
  | [a, b] => some (String.ofList a, String.ofList b)
  | _ => none

/-- A line that is no route: its number, counted from one, and its text without the blanks around. -/
structure MalformedLine where
  number : Nat
  text : String
  deriving DecidableEq, Repr, Inhabited

namespace RoutesFile

/-- The line, its blanks trimmed, is blank or a comment. -/
def isSkipped (line : List Char) : Bool := line.isEmpty || line.head? == some '#'

/-- The route on a line. The method is in upper case whatever its letter case was. -/
def readRoute? (line : List Char) : Option Route :=
  (wordPair? line).map fun (method, path) => ⟨Text.asciiUppercase method, path⟩

/-- The routes on lines of which the first has the given number. -/
def readLines (number : Nat) : List (List Char) → Except MalformedLine (List Route)
  | [] => .ok []
  | line :: lines =>
    let text := Text.trim line
    if isSkipped text then readLines (number + 1) lines
    else
      match readRoute? text with
      | none => .error ⟨number, String.ofList text⟩
      | some r => (readLines (number + 1) lines).map (r :: ·)

/-- The routes of a file, or its first malformed line. -/
def read (content : String) : Except MalformedLine (List Route) :=
  readLines 1 (Text.lines content.toList)

end RoutesFile

end EndpointGate
