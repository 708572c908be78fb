import EndpointGate.Yaml.Mark

/-!
# Gaps

The white characters and line breaks between two words of a scalar, and the text they stand for. One
line break is a space, further ones stand for themselves, and white characters count only on the line
of the words.
-/

namespace EndpointGate.Yaml

/-- What stands between two words of a scalar. -/
inductive Gap where
  /-- White characters on one line. -/
  | white (text : List Char)
  /-- Line breaks: the first one, unless it is escaped, and the others. -/
  | lines (first : Option Char) (others : List Char)
  deriving DecidableEq, Repr, Inhabited

namespace Gap

/-- Nothing between two characters. -/
def none : Gap := .white []

/-- A line break whose own text is escaped. -/
def escaped : Gap := .lines .none []

/-- The gap with one more white character or line break. -/
def add (c : Char) : Gap → Gap
  | .white text => if isBreak c then .lines (some c) [] else .white (text ++ [c])
  | .lines first others =>
    if isBreak c then .lines first (others ++ [c]) else .lines first others

/-- The gap has a line break. -/
def hasBreak : Gap → Bool
  | .white _ => false
  | .lines _ _ => true

/-- The text of the first line break before the others: a line feed is folded into them. -/
def fold (first : Option Char) (others : List Char) : List Char :=
  if first = some '\n' then if others = [] then [' '] else others
  else first.toList ++ others

/-- The text a gap stands for. -/
def text : Gap → List Char
  | .white text => text
  | .lines first others => fold first others

end Gap

end EndpointGate.Yaml
