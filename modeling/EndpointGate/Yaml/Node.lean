import EndpointGate.Yaml.Token

/-!
# Nodes

The content of a YAML document. A node with an anchor carries its number, and an alias stands for the
last node with its number.
-/

namespace EndpointGate.Yaml

/-- A scalar: how it is written, its tag in full, and its text. -/
structure Scalar where
  style : Style
  tag : Option String
  text : String
  deriving DecidableEq, Repr, Inhabited

/-- The content of a YAML document. -/
inductive Node where
  | alias (number : Nat)
  | scalar (anchor : Option Nat) (value : Scalar)
  | sequence (anchor : Option Nat) (items : List Node)
  | mapping (anchor : Option Nat) (pairs : List (Node × Node))
  deriving Repr, Inhabited

namespace Scalar

/-- A plain scalar without text, where nothing is written. -/
def absent : Scalar := ⟨.plain, none, ""⟩

end Scalar

namespace Node

/-- The node where nothing is written. -/
def absent : Node := .scalar none .absent

def anchor : Node → Option Nat
  | .alias _ => none
  | .scalar a _ | .sequence a _ | .mapping a _ => a

mutual

/-- The node and the nodes in it, in the order of the text. -/
def nodes : Node → List Node
  | .alias n => [.alias n]
  | .scalar a v => [.scalar a v]
  | .sequence a items => .sequence a items :: nodesOfItems items
  | .mapping a pairs => .mapping a pairs :: nodesOfPairs pairs

/-- The nodes in the items of a sequence. -/
def nodesOfItems : List Node → List Node
  | [] => []
  | x :: xs => nodes x ++ nodesOfItems xs

/-- The nodes in the keys and values of a mapping. -/
def nodesOfPairs : List (Node × Node) → List Node
  | [] => []
  | (k, v) :: ps => nodes k ++ nodes v ++ nodesOfPairs ps

end

/-- The last node with this number in a document. -/
def anchored? (document : Node) (number : Nat) : Option Node :=
  (document.nodes.filter (·.anchor == some number)).getLast?

/-- The node itself, or the one an alias stands for. -/
def resolve? (document : Node) : Node → Option Node
  | .alias number => document.anchored? number
  | node => some node

end Node

end EndpointGate.Yaml
