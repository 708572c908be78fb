import EndpointGate.Yaml.Tag

/-!
# Tokens

The pieces a YAML text is made of. Indentation has become tokens of its own.
-/

namespace EndpointGate.Yaml

/-- How a scalar is written. -/
inductive Style where
  | plain
  | quoted
  | literal
  | folded
  deriving DecidableEq, Repr, Inhabited

/-- A piece of a YAML text. -/
inductive Token where
  | directive (directive : Directive)
  | documentStart
  | documentEnd
  /-- A block sequence starts. -/
  | blockSequence
  /-- A block mapping starts. -/
  | blockMapping
  /-- The indentation of a block collection ends. -/
  | blockEnd
  | openSequence
  | closeSequence
  | openMapping
  | closeMapping
  /-- An item of a block sequence follows. -/
  | item
  /-- An item of a flow collection is over. -/
  | comma
  | key
  | value
  | alias (name : String)
  | anchor (name : String)
  | tag (tag : Tag)
  | scalar (style : Style) (text : String)
  deriving DecidableEq, Repr, Inhabited

end EndpointGate.Yaml
