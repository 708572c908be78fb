import EndpointGate.Main
import EndpointGate.Router.Gated
import EndpointGate.Tally.Exposition
import EndpointGate.Proofs.Pattern.Scan
import EndpointGate.Proofs.Pattern.Segment
import EndpointGate.Proofs.Pattern.Language
import EndpointGate.Proofs.Gate.SeenPath
import EndpointGate.Proofs.Registry.Insertion
import EndpointGate.Proofs.Gate.Answer
import EndpointGate.Proofs.Gate.Transparency
import EndpointGate.Proofs.FirstOccurrences
import EndpointGate.Proofs.Text.Runs
import EndpointGate.Proofs.Text.UpperCase
import EndpointGate.Proofs.MethodSet.Tokens
import EndpointGate.Proofs.Declaration.Grammar
import EndpointGate.Proofs.Settings.Startup
import EndpointGate.Proofs.Tally.Label
import EndpointGate.Proofs.Tally.Recording
import EndpointGate.Proofs.Gate.Accounting
import EndpointGate.Proofs.Router.Table
import EndpointGate.Proofs.Router.Building
import EndpointGate.Proofs.Gate.Handler
import EndpointGate.Proofs.Text.UpperCase.Settled
import EndpointGate.Proofs.Registry.Concatenation
import EndpointGate.Proofs.Declaration.RoundTrip
import EndpointGate.Proofs.Gate.DeclarationOrder
import EndpointGate.Proofs.Route.Sample
import EndpointGate.Proofs.Gate.Report
import EndpointGate.Proofs.Gate.Recorded
import EndpointGate.Proofs.ErrorBody.RoundTrip
import EndpointGate.Proofs.Pattern.Subtree
import EndpointGate.Proofs.RoutesFile.WellFormed
import EndpointGate.Proofs.CommandLine.Switch
import EndpointGate.Proofs.CommandLine.Validation
import EndpointGate.Proofs.Gate.Grouping
import EndpointGate.Proofs.Route.Instance
import EndpointGate.Proofs.Declaration.LetterCase
import EndpointGate.Proofs.Gate.LetterCase
import EndpointGate.Proofs.Gate.Renaming
import EndpointGate.Proofs.Pattern.Slashes
import EndpointGate.Proofs.Settings.Override
import EndpointGate.Proofs.Settings.Patterns
import EndpointGate.Proofs.Router.Nesting
import EndpointGate.Proofs.Pattern.ScanRun
import EndpointGate.Proofs.Pattern.WalkMemo
import EndpointGate.Proofs.MethodSet.Representation
import EndpointGate.Proofs.Text.Lines
import EndpointGate.Proofs.RoutesFile.Reading
import EndpointGate.Proofs.Tally.Sample
import EndpointGate.Proofs.Tally.Exposition
