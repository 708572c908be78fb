import EndpointGate.Declined
import EndpointGate.Route
import EndpointGate.Text.Quoted
import EndpointGate.Text.Terminal

/-!
# Events

What the program has to say about its work, each event with its level and its line in the log. A line is
a message and named values; the message is safe to show on a terminal, the values stand as they are.
-/

namespace EndpointGate

/-- How much an event matters, from the most to the least. -/
inductive Level where
  | error
  | warn
  | info
  | debug
  | trace
  deriving DecidableEq, Repr, Inhabited

namespace Level

/-- The place of a level: the more events it lets pass, the greater. -/
def rank : Level → Nat
  | .error => 1
  | .warn => 2
  | .info => 3
  | .debug => 4
  | .trace => 5

/-- The name of a level, in lower case. -/
def name : Level → String
  | .error => "error"
  | .warn => "warn"
  | .info => "info"
  | .debug => "debug"
  | .trace => "trace"

/-- The levels in order of their rank. -/
def all : List Level := [.error, .warn, .info, .debug, .trace]

def ofRank? (n : Nat) : Option Level := all.find? (·.rank == n)

/-- The level with this name, in any letter case. -/
def ofName? (s : String) : Option Level := all.find? (·.name == Text.asciiLowercase s)

/-- The level in the log: five columns, upper case, to the right. -/
def column : Level → String
  | .error => "ERROR"
  | .warn => " WARN"
  | .info => " INFO"
  | .debug => "DEBUG"
  | .trace => "TRACE"

end Level

/-- Something the program has done. -/
inductive Event where
  /-- A gate over this many patterns stands ready. -/
  | initialized (patterns : Nat)
  /-- A registered route is disabled. -/
  | routeDisabled (route : Route)
  /-- The lines of a report on disabled routes. -/
  | reported (lines : List String)
  /-- A request was declined. -/
  | declined (d : Declined)
  /-- The answer that grants a `CONNECT` request had a body, which is not sent. -/
  | bodyDropped
  /-- Settings are read from a file. -/
  | loading (path : String)
  /-- There is no settings file. -/
  | usingDefaults
  /-- The gate is switched off. -/
  | switchedOff
  deriving DecidableEq, Repr, Inhabited

namespace Event

def level : Event → Level
  | .bodyDropped => .error
  | .initialized _ | .loading _ | .usingDefaults | .switchedOff => .info
  | .routeDisabled _ => .debug
  | .reported _ | .declined _ => .warn

/-- What an event says, its named values included. -/
def text : Event → String
  | .initialized n => "Deprecated API gate initialized patterns=" ++ toString n
  | .routeDisabled r => "Route disabled route=" ++ r.path ++ " method=" ++ r.method
  | .reported lines =>
    Text.terminalSafe
      ("Disabling the following deprecated paths: \n" ++ String.intercalate "\n" lines)
  | .bodyDropped => "response to CONNECT with nonempty body"
  | .declined d =>
    Text.terminalSafe d.message ++ " method=" ++ d.method ++ " uri=" ++ d.uri ++ " pattern=" ++ d.pattern
  | .loading path => "Loading configuration path=" ++ Text.quoted path
  | .usingDefaults => "Using default configuration"
  | .switchedOff => "Deprecated API gate is switched off, every request is allowed"

/-- An event's entry in the log. -/
def line (e : Event) : String := e.level.column ++ " " ++ e.text ++ "\n"

/-- The log of the events that matter at least as much as the level. -/
def log (level : Level) (events : List Event) : String :=
  String.join ((events.filter fun e => e.level.rank ≤ level.rank).map line)

end Event

end EndpointGate
