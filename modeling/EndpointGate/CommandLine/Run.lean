import EndpointGate.CommandLine.Arguments
import EndpointGate.CommandLine.Help
import EndpointGate.RoutesFile
import EndpointGate.Settings.Document
import EndpointGate.Settings.Sample

/-!
# Runs

What a run of the program writes and how it ends, as a function of its arguments, the files it can read
and the variables of the environment.
-/

namespace EndpointGate.CommandLine

/-- The content of the files, by path. -/
abbrev Files := String → Except ReadFault ByteArray

/-- Something is at the path. -/
def isThere (files : Files) (path : String) : Bool :=
  match files path with
  | .error .notFound | .error .notDirectory | .error .nameTooLong => false
  | .error (.refused isThere _ _) => isThere
  | _ => true

def readText (files : Files) (path : String) : Except ReadFault String :=
  (files path).bind fun bytes =>
    match String.fromUTF8? bytes with
    | none => .error .notText
    | some text => .ok text

/-- Why a run fails. -/
inductive Failure where
  /-- The settings cannot be loaded or used. -/
  | settings (e : SettingsError)
  /-- There is no settings file to validate. -/
  | configMissing (path : String)
  /-- A request to evaluate is not a method and a URI. -/
  | malformedRequest (text : String)
  /-- The routes file cannot be read. -/
  | unreadableRoutes (path : String) (fault : ReadFault)
  /-- A line of the routes file is no route. -/
  | malformedRoutes (line : MalformedLine)
  deriving DecidableEq, Repr

namespace Failure

def message : Failure → String
  | .settings e => e.message
  | .configMissing path => "Configuration file not found: " ++ Text.quoted path
  | .malformedRequest text =>
    "invalid request " ++ Text.quoted text ++ ", expected \"METHOD URI\""
  | .unreadableRoutes path _ => "failed to read routes file " ++ Text.quoted path
  | .malformedRoutes line =>
    "line " ++ toString line.number ++ ": expected \"METHOD PATH\", got " ++
      Text.quoted line.text

/-- The fault behind a failure, where there is one to tell. -/
def cause : Failure → Option ReadFault
  | .settings e => e.cause
  | .unreadableRoutes _ fault => some fault
  | _ => none

/-- What the user is told about a failure. -/
def report (f : Failure) : String :=
  "Error: " ++ f.message ++ "\n" ++
    match f.cause with
    | none => ""
    | some fault => "\nCaused by:\n    " ++ fault.message ++ "\n"

end Failure

/-- Something a run writes: an event of its log, or a line of its own. -/
inductive Output where
  | event (e : Event)
  | line (text : String)
  deriving DecidableEq, Repr, Inhabited

/-- An output as it is written; events below the level are left out. -/
def Output.render (level : Level) : Output → String
  | .event e => Event.log level [e]
  | .line text => text ++ "\n"

/-- What a run has written, and its value unless it failed. -/
structure Run (α : Type) where
  outputs : List Output
  result : Except Failure α

namespace Run

/-- A run that goes on with a value. -/
def ok {α : Type} (outputs : List Output) (a : α) : Run α := ⟨outputs, .ok a⟩

def fail {α : Type} (outputs : List Output) (f : Failure) : Run α := ⟨outputs, .error f⟩

def andThen {α β : Type} (r : Run α) (next : α → Run β) : Run β :=
  match r.result with
  | .error f => ⟨r.outputs, .error f⟩
  | .ok a => ⟨r.outputs ++ (next a).outputs, (next a).result⟩

end Run

/-! ## Settings -/

/-- Loads the settings file. Without one the defaults hold, but there is nothing to validate. -/
def loadSettings (a : Arguments) (files : Files) : Run Settings :=
  if isThere files a.configPath then
    let loaded : Except SettingsError Settings :=
      match readText files a.configPath with
      | .error fault => .error (.unreadable fault)
      | .ok text => Settings.load text
    ⟨[.event (.loading a.configPath)], loaded.mapError .settings⟩
  else if a.validate then .fail [] (.configMissing a.configPath)
  else .ok [.event .usingDefaults] .default

/-- Overrides the settings by variables and checks them. -/
def applyVariables (vars : Variables) (s : Settings) : Run Settings :=
  let (s, checked) := s.applyVariables vars
  ⟨[], (checked.mapError .settings).map fun _ => s⟩

def settingsOf (a : Arguments) (files : Files) (vars : Variables) : Run Settings :=
  (loadSettings a files).andThen (applyVariables vars)

/-- What validation says about settings that can be used. -/
def validLine (s : Settings) : String :=
  "Configuration is valid (disabled: " ++ (if s.disabled then "true" else "false") ++
    ", patterns: " ++ toString ((s.patterns.map (·.length)).getD 0) ++ ")"

/-! ## Requests and routes -/

def verdictLine (method uri : String) : Decision → String
  | .allow => "ALLOW   [" ++ method ++ "] " ++ uri
  | .decline d => "DECLINE " ++ d.message

/-- Evaluates a request. -/
def checkRequest (g : Gate) (text : String) : Run Gate :=
  match wordPair? text.toList with
  | none => .fail [] (.malformedRequest text)
  | some (method, uri) =>
    let (decision, g) := g.evaluate method uri
    .ok (decision.events.map .event ++ [.line (verdictLine method uri decision)]) g

/-- Evaluates requests one after another. -/
def checkRequests (g : Gate) : List String → Run Gate
  | [] => .ok [] g
  | text :: texts => (checkRequest g text).andThen fun g => checkRequests g texts

def reportRoutes (g : Gate) (files : Files) (path : String) : Run Unit :=
  match readText files path with
  | .error fault => .fail [] (.unreadableRoutes path fault)
  | .ok content =>
    match RoutesFile.read content with
    | .error line => .fail [] (.malformedRoutes line)
    | .ok routes =>
      .ok ((g.reportEvents routes).map .event ++ (g.disabledRoutes routes).map .line) ()

/-- The work of a gate: the requests, then the routes. -/
def useGate (a : Arguments) (files : Files) (g : Gate) : Run Unit :=
  (Run.ok [.event g.startEvent] g).andThen fun g =>
    (checkRequests g a.checks).andThen fun g =>
      match a.routes with
      | none => .ok [] ()
      | some path => reportRoutes g files path

/-! ## The whole run -/

/-- What follows once the settings are known. -/
def useSettings (a : Arguments) (files : Files) (s : Settings) : Run Unit :=
  if a.validate then .ok [.line (validLine s)] ()
  else
    match s.gate with
    | .error e => .fail [] (.settings e)
    | .ok none => .ok [.event .switchedOff] ()
    | .ok (some g) => useGate a files g

def run (a : Arguments) (files : Files) (vars : Variables) : Run Unit :=
  if a.printConfig then .ok [.line Settings.sample] ()
  else (settingsOf a files vars).andThen (useSettings a files)

/-- How the program ends: what it has written, and what went wrong. -/
inductive Outcome where
  | finished (written : String) (failure : Option Failure)
  /-- The arguments cannot be understood. -/
  | misuse
  deriving DecidableEq, Repr

/-- The outcome of a run whose log has this level. -/
def Run.outcome (level : Level) (r : Run Unit) : Outcome :=
  .finished (String.join (r.outputs.map (Output.render level)))
    (match r.result with
    | .error f => some f
    | .ok () => none)

def Command.outcome (files : Files) (vars : Variables) : Command → Outcome
  | .help => .finished (helpText ++ "\n") none
  | .version => .finished (versionText ++ "\n") none
  | .run a => (CommandLine.run a files vars).outcome a.logLevel
  | .misuse => .misuse

/-- The exit code of an outcome. -/
def Outcome.code : Outcome → UInt32
  | .finished _ none => 0
  | .finished _ (some _) => 1
  | .misuse => 2

end EndpointGate.CommandLine
