import EndpointGate.Event

/-!
# Arguments

What the arguments of the command line ask for. They are taken from left to right, and the first one
that asks for help or cannot be understood decides.
-/

namespace EndpointGate.CommandLine

/-- What a run is asked to do. -/
structure Arguments where
  config : Option String
  level : Option Level
  printConfig : Bool
  validate : Bool
  /-- The requests to evaluate. -/
  checks : List String
  /-- The file of routes to report on. -/
  routes : Option String
  deriving DecidableEq, Repr, Inhabited

/-- The arguments of a run for which nothing is given. -/
def Arguments.none : Arguments := ⟨.none, .none, false, false, [], .none⟩

/-- The path of the settings file if none is given. -/
def defaultConfig : String := "deprecated-api.yaml"

namespace Arguments

/-- The path of the settings file. -/
def configPath (a : Arguments) : String := a.config.getD defaultConfig

def logLevel (a : Arguments) : Level := a.level.getD .info

end Arguments

/-- What the command line asks for. -/
inductive Command where
  | help
  | version
  | run (a : Arguments)
  /-- The arguments cannot be understood. -/
  | misuse
  deriving DecidableEq, Repr, Inhabited

/-! ## One argument -/

/-- An argument that stands alone. -/
inductive Switch where
  | help
  | version
  | printConfig
  | validate
  deriving DecidableEq, Repr, Inhabited

/-- An argument that has a value. -/
inductive Setting where
  | config
  | logLevel
  | check
  | routes
  deriving DecidableEq, Repr, Inhabited

/-- An argument by itself. -/
inductive Argument where
  | switch (s : Switch)
  /-- A setting, with its value if it is attached. -/
  | setting (s : Setting) (value : Option String)
  /-- The end of the arguments that are not positional. -/
  | terminator
  | unknown
  deriving DecidableEq, Repr, Inhabited

/-- The long names of switches. -/
def longSwitches : List (String × Switch) :=
  [("help", .help), ("version", .version), ("print-config", .printConfig), ("validate", .validate)]

/-- The long names of settings. -/
def longSettings : List (String × Setting) :=
  [("config", .config), ("log-level", .logLevel), ("check", .check), ("routes", .routes)]

/-- The letters of switches. -/
def shortSwitches : List (Char × Switch) := [('h', .help), ('V', .version)]

/-- The letters of settings. -/
def shortSettings : List (Char × Setting) := [('c', .config), ('L', .logLevel)]

/-- The argument that starts with two hyphens, without them. -/
def Argument.ofLong (cs : List Char) : Argument :=
  let name := String.ofList (cs.takeWhile (· != '='))
  match cs.dropWhile (· != '=') with
  | [] =>
    match longSwitches.lookup name, longSettings.lookup name with
    | some s, _ => .switch s
    | _, some s => .setting s none
    | _, _ => .unknown
  | _ :: value =>
    match longSettings.lookup name with
    | some s => .setting s (some (String.ofList value))
    | none => .unknown

/-- The value attached to a letter, behind an equals sign or not. -/
def attachedValue : List Char → Option String
  | [] => none
  | '=' :: cs => some (String.ofList cs)
  | cs => some (String.ofList cs)

/-- The argument that starts with a hyphen and a letter. A letter that stands alone decides, whatever
follows it. -/
def Argument.ofShort (letter : Char) (cs : List Char) : Argument :=
  match shortSwitches.lookup letter, shortSettings.lookup letter with
  | some s, _ => .switch s
  | _, some s => .setting s (attachedValue cs)
  | _, _ => .unknown

/-- Understands an argument by itself. -/
def Argument.ofText (s : String) : Argument :=
  match s.toList with
  | ['-', '-'] => .terminator
  | '-' :: '-' :: cs => .ofLong cs
  | '-' :: letter :: cs => .ofShort letter cs
  | _ => .unknown

/-- The text is not taken for a value, because it starts with a hyphen. -/
def isHyphenated (s : String) : Bool := s.toList.head? == some '-' && s != "-"

/-! ## All arguments -/

/-- The level a text names, or the one whose rank it is. -/
def levelOfText? (s : String) : Option Level :=
  let digits := match s.toList with
    | '+' :: cs => cs
    | cs => cs
  if !digits.isEmpty && digits.all Char.isDigit then
    Level.ofRank? (digits.foldl (fun n c => 10 * n + (c.toNat - '0'.toNat)) 0)
  else Level.ofName? s

/-- Keeps a value for which there may be one only. -/
def once? {α : Type} (present : Option α) (value : α) : Option (Option α) :=
  match present with
  | some _ => none
  | none => some (some value)

/-- Keeps a path, which may not be empty. -/
def path? (present : Option String) (value : String) : Option (Option String) :=
  if value = "" then none else once? present value

/-- Takes a setting. Only requests may be given more than once. -/
def Arguments.set? (a : Arguments) (value : String) : Setting → Option Arguments
  | .config => (path? a.config value).map fun config => { a with config }
  | .logLevel =>
    ((levelOfText? value).bind (once? a.level)).map fun level => { a with level }
  | .check => some { a with checks := a.checks ++ [value] }
  | .routes => (path? a.routes value).map fun routes => { a with routes }

/-- Understands arguments, some of which have been taken. -/
def Command.ofArgumentsFrom (a : Arguments) : List String → Command
  | [] => .run a
  | s :: rest =>
    match Argument.ofText s with
    | .switch .help => .help
    | .switch .version => .version
    | .switch .printConfig =>
      if a.printConfig then .misuse else ofArgumentsFrom { a with printConfig := true } rest
    | .switch .validate =>
      if a.validate then .misuse else ofArgumentsFrom { a with validate := true } rest
    | .setting setting (some value) =>
      match a.set? value setting with
      | none => .misuse
      | some a => ofArgumentsFrom a rest
    | .setting setting none =>
      match rest with
      | [] => .misuse
      | value :: rest =>
        if isHyphenated value then .misuse
        else
          match a.set? value setting with
          | none => .misuse
          | some a => ofArgumentsFrom a rest
    | .terminator => if rest.isEmpty then .run a else .misuse
    | .unknown => .misuse

def Command.ofArguments (args : List String) : Command := ofArgumentsFrom .none args

end EndpointGate.CommandLine
