import EndpointGate.Declaration
import EndpointGate.Gate

/-!
# Settings

Whether the gate is switched on, and the declarations it is built from. Variables of the environment
override either setting.
-/

namespace EndpointGate

/-- The settings of the gate. -/
structure Settings where
  /-- Requests to deprecated endpoints are declined. -/
  disabled : Bool
  /-- The declarations, where they are given. -/
  patterns : Option (List String)
  deriving DecidableEq, Repr, Inhabited

/-- Where the values of variables come from. -/
abbrev Variables := String → Option String

namespace Settings

/-- The settings that hold where nothing is set. -/
def default : Settings := ⟨false, none⟩

/-- The registry the settings ask for, none when the gate is switched off. Declarations matter only when
it is switched on, and then there must be some. -/
def registry (s : Settings) : Except SettingsError (Option Registry) :=
  if s.disabled then
    match s.patterns with
    | none | some [] => .error .missingPatterns
    | some entries => (Registry.ofEntries entries).map some
  else .ok none

/-- The gate the settings ask for, none when it is switched off. -/
def gate (s : Settings) : Except SettingsError (Option Gate) :=
  s.registry.map fun r => r.map Gate.ofRegistry

/-- Checks that the settings can be used. -/
def validate (s : Settings) : Except SettingsError Unit := s.registry.map fun _ => ()

/-! ## Overrides -/

/-- The variable that overrides the switch. -/
def disabledVariable : String := "DEPRECATED_API_DISABLED"

/-- The variable that overrides the declarations. -/
def patternsVariable : String := "DEPRECATED_API_PATTERNS"

/-- The texts for a switch that is on. -/
def onTexts : List String := ["true", "1", "t"]

/-- The texts for a switch that is off. -/
def offTexts : List String := ["false", "0", "f", ""]

/-- The truth value a text stands for; blanks around it and its letter case do not matter. -/
def flag? (value : String) : Option Bool :=
  let text := Text.asciiLowercase (Text.trimmed value)
  if text ∈ onTexts then some true else if text ∈ offTexts then some false else none

/-- The declarations of a text that separates them by semicolons; blank ones do not count. -/
def patternsOf (value : String) : List String :=
  (((Text.pieces (· == ';') value.toList).map Text.trim).filter fun p => !p.isEmpty).map
    String.ofList

/-- Overrides the switch. -/
def overrideDisabled (vars : Variables) (s : Settings) : Except SettingsError Settings :=
  match vars disabledVariable with
  | none => .ok s
  | some value =>
    match flag? value with
    | none => .error (.invalidFlag disabledVariable value)
    | some b => .ok { s with disabled := b }

/-- Overrides the declarations. -/
def overridePatterns (vars : Variables) (s : Settings) : Settings :=
  match vars patternsVariable with
  | none => s
  | some value => { s with patterns := some (patternsOf value) }

/-- Overrides both settings; if one cannot be read nothing is overridden. -/
def override (s : Settings) (vars : Variables) : Except SettingsError Settings :=
  (overrideDisabled vars s).map (overridePatterns vars)

/-- A change of settings in place. Where it fails, the settings stay as they are by then. -/
abbrev Update := ExceptT SettingsError (StateM Settings) Unit

/-- The settings after an update, and whether it went through. -/
def Update.on (u : Update) (s : Settings) : Settings × Except SettingsError Unit := (u.run.run s).swap

/-- Sets the switch if its variable is there. -/
def setDisabled (vars : Variables) : Update := do
  if let some value := vars disabledVariable then
    match flag? value with
    | none => throw (.invalidFlag disabledVariable value)
    | some b => modify fun s => { s with disabled := b }

/-- Sets the declarations if their variable is there. -/
def setPatterns (vars : Variables) : Update := do
  if let some value := vars patternsVariable then
    modify fun s => { s with patterns := some (patternsOf value) }

/-- Overrides both settings in place, the switch first. -/
def overrideInPlace (s : Settings) (vars : Variables) : Settings × Except SettingsError Unit :=
  Update.on (do setDisabled vars; setPatterns vars) s

/-- Overrides the settings and checks the result. Settings that fail the check are kept. -/
def applyVariables (s : Settings) (vars : Variables) : Settings × Except SettingsError Unit :=
  match s.override vars with
  | .error e => (s, .error e)
  | .ok s' => (s', s'.validate)

end Settings

end EndpointGate
