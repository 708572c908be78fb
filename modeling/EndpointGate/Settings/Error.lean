/-!
# Errors of the settings

Why settings cannot be used, and the wording of each reason.
-/

namespace EndpointGate

/-- Why a file could not be read as text. -/
inductive ReadFault where
  | notFound
  | isDirectory
  | notDirectory
  | nameTooLong
  /-- The system gives another reason, with its code. What is at the path may be there nevertheless. -/
  | refused (isThere : Bool) (code : UInt32) (reason : String)
  | notText
  deriving DecidableEq, Repr

def ReadFault.message : ReadFault → String
  | .notFound => "No such file or directory (os error 2)"
  | .isDirectory => "Is a directory (os error 21)"
  | .notDirectory => "Not a directory (os error 20)"
  | .nameTooLong => "File name too long (os error 36)"
  | .refused _ code reason => reason ++ " (os error " ++ toString code ++ ")"
  | .notText => "stream did not contain valid UTF-8"

/-- Why settings cannot be loaded or used. -/
inductive SettingsError where
  /-- A declaration does not have the form declarations have. -/
  | invalidDeclaration (entry : String)
  /-- The gate is switched on without any declaration. -/
  | missingPatterns
  /-- The value of a variable is no truth value. -/
  | invalidFlag (name value : String)
  /-- The settings file cannot be read. -/
  | unreadable (fault : ReadFault)
  /-- The text of the settings file is not a settings document. -/
  | notSettings
  deriving DecidableEq, Repr

/-- The form of a declaration, as it is shown to the user. -/
def declarationForm : String := "^\\s*([^\\s\\[\\]]+)\\s*(\\[([^\\[\\]]*)\\]\\s*)?$"

/-- The wording of a settings error. What is wrong with a settings document is not part of it. -/
def SettingsError.message : SettingsError → String
  | .invalidDeclaration entry =>
    "invalid path: '" ++ entry ++ "' valid pattern: '" ++ declarationForm ++ "'"
  | .missingPatterns =>
    "property 'deprecated.api.patterns' must be provided and non-empty when property " ++
      "'deprecated.api.disabled'=true"
  | .invalidFlag name value =>
    "invalid value '" ++ value ++ "' for " ++ name ++ ": expected true or false"
  | .unreadable fault => "failed to read configuration: " ++ fault.message
  | .notSettings => "failed to parse configuration: "

/-- The fault behind the error, where there is one to tell. -/
def SettingsError.cause : SettingsError → Option ReadFault
  | .unreadable fault => some fault
  | _ => none

end EndpointGate
