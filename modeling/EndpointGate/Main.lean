import EndpointGate.CommandLine.Run

/-!
# The program
-/

namespace EndpointGate.CommandLine

/-- The code of an error of the system, and the reason that the system gives. -/
def systemError : IO.Error → UInt32 × String
  | .interrupted _ code reason | .noFileOrDirectory _ code reason | .alreadyExists _ code reason
  | .invalidArgument _ code reason | .permissionDenied _ code reason | .resourceExhausted _ code reason
  | .inappropriateType _ code reason | .noSuchThing _ code reason | .otherError code reason
  | .resourceBusy code reason | .resourceVanished code reason | .unsupportedOperation code reason
  | .hardwareFault code reason | .unsatisfiedConstraints code reason | .illegalOperation code reason
  | .protocolError code reason | .timeExpired code reason => (code, reason)
  | .unexpectedEof => (0, "")
  | .userError reason => (0, reason)

/-- The fault that an error of reading a file stands for. -/
def readFaultOf (isThere : Bool) (e : IO.Error) : ReadFault :=
  match systemError e with
  | (2, _) => .notFound
  | (20, _) => .notDirectory
  | (21, _) => .isDirectory
  | (36, _) => .nameTooLong
  | (code, reason) => .refused isThere code reason

/-- The path leads to something, whether it can be read or not. -/
def leadsSomewhere (path : String) : IO Bool := do
  try
    let _ ← IO.FS.realPath path
    return true
  catch _ => return false

def readFile (path : String) : IO (Except ReadFault ByteArray) := do
  try
    let file ← IO.FS.Handle.mk path .read
    return .ok (← file.readBinToEnd)
  catch e => return .error (readFaultOf (← leadsSomewhere path) e)

/-- The paths of the files a command may read. -/
def pathsOf : Command → List String
  | .run a => a.configPath :: a.routes.toList
  | _ => []

def readFiles (c : Command) : IO Files := do
  let known ← (pathsOf c).mapM fun path => return (path, ← readFile path)
  return fun path => (known.lookup path).getD (.error .notFound)

/-- Reads the variables that override settings. -/
def readVariables : IO Variables := do
  let names := [Settings.disabledVariable, Settings.patternsVariable]
  let known ← names.mapM fun name => return (name, ← IO.getEnv name)
  return fun name => (known.lookup name).bind id

end EndpointGate.CommandLine

open EndpointGate.CommandLine

/-- Runs the program. -/
def main (args : List String) : IO UInt32 := do
  let command := Command.ofArguments args
  let outcome := command.outcome (← readFiles command) (← readVariables)
  match outcome with
  | .finished written failure =>
    IO.print written
    if let some f := failure then
      IO.eprint f.report
  | .misuse => IO.eprintln usageText
  return outcome.code
