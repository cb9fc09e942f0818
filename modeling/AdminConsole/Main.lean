import AdminConsole.CommandLine.Program

/-!
# The program

Reads the arguments, the environment and the settings file, and hands them to the command line program.
-/

set_option autoImplicit false

namespace AdminConsole.Main

/-- The variables of the environment that override settings. -/
def overriding : List String :=
  ["BEHEER_DEBUG", "BEHEER_IDLE_TIME", "BEHEER_IDLE_TIMEOUT", "BEHEER_LOCATION_MODE",
    "BEHEER_SERVER_PATH", "BEHEER_ORIGIN", "BEHEER_HOSTNAME", "BEHEER_LOG_LEVEL",
    "BEHEER_LOG_FORMAT"]

/-- The environment that overrides settings. -/
def environment : IO Environment := do
  let pairs ← overriding.filterMapM fun name => do
    return (← IO.getEnv name).map fun value => (name, value)
  return Dictionary.ofList pairs

/-- Why nothing can be read. A path that leads below a file fails when it is looked up, a folder only when
its bytes are asked for, which no name goes with. -/
def faultOf (error : IO.Error) : FileFault :=
  match error with
  | .permissionDenied .. => .denied
  | .inappropriateType (some _) .. => .notDirectory
  | .inappropriateType none .. => .directory
  | .invalidArgument .. => .nameTooLong
  | _ => .missing

/-- What is found under a path. -/
def fileContent (path : String) : IO FileContent := do
  try
    let bytes ← IO.FS.readBinFile path
    return .ok bytes.toList
  catch error =>
    return .error (faultOf error)

/-- The settings file that the arguments name. -/
def settingsFile (arguments : List String) : IO FileContent :=
  match CommandLine.read arguments with
  | .run ⟨some path, _⟩ _ => fileContent path
  | _ => return .error .missing

/-- Runs the program. -/
def run (arguments : List String) : IO UInt32 := do
  let content ← settingsFile arguments
  let world : CommandLine.World := {
    environment := ← environment
    logFilter := ← IO.getEnv "RUST_LOG"
    file := fun _ => content }
  let outcome := CommandLine.run world arguments
  IO.print outcome.output
  IO.eprint outcome.errors
  return UInt32.ofNat outcome.exitCode

end AdminConsole.Main

/-- The entry point of the program. -/
def main (arguments : List String) : IO UInt32 :=
  AdminConsole.Main.run arguments
