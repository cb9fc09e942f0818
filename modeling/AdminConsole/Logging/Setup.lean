import AdminConsole.Logging.Filter
import AdminConsole.Settings.Basic

/-!
# Setting up logging

The filter of the environment counts before that of the settings, unless it is no filter. Logging can be set
up once only, and a filter or format that is wrong is reported before that.
-/

set_option autoImplicit false

namespace AdminConsole

/-- Why logging was not set up. -/
inductive LoggingError where
  | badFilter (filter : String)
  | unknownFormat (format : String)
  | alreadyInstalled
  deriving DecidableEq, Repr

namespace LoggingError

/-- The error as it is shown. -/
def message : LoggingError → String
  | .badFilter _ => "Invalid log filter"
  | .unknownFormat format => "Unknown log format: " ++ format
  | .alreadyInstalled => "A global subscriber is already installed"

end LoggingError

namespace LoggingSettings

/-- The filter that counts, given that of the environment. -/
def filter (s : LoggingSettings) (environment : Option String) : Except LoggingError String :=
  match environment.filter Logging.isFilter with
  | some filter => .ok filter
  | none => if Logging.isFilter s.level then .ok s.level else .error (.badFilter s.level)

/-- Sets logging up, where `installed` tells whether that was done before. -/
def setUp (s : LoggingSettings) (environment : Option String) (installed : Bool) :
    Except LoggingError Unit := do
  let _ ← s.filter environment
  if !formats.contains s.format then
    throw (.unknownFormat s.format)
  if installed then
    throw .alreadyInstalled

end LoggingSettings

end AdminConsole
