import AdminConsole.Dictionary
import AdminConsole.Idle.Tracker
import AdminConsole.Json.Basic
import AdminConsole.Navigation.Location
import AdminConsole.Number.Integer
import AdminConsole.Origin.Basic
import AdminConsole.Text.Blank

/-!
# Settings

What an installation of the console may decide: how the idle watchdog counts, where locations hold the
route, from where the console is served, how it logs, and values of its own under any name.
-/

set_option autoImplicit false

namespace AdminConsole

/-- The durations of the idle watchdog in seconds. -/
structure IdleSettings where
  time : Option Int
  timeout : Option Int
  deriving DecidableEq, Repr

/-- How the console logs. -/
structure LoggingSettings where
  /-- What is logged, as a filter. -/
  level : String
  /-- The format of log lines. -/
  format : String
  deriving DecidableEq, Repr

/-- The settings of the console. -/
structure Settings where
  /-- Whether each fetch of a bundle's file is logged. -/
  debug : Bool
  idle : IdleSettings
  locationMode : LocationMode
  /-- The base path of the server. -/
  serverPath : String
  /-- The URL from which the console is served. -/
  origin : Option String
  /-- The host name, if it is another than that of the origin. -/
  hostname : Option String
  logging : LoggingSettings
  /-- The installation's own values. -/
  custom : Dictionary Json

/-- Why a settings file cannot be read. -/
inductive FileFault where
  | missing
  /-- The reader is not allowed to. -/
  | denied
  /-- The path goes on below a file, as if that were a folder. -/
  | notDirectory
  | directory
  /-- The path, or one name in it, is longer than the system takes. -/
  | nameTooLong
  /-- The path holds the character that ends paths. -/
  | nulInName
  | notText
  deriving DecidableEq, Repr

/-- The formats of settings files. -/
inductive SettingsFormat where
  | toml
  | json
  deriving DecidableEq, Repr

/-- What is wrong with settings. -/
inductive SettingsError where
  | unreadable (path : String) (fault : FileFault)
  | unknownFormat
  | malformed (format : SettingsFormat)
  /-- A variable that gives seconds is no number. -/
  | badSeconds (name : String) (error : IntegerError)
  /-- The variable of the location mode names none, in lower case. -/
  | badLocationMode (text : String)
  | emptyServerPath
  | badLogFormat (format : String)
  | badOrigin (origin : String) (error : OriginError)
  deriving DecidableEq, Repr

namespace FileFault

/-- The fault as the system words it. -/
def message : FileFault → String
  | .missing => "No such file or directory (os error 2)"
  | .denied => "Permission denied (os error 13)"
  | .notDirectory => "Not a directory (os error 20)"
  | .directory => "Is a directory (os error 21)"
  | .nameTooLong => "File name too long (os error 36)"
  | .nulInName => "file name contained an unexpected NUL byte"
  | .notText => "stream did not contain valid UTF-8"

end FileFault

namespace IdleSettings

/-- No durations, which disables the watchdog. -/
def unset : IdleSettings := ⟨none, none⟩

/-- Both durations. -/
def of (time timeout : Int) : IdleSettings := ⟨some time, some timeout⟩

end IdleSettings

namespace LoggingSettings

/-- The formats of log lines. -/
def formats : List String := ["text", "compact", "pretty"]

/-- How the console logs unless it is told otherwise. -/
def standard : LoggingSettings := ⟨"info", "text"⟩

end LoggingSettings

namespace SettingsError

/-- The error as it is shown. -/
def message : SettingsError → String
  | .unreadable path fault =>
      let reason := fault.message
      s!"File error: Failed to read {path}: {reason}"
  | .unknownFormat => "Unsupported format: Supported formats: .toml, .json"
  | .malformed .toml => "Parse error: TOML parse error"
  | .malformed .json => "Parse error: JSON parse error"
  | .badSeconds name error =>
      let reason := error.message
      s!"Parse error: {name} must be a number of seconds: {reason}"
  | .badLocationMode text =>
      s!"Parse error: BEHEER_LOCATION_MODE must be 'hash' or 'html5', got '{text}'"
  | .emptyServerPath => "Validation error: server_path must not be empty"
  | .badLogFormat format =>
      let formats := Text.join ", " LoggingSettings.formats
      s!"Validation error: logging.format must be one of {formats}, got '{format}'"
  | .badOrigin origin error =>
      let reason := error.message
      s!"Validation error: origin '{origin}' is not a URL: {reason}"

end SettingsError

namespace Settings

/-- The settings of an installation that decides nothing. -/
def standard : Settings :=
  { debug := false, idle := .unset, locationMode := .hash, serverPath := "../", origin := none,
    hostname := none, logging := .standard, custom := Dictionary.empty }

/-- What is wrong with the origin, if it is given and no URL. -/
def originFault? (s : Settings) : Option SettingsError := do
  let origin ← s.origin
  match Origin.parse origin with
  | .error e => some (.badOrigin origin e)
  | .ok _ => none

/-- Checks what the types do not. -/
def validate (s : Settings) : Except SettingsError Unit :=
  if Text.isBlankText s.serverPath.toList then .error .emptyServerPath
  else if !LoggingSettings.formats.contains s.logging.format then
    .error (.badLogFormat s.logging.format)
  else
    match s.originFault? with
    | some e => .error e
    | none => .ok ()

/-- The host name under which the console is served, if it is known. -/
def effectiveHostname (s : Settings) : Option String :=
  s.hostname.or do
    let origin ← s.origin
    match Origin.parse origin with
    | .ok o => o.host
    | .error _ => none

/-- Whether the console is served from the developer's own machine. -/
def isLocalhost (s : Settings) : Bool :=
  s.effectiveHostname == some "localhost"

/-- The settings with a value of the installation's own. -/
def set (s : Settings) (key : String) (value : Json) : Settings :=
  { s with custom := s.custom.insert key value }

/-- A value of the installation's own, if `read` finds one of the wanted type in it. -/
def get? {α : Type} (s : Settings) (read : Json → Option α) (key : String) : Option α :=
  (s.custom.get? key).bind read

/-- The watchdog's durations, unless it is disabled. -/
def idleConfig (s : Settings) : Option IdleConfig :=
  IdleConfig.ofOptions s.idle.time s.idle.timeout

/-- An optional number as a JSON value. -/
def secondsToJson (seconds : Option Int) : Json :=
  (seconds.map Json.integer).getD .null

/-- The settings as a JSON value. -/
def toJson (s : Settings) : Json :=
  .object [
    ("debug", .bool s.debug),
    ("idle", .object [
      ("time", secondsToJson s.idle.time), ("timeout", secondsToJson s.idle.timeout)]),
    ("location_mode", .string s.locationMode.label),
    ("server_path", .string s.serverPath),
    ("origin", .ofOption s.origin),
    ("hostname", .ofOption s.hostname),
    ("logging", .object [
      ("level", .string s.logging.level), ("format", .string s.logging.format)]),
    ("custom", .object s.custom.toList)]

end Settings

end AdminConsole
