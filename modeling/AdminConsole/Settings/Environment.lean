import AdminConsole.Settings.Basic
import AdminConsole.Text.Lowercase

/-!
# Settings from the environment

Nine variables of the environment override one field each. They are looked at in a fixed order, and the
first that cannot be read is reported.
-/

set_option autoImplicit false

namespace AdminConsole

/-- The variables of an environment that are set to a text. A value that is no Unicode text counts as not set. -/
abbrev Environment := Dictionary String

namespace Settings

/-- The number of seconds that a variable gives. -/
def readSeconds (name text : String) : Except SettingsError Int :=
  ((IntegerRange.signed 64).read (Text.trim text.toList)).mapError (.badSeconds name)

/-- Whether a text asks for debugging. -/
def readDebug (text : String) : Bool :=
  Text.lowercase text == "true" || text == "1"

/-- The location mode that a text names in any case. -/
def readLocationMode (text : String) : Except SettingsError LocationMode :=
  let lower := Text.lowercase text
  match LocationMode.ofLabel? lower with
  | some mode => .ok mode
  | none => .error (.badLocationMode lower)

/-- The value of a variable as `read` understands it, or the value that was there before. -/
def override {α : Type} (e : Environment) (name : String)
    (read : String → Except SettingsError α) (before : α) : Except SettingsError α :=
  match e.get? name with
  | some text => read text
  | none => .ok before

/-- The settings with the fields that the environment overrides. -/
def applyEnvironment (s : Settings) (e : Environment) : Except SettingsError Settings := do
  let seconds := fun (name text : String) => (readSeconds name text).map some
  let debug ← override e "BEHEER_DEBUG" (.ok ∘ readDebug) s.debug
  let time ← override e "BEHEER_IDLE_TIME" (seconds "BEHEER_IDLE_TIME") s.idle.time
  let timeout ← override e "BEHEER_IDLE_TIMEOUT" (seconds "BEHEER_IDLE_TIMEOUT") s.idle.timeout
  let locationMode ← override e "BEHEER_LOCATION_MODE" readLocationMode s.locationMode
  let serverPath ← override e "BEHEER_SERVER_PATH" .ok s.serverPath
  let origin ← override e "BEHEER_ORIGIN" (.ok ∘ some) s.origin
  let hostname ← override e "BEHEER_HOSTNAME" (.ok ∘ some) s.hostname
  let level ← override e "BEHEER_LOG_LEVEL" .ok s.logging.level
  let format ← override e "BEHEER_LOG_FORMAT" .ok s.logging.format
  return { s with
    debug, idle := ⟨time, timeout⟩, locationMode, serverPath, origin, hostname,
    logging := ⟨level, format⟩ }

/-- The settings of the environment alone. -/
def ofEnvironment (e : Environment) : Except SettingsError Settings :=
  standard.applyEnvironment e

end Settings

end AdminConsole
