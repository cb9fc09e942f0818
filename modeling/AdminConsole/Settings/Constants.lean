import AdminConsole.Json.Printer
import AdminConsole.Settings.Basic

/-!
# Settings from the server's constants

The server hands constants of any kind to the console. Two of them are the watchdog's durations, as
numbers or as texts. One that is present but is no whole number of seconds in 64 bits unsets the duration
and gives a warning.
-/

set_option autoImplicit false

namespace AdminConsole

/-- A constant that is no number of seconds. -/
structure ConstantWarning where
  constant : String
  /-- Its value on one line. -/
  value : String
  deriving DecidableEq, Repr

namespace Settings

/-- The constant that holds the idle time. -/
def idleTimeConstant : String := "console.idle.time"

/-- The constant that holds the idle timeout. -/
def idleTimeoutConstant : String := "console.idle.timeout"

/-- The seconds that a value stands for. -/
def constantSeconds? (value : Json) : Option Int :=
  let range := IntegerRange.signed 64
  match value with
  | .integer n => if range.holds n then some n else none
  | .string text => (range.read (Text.trim text.toList)).toOption
  | _ => none

/-- A duration after its constant was looked at, and the warning this gives. -/
def constantOverride (constants : Dictionary Json) (name : String) (before : Option Int) :
    Option Int × List ConstantWarning :=
  match constants.get? name with
  | none => (before, [])
  | some value =>
      match constantSeconds? value with
      | some seconds => (some seconds, [])
      | none => (none, [⟨name, value.compact⟩])

/-- The settings with the durations that the constants give. -/
def applyConstants (s : Settings) (constants : Dictionary Json) : Settings × List ConstantWarning :=
  let (time, first) := constantOverride constants idleTimeConstant s.idle.time
  let (timeout, second) := constantOverride constants idleTimeoutConstant s.idle.timeout
  ({ s with idle := ⟨time, timeout⟩ }, first ++ second)

/-- The settings of the constants alone. -/
def ofConstants (constants : Dictionary Json) : Settings × List ConstantWarning :=
  standard.applyConstants constants

end Settings

end AdminConsole
