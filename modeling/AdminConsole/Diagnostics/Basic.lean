/-!
# The diagnostics channel

The shell of the console reports what happens to it on a channel with an adjustable level. A report is
recorded when the level is at least the severity's own and a sink is installed; the level never leaves
the range from zero to three.
-/

set_option autoImplicit false

namespace AdminConsole

/-- How grave a report is. -/
inductive Severity where
  | error
  | warn
  | info
  | debug
  deriving DecidableEq, Repr

namespace Severity

/-- The lowest level at which the severity is reported. -/
def minLevel : Severity → Nat
  | .error => 0
  | .warn => 1
  | .info => 2
  | .debug => 3

/-- The severity as it is shown. -/
def label : Severity → String
  | .error => "error"
  | .warn => "warn"
  | .info => "info"
  | .debug => "debug"

/-- The severity with this label. -/
def ofLabel? (label : String) : Option Severity :=
  [.error, .warn, .info, .debug].find? fun s => s.label == label

end Severity

/-- A report as a sink receives it. -/
structure Report where
  severity : Severity
  message : String
  detail : String
  deriving DecidableEq, Repr

/-- The channel with its level, whether its sink is installed, and what the sink has received. -/
structure Diagnostics where
  level : Fin 4
  installed : Bool
  /-- What the sink has received since it was last cleared, the oldest report first. -/
  records : List Report
  deriving DecidableEq, Repr

namespace Diagnostics

/-- The highest level. -/
def maxLevel : Nat := 3

/-- The level of a channel that nobody configured. -/
def defaultLevel : Nat := 1

/-- A number as a level; what lies above the highest level counts as the highest. -/
def clamp (level : Nat) : Fin 4 :=
  ⟨min level maxLevel, by simp only [maxLevel]; omega⟩

/-- A channel of this level with an empty sink installed. -/
def withSink (level : Nat) : Diagnostics := ⟨clamp level, true, []⟩

/-- A channel of this level without a sink. -/
def silent (level : Nat) : Diagnostics := ⟨clamp level, false, []⟩

/-- The channel at another level. -/
def setLevel (d : Diagnostics) (level : Nat) : Diagnostics := { d with level := clamp level }

/-- The channel with its sink installed. -/
def install (d : Diagnostics) : Diagnostics := { d with installed := true }

/-- The channel without its sink, which keeps what it has received. -/
def uninstall (d : Diagnostics) : Diagnostics := { d with installed := false }

/-- The channel with an emptied sink. -/
def clear (d : Diagnostics) : Diagnostics := { d with records := [] }

/-- Whether reports of this severity pass the level. -/
def enabled (d : Diagnostics) (severity : Severity) : Bool :=
  severity.minLevel ≤ d.level.val

/-- Reports to the channel. -/
def report (d : Diagnostics) (severity : Severity) (message detail : String) : Diagnostics :=
  if d.enabled severity && d.installed then
    { d with records := d.records ++ [⟨severity, message, detail⟩] }
  else d

/-- How many reports of this severity the sink holds. -/
def count (d : Diagnostics) (severity : Severity) : Nat :=
  d.records.countP fun r => r.severity == severity

/-- The channel as it is shown to developers. -/
def debugText (d : Diagnostics) : String :=
  let level := d.level.val
  let installed := d.installed
  s!"DiagnosticsContext \x7b level: {level}, has_sink: {installed} \x7d"

end Diagnostics

end AdminConsole
