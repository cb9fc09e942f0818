/-!
# The idle timeline

After `idle` seconds without interaction a session is in warning, and after `timeout` more it has expired
for good. An interaction before that starts the count again. A time before the last interaction counts as no
time since then.

Instants are whole milliseconds after a fixed origin. The clock that gives them counts seconds from a zero of its
own, in 64 bits with a sign, and is finer than a millisecond. What it says below a millisecond is left out: durations
are whole seconds, so it would be the same in an interaction and in the changes that follow from it.
-/

set_option autoImplicit false

namespace AdminConsole

/-- The greatest number of seconds that a setting can give, in 64 bits with a sign. -/
def maxSeconds : Nat := Nat.pow 2 63 - 1

/-- The two durations of the watchdog in seconds. A watchdog without two positive durations is disabled
and has no such value. -/
structure IdleConfig where
  idle : Nat
  timeout : Nat
  idle_range : 0 < idle ∧ idle ≤ maxSeconds
  timeout_range : 0 < timeout ∧ timeout ≤ maxSeconds

/-- Where a session stands. -/
inductive IdleState where
  | active
  | warning
  | expired
  deriving DecidableEq, Repr

namespace IdleState

/-- The state as it is shown. -/
def label : IdleState → String
  | .active => "active"
  | .warning => "warning"
  | .expired => "expired"

end IdleState

/-- The longest duration that can be represented, in milliseconds: one less than `2 ^ 64` seconds. -/
def longestDuration : Nat := 1000 * Nat.pow 2 64 - 1

/-- Two durations together, or the longest one if that is shorter. -/
def addDurations (first second : Nat) : Nat := min (first + second) longestDuration

namespace IdleConfig

/-- The durations, unless one is missing or not positive. No setting gives more than 64 bits hold. -/
def ofOptions (idle timeout : Option Int) : Option IdleConfig := do
  let idle ← idle
  let timeout ← timeout
  if h : (0 < idle ∧ idle ≤ maxSeconds) ∧ 0 < timeout ∧ timeout ≤ maxSeconds then
    some ⟨idle.toNat, timeout.toNat, by omega, by omega⟩
  else none

/-- The first countdown in milliseconds. -/
def idleTime (c : IdleConfig) : Nat := 1000 * c.idle

/-- The second countdown in milliseconds. -/
def timeoutTime (c : IdleConfig) : Nat := 1000 * c.timeout

/-- Both countdowns together in milliseconds. -/
def expiryTime (c : IdleConfig) : Nat := addDurations c.idleTime c.timeoutTime

/-- A watchdog counts with the durations that it was given. -/
theorem ofOptions_eq_some_iff {idle timeout : Option Int} {c : IdleConfig} :
    ofOptions idle timeout = some c ↔ idle = some (c.idle : Int) ∧ timeout = some (c.timeout : Int) := by
  obtain ⟨i, t, hi, ht⟩ := c
  cases idle with
  | none => simp [ofOptions]
  | some n =>
    cases timeout with
    | none => simp [ofOptions]
    | some m =>
      simp only [ofOptions, Option.bind_eq_bind, Option.bind_some, Option.some.injEq]
      split
      · rw [Option.some.injEq, IdleConfig.mk.injEq]
        omega
      · rename_i hrange
        simp only [reduceCtorEq, false_iff]
        omega

variable (c : IdleConfig)

/-- The time until the idle warning is positive. -/
theorem idle_pos : 0 < c.idle := c.idle_range.1

/-- The time that is left after the warning is positive. -/
theorem timeout_pos : 0 < c.timeout := c.timeout_range.1

/-- Two durations of 64 bits with a sign are together shorter than the longest one. -/
theorem expiryTime_eq : c.expiryTime = c.idleTime + c.timeoutTime := by
  have hidle := c.idle_range.2
  have htimeout := c.timeout_range.2
  have hmax : maxSeconds = 9223372036854775807 := rfl
  have hlongest : longestDuration = 18446744073709551615999 := rfl
  simp only [expiryTime, addDurations, idleTime, timeoutTime]
  omega

end IdleConfig

/-- The account of one session's interactions. -/
structure IdleTracker where
  config : IdleConfig
  lastInteraction : Nat
  /-- Whether an expiry was observed. -/
  expired : Bool

namespace IdleTracker

/-- The account of a session that begins now. -/
def start (config : IdleConfig) (now : Nat) : IdleTracker := ⟨config, now, false⟩

/-- The state at an instant. -/
def state (t : IdleTracker) (now : Nat) : IdleState :=
  if t.expired then .expired
  else if now - t.lastInteraction < t.config.idleTime then .active
  else if now - t.lastInteraction < t.config.expiryTime then .warning
  else .expired

/-- The account after its state was asked for: an expiry that was observed stays. -/
def observe (t : IdleTracker) (now : Nat) : IdleTracker :=
  { t with expired := t.state now == .expired }

/-- The account after an interaction, which is ignored once the session has expired. -/
def interrupt (t : IdleTracker) (now : Nat) : IdleTracker :=
  let observed := t.observe now
  if observed.expired then observed
  else ({ observed with lastInteraction := now }).observe now

/-- How long the clock has run at the origin of instants. -/
def clockAge : Nat := 1000

/-- The first instant that is too late to be represented, where the clock has counted `2 ^ 63` seconds. -/
def horizon : Nat := 1000 * Nat.pow 2 63 - clockAge

/-- An instant, if it can be represented. -/
def representable? (instant : Nat) : Option Nat :=
  if instant < horizon then some instant else none

/-- Instants before the horizon can be represented. -/
theorem representable?_eq_some_iff {instant other : Nat} :
    representable? instant = some other ↔ instant = other ∧ instant < horizon := by
  rw [representable?, Option.ite_none_right_eq_some, Option.some.injEq, and_comm]

/-- Instants from the horizon on cannot be represented. -/
theorem representable?_eq_none_iff {instant : Nat} : representable? instant = none ↔ horizon ≤ instant := by
  simp [representable?]

/-- The instant of the next change; none once expired or when it is too late to be represented. -/
def nextTransition? (t : IdleTracker) (now : Nat) : Option Nat := do
  if t.expired then none
  else
    let warningAt ← representable? (t.lastInteraction + t.config.idleTime)
    if now < warningAt then some warningAt
    else representable? (warningAt + t.config.timeoutTime)

end IdleTracker

end AdminConsole
