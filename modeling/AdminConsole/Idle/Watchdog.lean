import AdminConsole.Diagnostics.Basic
import AdminConsole.Idle.Tracker

/-!
# The idle watchdog

A watchdog sleeps until the next change of its tracker, or until an interaction, and then publishes the
state if it is a new one, with a report to the diagnostics channel. It ends with the expiry of the
session, or when it is stopped. Time passes only between the calls, so a run is a sequence of wake-ups.
-/

set_option autoImplicit false

namespace AdminConsole

/-- What a subscriber sees: a new state, or the end of the watchdog. -/
inductive IdleChange where
  | to (state : IdleState)
  | closed
  deriving DecidableEq, Repr

/-- A watchdog. -/
structure Watchdog where
  tracker : IdleTracker
  /-- The state last published. -/
  published : IdleState
  running : Bool
  /-- The changes a subscriber saw, each with its instant, the oldest first. -/
  changes : List (Nat × IdleChange)

/-- A watchdog and the channel it reports to. -/
abbrev Watched := Watchdog × Diagnostics

namespace Watchdog

/-- The report of a change to this state. -/
def announce (config : IdleConfig) (state : IdleState) (d : Diagnostics) : Diagnostics :=
  match state with
  | .active => d.report .debug "Idle state ended" "user interaction"
  | .warning =>
      let seconds := config.timeout
      d.report .warn "Idle state reached" s!"session expires in {seconds}s"
  | .expired => d.report .warn "Session expired" "idle timeout elapsed"

/-- Publishes the state at an instant, if it is a new one, and ends the watchdog with the expiry. -/
def publish (now : Nat) (w : Watched) : Watched :=
  let state := w.1.tracker.state now
  let observed := { w.1 with tracker := w.1.tracker.observe now }
  let (changed, channel) :=
    if state = observed.published then (observed, w.2)
    else
      ({ observed with published := state, changes := observed.changes ++ [(now, .to state)] },
        announce observed.tracker.config state w.2)
  if state = .expired then
    ({ changed with running := false, changes := changed.changes ++ [(now, .closed)] }, channel)
  else (changed, channel)

/-- A watchdog that begins now. -/
def start (config : IdleConfig) (now : Nat) : Watchdog :=
  { tracker := IdleTracker.start config now, published := .active, running := true, changes := [] }

/-- The instant at which the watchdog wakes up by itself, given the instant it last looked. -/
def wakeUp? (w : Watchdog) (now : Nat) : Option Nat :=
  if w.running then w.tracker.nextTransition? now else none

/-- The watchdog after its next wake-up, if that is due by `limit`, and the instant reached. -/
def wake (limit : Nat) (now : Nat) (w : Watched) : Nat × Watched :=
  match w.1.wakeUp? now with
  | some instant => if instant ≤ limit then (instant, publish instant w) else (now, w)
  | none => (now, w)

/-- The watchdog after time has passed up to `limit` without an interaction. That brings two wake-ups at
most, the warning and the expiry. -/
def elapse (limit : Nat) (now : Nat) (w : Watched) : Watched :=
  let (warned, w) := wake limit now w
  (wake limit warned w).2

/-- The watchdog after an interaction. -/
def interrupt (now : Nat) (w : Watched) : Watched :=
  if w.1.running then
    publish now ({ w.1 with tracker := w.1.tracker.interrupt now }, w.2)
  else w

/-- The watchdog after it was stopped. -/
def stop (now : Nat) (w : Watchdog) : Watchdog :=
  if w.running then
    { w with running := false, changes := w.changes ++ [(now, .closed)] }
  else w

end Watchdog

end AdminConsole
