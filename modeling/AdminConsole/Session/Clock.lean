import AdminConsole.Session.Basic

/-!
# The clock of a session

Time moves from one event to the next: the end of a fetch that some job waits for, or a wake-up of the
watchdog. At each of them the watchdog looks and all jobs are polled. Fetches that nobody waits for are no
events.
-/

set_option autoImplicit false

namespace AdminConsole.Session

/-- The instants of all events that are known to come. -/
def events (s : Session) : List Nat :=
  (s.jobs.flatMap fun job => job.state.loads.flatMap s.loader.dues)
    ++ (s.watchdog.bind fun w => w.wakeUp? s.now).toList

/-- The instant of the next event. -/
def nextEvent? (s : Session) : Option Nat := s.events.min?

/-- Applies a change of the watchdog and the channel it reports to. -/
def changeWatchdog (change : Watched → Watched) (s : Session) : Session :=
  match s.watchdog with
  | none => s
  | some w =>
      let services := s.navigator.services
      let (w, diagnostics) := change (w, services.diagnostics)
      { s with
        watchdog := some w
        navigator := { s.navigator with services := { services with diagnostics } } }

/-- The session at an instant that is no later than its next event. -/
def arrive (instant : Nat) (s : Session) : Session :=
  let woken := s.changeWatchdog fun w => (Watchdog.wake instant s.now w).2
  poll { woken with now := instant }

/-- More steps than there are events: each event ends a fetch or is one of two changes of the
watchdog. -/
def eventBound (s : Session) : Nat := s.loader.filesLeft + 3

/-- Lets events happen up to an instant. -/
def runUntil (limit : Nat) : (steps : Nat) → Session → Session
  | 0, s => s
  | left + 1, s =>
      match s.nextEvent? with
      | some instant => if instant ≤ limit then runUntil limit left (s.arrive instant) else s
      | none => s

/-- The session after so many milliseconds. -/
def sleep (s : Session) (duration : Nat) : Session :=
  let limit := s.now + duration
  (runUntil limit s.eventBound s).arrive limit

/-- Lets events happen until a job has ended. -/
def runUntilEnd (name : JobName) : (steps : Nat) → Session → Session
  | 0, s => s
  | left + 1, s =>
      if (s.ending? name).isSome then s
      else
        match s.nextEvent? with
        | some instant => runUntilEnd name left (s.arrive instant)
        | none => s

/-- Waits for the end of a job, which is then forgotten. -/
def await (s : Session) (name : JobName) : Option (Nat × JobResult) × Session :=
  let s := runUntilEnd name s.eventBound s
  (s.ending? name, s.drop name)

/-- Runs a job to its end. -/
def go (s : Session) (request : JobRequest) : Option (Nat × JobResult) × Session :=
  (s.launch .foreground request).await .foreground

/-- The end of a background job, which is then forgotten; none while it goes on. -/
def check (s : Session) (name : JobName) : Option (Nat × JobResult) × Session :=
  match s.ending? name with
  | some ending => (some ending, s.drop name)
  | none => (none, s)

/-- The session after an interaction of the user. -/
def interact (s : Session) : Session :=
  s.changeWatchdog (Watchdog.interrupt s.now)

end AdminConsole.Session
