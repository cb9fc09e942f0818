import AdminConsole.Bundle.Join
import AdminConsole.Dictionary

/-!
# Fetching files

A fetch takes its time and then succeeds or fails. How each fetch goes is decided by a plan, which may be
any function of the file and of how often the file was requested before. The network keeps the history of
all fetches.
-/

set_option autoImplicit false

namespace AdminConsole

/-- How one fetch goes: it takes so many milliseconds, and fails if it has a reason to. -/
structure FetchRule where
  delay : Nat
  failure : Option String
  deriving DecidableEq, Repr

/-- How the fetch of a file goes that was requested so many times before. -/
abbrev FetchPlan := String → Nat → FetchRule

/-- What happens to a file. -/
inductive FetchPhase where
  | start
  | done
  | fail
  deriving DecidableEq, Repr

namespace FetchPhase

/-- The phase as it is shown. -/
def label : FetchPhase → String
  | .start => "start"
  | .done => "done"
  | .fail => "fail"

end FetchPhase

/-- An entry of the history: what happened when, in which run of which bundle, to which file. -/
structure FetchEvent where
  time : Nat
  phase : FetchPhase
  run : Nat
  bundle : String
  file : String
  deriving DecidableEq, Repr

namespace FetchPlan

/-- The rule at a position of a list; beyond its end the last one, and without any an immediate
success. -/
def ruleAt (rules : List FetchRule) (position : Nat) : FetchRule :=
  (rules[position]?.or rules.getLast?).getD ⟨0, none⟩

/-- The plan that gives each file its own list of rules. -/
def ofRules (rules : Dictionary (List FetchRule)) : FetchPlan := fun file position =>
  ruleAt ((rules.get? file).getD []) position

end FetchPlan

/-- The plan of all fetches and their history, the first event first. -/
structure Network where
  plan : FetchPlan
  events : List FetchEvent

namespace Network

/-- A network on which nothing has happened. -/
def quiet (plan : FetchPlan) : Network := ⟨plan, []⟩

/-- The network after one more event. -/
def record (n : Network) (event : FetchEvent) : Network :=
  { n with events := n.events ++ [event] }

/-- How often a file was requested. -/
def requests (n : Network) (file : String) : Nat :=
  n.events.countP fun event => event.phase == .start && event.file == file

end Network

/-- Which run of which bundle a file is fetched for. -/
structure FetchOwner where
  run : Nat
  bundle : String
  deriving DecidableEq, Repr

/-- Where the fetch of one file stands. -/
inductive FetchState where
  | waiting
  /-- The fetch was started as the event with this number; it ends at `due`, with `failure` or with
  success. -/
  | running (started due : Nat) (failure : Option String)
  | fetched
  | failed (reason : String)
  deriving DecidableEq, Repr

/-- A file of a run. -/
structure FileFetch where
  file : String
  state : FetchState
  deriving DecidableEq, Repr

namespace FileFetch

/-- The event of this phase for the file. -/
def event (f : FileFetch) (owner : FetchOwner) (now : Nat) (phase : FetchPhase) : FetchEvent :=
  ⟨now, phase, owner.run, owner.bundle, f.file⟩

/-- How far the fetch has come. -/
def status (f : FileFetch) : Progress (String × String) :=
  match f.state with
  | .fetched => .succeeded
  | .failed reason => .failed (f.file, reason)
  | _ => .pending

/-- Starts the fetch if it was not started. -/
def start (owner : FetchOwner) (now : Nat) (f : FileFetch) (n : Network) : FileFetch × Network :=
  match f.state with
  | .waiting =>
      let rule := n.plan f.file (n.requests f.file)
      ({ f with state := .running n.events.length (now + rule.delay) rule.failure },
        n.record (f.event owner now .start))
  | _ => (f, n)

/-- Ends the fetch if it is due. -/
def finish (owner : FetchOwner) (now : Nat) (f : FileFetch) (n : Network) : FileFetch × Network :=
  match f.state with
  | .running _ due failure =>
      if due ≤ now then
        match failure with
        | none => ({ f with state := .fetched }, n.record (f.event owner now .done))
        | some reason => ({ f with state := .failed reason }, n.record (f.event owner now .fail))
      else (f, n)
  | _ => (f, n)

/-- Advances the fetch as far as it can come without time passing. -/
def poll (owner : FetchOwner) (now : Nat) (f : FileFetch) (n : Network) : FileFetch × Network :=
  let (started, n) := f.start owner now n
  started.finish owner now n

/-- The instant at which a running fetch ends. -/
def due? (f : FileFetch) : Option Nat :=
  match f.state with
  | .running _ due _ => some due
  | _ => none

/-- When the fetch was woken, up to now: when it was due, and of those due together the first that was
started first. -/
def woken (now : Nat) (f : FileFetch) : Waking :=
  match f.state with
  | .waiting => .atStart
  | .running started due _ => if due ≤ now then .at due started else .never
  | _ => .never

end FileFetch

end AdminConsole
