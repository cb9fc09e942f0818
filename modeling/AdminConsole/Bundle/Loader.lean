import AdminConsole.Bundle.Run
import AdminConsole.Text.Quoted

/-!
# The bundle loader

Each bundle is loaded once. The first call for it starts a run; calls that come while the run is going on
wait for the same run; and once it has succeeded no call fetches anything. A run that failed is forgotten,
so the next call starts a new one. A run advances only while somebody waits for it, and is not forgotten
when nobody does.

A call has three moments, between which others may act: it enters, it polls the run it waits for, and it
settles what the run came to.
-/

set_option autoImplicit false

namespace AdminConsole

/-- What the loader knows of a bundle. -/
inductive LoadEntry where
  /-- The run with this number has not been settled. -/
  | loading (run : Nat)
  | loaded
  deriving DecidableEq, Repr

/-- The loader. -/
structure Loader where
  registry : BundleRegistry
  /-- Whether developers asked for a log of all fetches. -/
  debug : Bool
  entries : Dictionary LoadEntry
  /-- All runs there ever were; a run's number is its place. -/
  runs : List BundleRun
  network : Network
  /-- The settled failures, the first one first. -/
  failures : List (String × BundleError)

/-- A call for a bundle. -/
inductive Load where
  | requested (name : String)
  | waiting (name : String) (run : Nat)
  | ended (name : String) (result : Except BundleError Unit)

namespace Load

/-- How far the call has come. -/
def status : Load → Progress BundleError
  | .ended _ (.ok ()) => .succeeded
  | .ended _ (.error e) => .failed e
  | _ => .pending

/-- The run that the call waits for. -/
def run? : Load → Option Nat
  | .waiting _ run => some run
  | _ => none

end Load

namespace Loader

/-- A loader that has loaded nothing. -/
def start (registry : BundleRegistry) (debug : Bool) (plan : FetchPlan) : Loader :=
  { registry, debug, entries := Dictionary.empty, runs := [], network := Network.quiet plan,
    failures := [] }

/-- Whether a bundle was loaded. -/
def isLoaded (l : Loader) (name : String) : Bool :=
  l.entries.get? name == some .loaded

/-- Enters a call for a bundle. -/
def enter (l : Loader) (name : String) : Load × Loader :=
  match l.entries.get? name with
  | some .loaded => (.ended name (.ok ()), l)
  | some (.loading run) => (.waiting name run, l)
  | none =>
      match l.registry.get? name with
      | none => (.ended name (.error (.unknown name)), l)
      | some definition =>
          let run := l.runs.length
          (.waiting name run, { l with
            entries := l.entries.insert name (.loading run)
            runs := l.runs ++ [BundleRun.begin definition] })

/-- Polls a run. -/
def pollRun (l : Loader) (now run : Nat) : Loader :=
  match l.runs[run]? with
  | none => l
  | some r =>
      let (r, network) := r.poll run now l.network
      { l with runs := l.runs.set run r, network }

/-- How far a run has come. -/
def runStatus (l : Loader) (run : Nat) : Progress BundleError :=
  match l.runs[run]? with
  | none => .pending
  | some r => r.status

/-- Settles what a run of a bundle came to, unless that was done before. -/
def settle (l : Loader) (name : String) (run : Nat) (result : Except BundleError Unit) : Loader :=
  if l.entries.get? name = some (.loading run) then
    match result with
    | .ok () => { l with entries := l.entries.insert name .loaded }
    | .error e =>
        { l with entries := l.entries.erase name, failures := l.failures ++ [(name, e)] }
  else l

/-- Lets a call that waits for a run take notice of its end. -/
def leave (l : Loader) (name : String) (run : Nat) : Load × Loader :=
  match l.runStatus run with
  | .pending => (.waiting name run, l)
  | .succeeded => (.ended name (.ok ()), l.settle name run (.ok ()))
  | .failed e => (.ended name (.error e), l.settle name run (.error e))

/-- Polls the run that a call waits for. -/
def await (now : Nat) (name : String) (run : Nat) (l : Loader) : Load × Loader :=
  (l.pollRun now run).leave name run

/-- Advances a call as far as it can come without time passing. -/
def poll (now : Nat) (load : Load) (l : Loader) : Load × Loader :=
  match load with
  | .requested name =>
      match l.enter name with
      | (.waiting name run, l) => l.await now name run
      | other => other
  | .waiting name run => l.await now name run
  | .ended name result => (.ended name result, l)

/-- When a call was woken, up to now. -/
def woken (l : Loader) (now : Nat) : Load → Waking
  | .requested _ => .atStart
  | .waiting _ run => ((l.runs[run]?).map (BundleRun.woken now)).getD .never
  | .ended _ _ => .never

/-- Advances several calls together. -/
def pollAll (now : Nat) (loads : List Load) (l : Loader) : List Load × Loader :=
  Join.poll (JoinMode.ofCount loads.length) Load.status (l.woken now) (poll now) loads l

/-- How far several calls have come together. -/
def statusAll (loads : List Load) : Progress BundleError :=
  Join.outcome (JoinMode.ofCount loads.length) Load.status loads

/-- The instants at which fetches end that a call waits for. -/
def dues (l : Loader) (load : Load) : List Nat :=
  match load.run?.bind fun run => l.runs[run]? with
  | some r => r.dues
  | none => []

/-- The number of files that are not fetched yet in all runs. -/
def filesLeft (l : Loader) : Nat :=
  l.runs.foldr (fun run left => run.filesLeft + left) 0

/-- The names of the loaded bundles. -/
def loadedNames (l : Loader) : List String :=
  (l.entries.toList.filter fun entry => entry.2 == .loaded).map (·.1)

/-- The loader as developers see it. -/
def debugText (l : Loader) : String :=
  Text.shownRecord "BundleLoader" [
    ("bundles", Text.shownList (l.registry.names.map Text.quoted)),
    ("loaded", Text.shownList (l.loadedNames.map Text.quoted)),
    ("debug", Text.shownBool l.debug)]

end Loader

end AdminConsole
