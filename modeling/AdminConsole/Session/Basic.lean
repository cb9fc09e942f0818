import AdminConsole.Bundle.Loader
import AdminConsole.Idle.Watchdog
import AdminConsole.Navigation.Navigator

/-!
# Sessions

A session has a navigator, its bundle loader, perhaps a watchdog, and jobs that run side by side:
navigations and loads. A job advances whenever it is polled, as far as it can come without time
passing.
-/

set_option autoImplicit false

namespace AdminConsole

/-- What a job is asked to do. -/
inductive JobRequest where
  | navigate (target : NavigationTarget)
  | load (bundle : String)
  | loadAll (bundles : List String)
  deriving DecidableEq, Repr

/-- What a job came to. -/
inductive JobResult where
  | navigated (result : Except RouterError NavigationOutcome)
  | loaded (result : Except BundleError Unit)

/-- Where a job stands. -/
inductive JobState where
  | navigating (ticket : Nat) (route : ResolvedRoute) (loads : List Load)
  | loading (load : Load)
  | loadingAll (loads : List Load)
  /-- The job ended at this instant. -/
  | ended (instant : Nat) (result : JobResult)

/-- By what a job is known: by nothing while the session waits for it, or by its id in the background. A
job whose id was given to another goes on without anybody who waits for it. -/
inductive JobName where
  | foreground
  | background (id : String)
  | detached
  deriving DecidableEq, Repr

/-- A job. -/
structure Job where
  name : JobName
  state : JobState

/-- Something that developers are warned of. -/
inductive SessionWarning where
  | ambiguous (ambiguity : Ambiguity)
  | loadFailed (bundle : String) (error : BundleError)
  deriving DecidableEq, Repr

/-- A session. -/
structure Session where
  /-- The instant that was reached, in milliseconds after the start. -/
  now : Nat
  loader : Loader
  navigator : Navigator
  watchdog : Option Watchdog
  jobs : List Job
  /-- The warnings so far, the first one first. -/
  warnings : List SessionWarning

namespace JobState

/-- The calls for bundles that the job waits for. -/
def loads : JobState → List Load
  | .navigating _ _ loads => loads
  | .loading load => [load]
  | .loadingAll loads => loads
  | .ended _ _ => []

end JobState

namespace Session

/-- A session at its start. -/
def start (navigator : Navigator) (loader : Loader) (watchdog : Option Watchdog) : Session :=
  { now := 0, loader, navigator, watchdog, jobs := [], warnings := [] }

/-- The session after the loader was used; what it settled as a failure becomes a warning. -/
def withLoader (s : Session) (loader : Loader) : Session :=
  let fresh := loader.failures.drop s.loader.failures.length
  { s with
    loader
    warnings := s.warnings ++ fresh.map fun failure => .loadFailed failure.1 failure.2 }

/-- The state of a job that ends now. -/
def ended (s : Session) (result : JobResult) : JobState := .ended s.now result

/-- The result of calls for bundles that have ended. -/
def loadResult? : Progress BundleError → Option (Except BundleError Unit)
  | .pending => none
  | .succeeded => some (.ok ())
  | .failed e => some (.error e)

/-- Advances a job. -/
def pollJob (s : Session) (state : JobState) : JobState × Session :=
  match state with
  | .navigating ticket route loads =>
      let (loads, loader) := Loader.pollAll s.now loads s.loader
      let s := s.withLoader loader
      match loadResult? (Loader.statusAll loads) with
      | none => (.navigating ticket route loads, s)
      | some result =>
          let (outcome, navigator) := s.navigator.finish ticket route result
          (s.ended (.navigated outcome), { s with navigator })
  | .loading load =>
      let (load, loader) := Loader.poll s.now load s.loader
      let s := s.withLoader loader
      match loadResult? load.status with
      | none => (.loading load, s)
      | some result => (s.ended (.loaded result), s)
  | .loadingAll loads =>
      let (loads, loader) := Loader.pollAll s.now loads s.loader
      let s := s.withLoader loader
      match loadResult? (Loader.statusAll loads) with
      | none => (.loadingAll loads, s)
      | some result => (s.ended (.loaded result), s)
  | .ended instant result => (.ended instant result, s)

/-- Begins a job, without polling it. -/
def beginJob (s : Session) (request : JobRequest) : JobState × Session :=
  match request with
  | .load bundle => (.loading (.requested bundle), s)
  | .loadAll bundles => (.loadingAll (bundles.map .requested), s)
  | .navigate target =>
      let (navigation, ambiguities, navigator) := s.navigator.begin target
      let s := { s with navigator, warnings := s.warnings ++ ambiguities.map .ambiguous }
      match navigation.resolved with
      | .ok route =>
          (.navigating navigation.ticket route (route.dependencies.map .requested), s)
      | .error e =>
          let (outcome, navigator) := s.navigator.fail e
          (s.ended (.navigated outcome), { s with navigator })

/-- Polls jobs in order. -/
def pollJobs : List Job → Session → List Job × Session
  | [], s => ([], s)
  | job :: more, s =>
      let (state, s) := s.pollJob job.state
      let (others, s) := pollJobs more s
      ({ job with state } :: others, s)

/-- The session after all its jobs were polled. -/
def poll (s : Session) : Session :=
  let (jobs, s) := pollJobs s.jobs s
  { s with jobs }

/-- The session without the job of a name. -/
def drop (s : Session) (name : JobName) : Session :=
  { s with jobs := s.jobs.filter fun job => job.name != name }

/-- The session in which the job of a name has lost it. -/
def detach (s : Session) (name : JobName) : Session :=
  { s with
    jobs := s.jobs.map fun job => if job.name = name then { job with name := .detached } else job }

/-- Starts a job. -/
def launch (s : Session) (name : JobName) (request : JobRequest) : Session :=
  let (state, s) := (s.detach name).beginJob request
  poll { s with jobs := s.jobs ++ [⟨name, state⟩] }

/-- The end of a job, if it has ended. -/
def ending? (s : Session) (name : JobName) : Option (Nat × JobResult) :=
  match s.jobs.find? fun job => job.name == name with
  | some ⟨_, .ended instant result⟩ => some (instant, result)
  | _ => none

end Session

end AdminConsole
