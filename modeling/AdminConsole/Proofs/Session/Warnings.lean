import AdminConsole.Proofs.Bundle.FailedLoads
import AdminConsole.Proofs.Session.LoadTraffic

/-!
# What sessions warn of

The warnings of a session tell of ties between routes and of failed loads. Those of the second kind are the
failures that its loader has settled, in the order in which that happened, since every poll of a job takes over
what the loader has added. Main statement: whatever is done with a session, afterwards each run that has failed
has exactly one warning, and there are no others of that kind.
-/

set_option autoImplicit false

namespace AdminConsole

namespace Loader

/-- A call that enters adds no warning. -/
theorem failures_enter (l : Loader) (name : String) : (l.enter name).2.failures = l.failures := by
  rcases l.enter_cases name with ⟨hsame, _⟩ | ⟨definition, _, _, hbegin⟩
  · rw [hsame]
  · rw [hbegin]

/-- Polling a run adds no warning. -/
theorem failures_pollRun (l : Loader) (now run : Nat) :
    (l.pollRun now run).failures = l.failures := by
  rcases l.pollRun_cases now run with hsame | ⟨r, _, _, hpoll⟩
  · rw [hsame]
  · rw [hpoll]

/-- A call that takes notice of its run only adds warnings. -/
theorem failures_prefix_leave (l : Loader) (name : String) (run : Nat) :
    l.failures <+: (l.leave name run).2.failures := by
  cases hstatus : l.runStatus run with
  | pending => simp [leave, hstatus]
  | succeeded =>
    have hsame : (l.leave name run).2.failures = l.failures :=
      failures_leave_of_not_failed (by simp [hstatus])
    exact hsame ▸ List.prefix_refl _
  | failed e =>
    simp only [leave, hstatus, settle]
    split <;> simp

/-- Waiting for a run only adds warnings. -/
theorem failures_prefix_await (l : Loader) (now : Nat) (name : String) (run : Nat) :
    l.failures <+: (l.await now name run).2.failures := by
  have hleave := (l.pollRun now run).failures_prefix_leave name run
  rw [l.failures_pollRun now run] at hleave
  exact hleave

/-- Polling a call only adds warnings. -/
theorem failures_prefix_poll (l : Loader) (now : Nat) (load : Load) :
    l.failures <+: (poll now load l).2.failures := by
  cases load with
  | requested name =>
    rw [LoadTraffic.poll_requested, ← l.failures_enter name]
    split
    · rename_i name' run _
      exact (l.enter name).2.failures_prefix_await now name' run
    · exact List.prefix_refl _
  | waiting name run => exact l.failures_prefix_await now name run
  | ended name result => exact List.prefix_refl _

/-- Polling several calls only adds warnings. -/
theorem failures_prefix_pollAll (l : Loader) (now : Nat) (loads : List Load) :
    l.failures <+: (pollAll now loads l).2.failures := by
  unfold pollAll
  apply Join.poll_induction (motive := fun _ (after : Loader) => l.failures <+: after.failures)
  · intro _ load _ after _ h
    exact h.trans (after.failures_prefix_poll now load)
  · exact List.prefix_refl _

end Loader

/-- The failed load that is warned of, if it is one. -/
def SessionWarning.failure? : SessionWarning → Option (String × BundleError)
  | .loadFailed bundle error => some (bundle, error)
  | .ambiguous _ => none

namespace Session

/-- The failed loads that a session has warned of, in order. -/
def warnedFailures (s : Session) : List (String × BundleError) :=
  s.warnings.filterMap SessionWarning.failure?

/-- Whether a session has warned of what its loader has settled. -/
def Reported (s : Session) : Prop := s.warnedFailures = s.loader.failures

/-- A session has warned of what is settled if this held before, and neither has changed since. -/
theorem Reported.of_same {s after : Session} (h : s.Reported) (loader : after.loader = s.loader)
    (warnings : after.warnedFailures = s.warnedFailures) : after.Reported := by
  rw [Reported, warnings, loader]
  exact h

/-- A session that takes over what its loader has added has warned of it. -/
theorem Reported.withLoader {s : Session} (h : s.Reported) {loader : Loader}
    (more : s.loader.failures <+: loader.failures) : (s.withLoader loader).Reported := by
  obtain ⟨fresh, hfresh⟩ := more
  have hwarned : (fresh.map fun failure => SessionWarning.loadFailed failure.1 failure.2).filterMap
      SessionWarning.failure? = fresh := by
    rw [List.filterMap_map]
    exact List.filterMap_some
  unfold Reported warnedFailures at h ⊢
  simp only [Session.withLoader, ← hfresh, List.drop_left, List.filterMap_append, hwarned, h]

/-- Polling a job leaves the session to have warned of what its loader has settled. -/
theorem Reported.pollJob {s : Session} (h : s.Reported) (state : JobState) :
    (s.pollJob state).2.Reported := by
  cases state with
  | navigating ticket route loads =>
    have hloads := h.withLoader (s.loader.failures_prefix_pollAll s.now loads)
    simp only [Session.pollJob]
    split
    · exact hloads
    · exact hloads.of_same rfl rfl
  | loading load =>
    have hload := h.withLoader (s.loader.failures_prefix_poll s.now load)
    simp only [Session.pollJob]
    split <;> exact hload
  | loadingAll loads =>
    have hloads := h.withLoader (s.loader.failures_prefix_pollAll s.now loads)
    simp only [Session.pollJob]
    split <;> exact hloads
  | ended instant result => exact h

/-- Polling all jobs leaves the session to have warned of what its loader has settled. -/
theorem Reported.pollJobs {s : Session} (h : s.Reported) (jobs : List Job) :
    (Session.pollJobs jobs s).2.Reported := by
  induction jobs generalizing s with
  | nil => exact h
  | cons job jobs ih => exact ih (h.pollJob job.state)

/-- A job that begins warns of ties at most. -/
theorem Reported.withJob {s : Session} (h : s.Reported) (name : JobName) (request : JobRequest) :
    (s.withJob name request).Reported := by
  cases request with
  | load bundle => exact h.of_same rfl rfl
  | loadAll bundles => exact h.of_same rfl rfl
  | navigate target =>
    have hties : ∀ ties : List Ambiguity,
        (ties.map SessionWarning.ambiguous).filterMap SessionWarning.failure? = [] := by
      intro ties
      rw [List.filterMap_map]
      exact List.filterMap_eq_nil_iff.mpr fun _ _ => rfl
    cases hresolved : (s.navigator.begin target).1.resolved with
    | ok route =>
      refine h.of_same ?_ ?_
      · simp only [Session.withJob, beginJob, hresolved]
      · simp only [Session.withJob, beginJob, hresolved, warnedFailures, List.filterMap_append,
          hties, List.append_nil]
    | error e =>
      refine h.of_same ?_ ?_
      · simp only [Session.withJob, beginJob, hresolved]
      · simp only [Session.withJob, beginJob, hresolved, warnedFailures, List.filterMap_append,
          hties, List.append_nil]

/-- Whatever is done with a session, it has warned of what its loader has settled. -/
theorem kept_reported : Kept fun s after => s.Reported → after.Reported where
  refl := fun _ h => h
  trans := fun first second h => second (first h)
  detach := fun _ _ h => h.of_same rfl rfl
  withJob := fun _ name request h => h.withJob name request
  poll := fun s h => (h.pollJobs s.jobs).of_same rfl rfl
  drop := fun _ _ h => h.of_same rfl rfl
  clock := fun _ _ h => h.of_same rfl rfl
  watchdog := by
    intro s change h
    unfold changeWatchdog
    split
    · exact h
    · exact h.of_same rfl rfl
  serve := fun _ _ h => h.of_same rfl rfl

/-- **Each failed run of a session has exactly one warning**, whatever was done with the session. -/
theorem exists_warned_once (registry : BundleRegistry) (debug : Bool) (plan : FetchPlan)
    (navigator : Navigator) (watchdog : Option Watchdog) (uses : List SessionUse) :
    ∃ settled : List Nat, settled.Nodup ∧
      settled.map (uses.foldl apply (Session.start navigator (Loader.start registry debug plan)
        watchdog)).loader.failure? =
          (uses.foldl apply (Session.start navigator (Loader.start registry debug plan)
            watchdog)).warnedFailures.map some ∧
      ∀ run failure, (uses.foldl apply (Session.start navigator (Loader.start registry debug plan)
        watchdog)).loader.failure? run = some failure → run ∈ settled := by
  obtain ⟨moves, hfollows, _⟩ := exists_loadTraffic registry debug plan navigator watchdog uses
  have hreported : (uses.foldl apply (Session.start navigator (Loader.start registry debug plan)
      watchdog)).Reported := kept_reported.uses uses _ rfl
  have hwarned := (LoadTraffic.warned_start registry debug plan).run moves
  rw [Reported] at hreported
  rw [hreported, ← hfollows.1]
  refine ⟨_, hwarned.settles.nodup, hwarned.settles.warnings, ?_⟩
  rintro run ⟨name, e⟩ hfailure
  exact ((hwarned.settled_or_noticed hfailure).resolve_right fun late => hfollows.not_noticed run late.2.2).1

end Session

end AdminConsole
