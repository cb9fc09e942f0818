import AdminConsole.Proofs.Bundle.Answers
import AdminConsole.Proofs.Bundle.RunHistories
import Mathlib.Data.List.Forall2

/-!
# Faithful runs

A run of a bundle fetches the files that the bundle lists, and comes to what became of them. It succeeds exactly when
each file was requested as often as it is listed and all these fetches succeeded, and its error names the bundle, one
of its files, and the reason for which the fetch of this file failed. A serial bundle goes from file to file and stops
at a failure. One that is not serial requests all its files before any fetch ends, if all of them take time.

Which of several failures is reported depends on the number of files, when somebody waits for the run throughout. Up to
thirty it is the one that happens first. With more files, the failures are acknowledged in the order of the list: one
is reported only when all files before it have been fetched.
-/

set_option autoImplicit false

namespace AdminConsole

namespace FileFetch

open BundleRun (fileStatus)

/-! ## The first failure -/

/-- Where a file can stand before a poll at this instant, when no fetch has ended before and none has failed. -/
structure Unpolled (now : Nat) (f : FileFetch) (fetch : RequestedFetch) : Prop where
  follows : f.Follows fetch
  running : f.status.isPending = true → now ≤ fetch.ends
  sound : f.status.isFailed = false

/-- Whether an error of a bundle is that of the fetch that fails first among these; of those that fail at the same
instant, the one that was requested first. -/
def FirstFailure (bundle : String) (e : BundleError) (fetches : List RequestedFetch) : Prop :=
  ∃ (before : List RequestedFetch) (fetch : RequestedFetch) (after : List RequestedFetch) (reason : String),
    fetches = before ++ fetch :: after ∧ fetch.rule.failure = some reason ∧ e = .fetch bundle fetch.file reason ∧
    (∀ other ∈ before, other.rule.failure ≠ none → fetch.ends < other.ends) ∧
    ∀ other ∈ after, other.rule.failure ≠ none → fetch.ends ≤ other.ends

/-- No fetch that fails ends before the one whose failure is the first. -/
theorem FirstFailure.exists_le {bundle : String} {e : BundleError} {fetches : List RequestedFetch}
    (h : FirstFailure bundle e fetches) :
    ∃ fetch ∈ fetches, ∃ reason, e = .fetch bundle fetch.file reason ∧
      ∀ other ∈ fetches, other.rule.failure ≠ none → fetch.ends ≤ other.ends := by
  obtain ⟨before, fetch, after, reason, rfl, _, he, hbefore, hafter⟩ := h
  refine ⟨fetch, by simp, reason, he, List.forall_mem_append.mpr ⟨?_, List.forall_mem_cons.mpr ⟨?_, hafter⟩⟩⟩
  · exact fun other hother hfails => Nat.le_of_lt (hbefore other hother hfails)
  · exact fun _ => Nat.le_refl _

/-- A file has failed as a part of its bundle for the reason for which its fetch has failed. -/
theorem fileStatus_eq_failed_iff {bundle : String} {f : FileFetch} {e : BundleError} :
    fileStatus bundle f = .failed e ↔ ∃ reason, f.state = .failed reason ∧ e = .fetch bundle f.file reason := by
  cases hstate : f.state <;> simp [fileStatus, status, hstate, eq_comm]

/-- A file that has failed has a fetch that fails for the same reason. -/
theorem Follows.failure {f : FileFetch} {fetch : RequestedFetch} (h : f.Follows fetch) {reason : String}
    (failed : f.state = .failed reason) : fetch.rule.failure = some reason := by
  cases h with
  | running _ _ => cases failed
  | fetched _ _ => cases failed
  | failed _ _ fails =>
    cases failed
    exact fails

/-- A file that has not failed after a poll has a fetch that ends later, or succeeds. -/
theorem Polled.later {now : Nat} {f : FileFetch} {fetch : RequestedFetch} (h : f.Polled now fetch)
    (sound : f.status.isFailed = false) (fails : fetch.rule.failure ≠ none) : now < fetch.ends := by
  apply h.running
  cases h.follows with
  | running _ _ => rfl
  | fetched _ succeeds => exact absurd succeeds fails
  | failed _ _ _ => cases sound

/-- The fetch of a file that has not been polled ends now or later, if it fails. -/
theorem Unpolled.later {now : Nat} {f : FileFetch} {fetch : RequestedFetch} (h : f.Unpolled now fetch)
    (fails : fetch.rule.failure ≠ none) : now ≤ fetch.ends := by
  apply h.running
  cases h.follows with
  | running _ _ => rfl
  | fetched _ succeeds => exact absurd succeeds fails
  | failed _ _ _ => cases h.sound

/-- **A short list that fails in a poll** fails with what happens first, if no fetch has ended before the poll. -/
theorem firstFailure_poll {bundle : String} {owner : FetchOwner} {now : Nat} {files : List FileFetch} {n : Network}
    {e : BundleError} (h : Accompanied (Unpolled now) files (n.fetchesOf owner.run))
    (failed : Join.outcome .together (fileStatus bundle)
      (Join.poll .together (fileStatus bundle) (woken now) (poll owner now) files n).1 = .failed e) :
    FirstFailure bundle e
      ((Join.poll .together (fileStatus bundle) (woken now) (poll owner now) files n).2.fetchesOf owner.run) := by
  obtain ⟨others, last, left, ⟨first, second, hfetches, hfirst, hsecond⟩, hlast, hsound⟩ := Join.failed_in_turn
    (motive := fun before after n => Divided (Polled now) (Unpolled now) owner.run before after n)
    (fun before f after n hended hdivided =>
      hdivided.passed (requested_of_ended (by simpa using hended)) fun _ hf =>
        ⟨hf.follows, fun hpending => absurd hpending (by simpa using hended),
          fun hfailed => absurd hfailed (by simp [hf.sound])⟩)
    (fun before f after n hpending hdivided =>
      hdivided.polled now (by simpa using hpending) (fun _ hf => hf.follows) (fun _ _ hf => hf))
    files n (.start h) failed
  obtain ⟨reason, hstate, rfl⟩ := fileStatus_eq_failed_iff.mp hlast
  obtain ⟨before, fetch, rest, rfl, hbefore, hf, hrest⟩ :=
    (Accompanied.of_forall₂ hfirst).split (by rw [hstate]; simp)
  obtain rfl : rest = [] := by
    cases hrest
    rfl
  have hends : fetch.ends ≤ now := hf.failed (by simp [status, hstate, Progress.isFailed])
  refine ⟨before, fetch, second, reason, ?_, hf.follows.failure hstate, by rw [hf.follows.file], ?_, ?_⟩
  · rw [hfetches, List.append_assoc]
    rfl
  · refine (Accompanied.of_forall₂ hbefore).forall_mem fun g hg other hother hfails => ?_
    exact Nat.lt_of_le_of_lt hends (hother.later (by simpa using hsound g hg) hfails)
  · exact hsecond.forall_mem fun g _ other hother hfails => Nat.le_trans hends (hother.later hfails)

/-! ## From file to file -/

section

variable {files : List FileFetch} {trace before after : List (FetchPhase × String)}

/-- The trace of files that are fetched one after another begins with what is shown of the first one, and goes on only
if this one is fetched. -/
theorem OneByOne.of_cons {f : FileFetch} (h : OneByOne (f :: files) trace) :
    trace = f.shown ++ files.flatMap shown ∧ OneByOne files (files.flatMap shown) ∧
      (f.state = .fetched ∨ files.flatMap shown = []) := by
  obtain ⟨hlater, hrest⟩ := List.pairwise_cons.mp h.order
  refine ⟨by rw [h.trace, List.flatMap_cons], ⟨hrest, rfl⟩, ?_⟩
  by_cases hfetched : f.state = .fetched
  · exact .inl hfetched
  · exact .inr (flatMap_shown_of_waiting fun g hg => (hlater g hg).resolve_left hfetched)

/-- Whether an entry of a trace, with what comes before and after it, is shown of one of the files. All files before
this one were fetched, and if it was not, nothing is shown of the files after it. -/
def ShownWithin (files : List FileFetch) (before : List (FetchPhase × String)) (entry : FetchPhase × String)
    (after : List (FetchPhase × String)) : Prop :=
  ∃ (done : List FileFetch) (f : FileFetch) (later : List FileFetch) (own more : List (FetchPhase × String)),
    files = done ++ f :: later ∧ (∀ g ∈ done, g.state = .fetched) ∧ f.shown = own ++ entry :: more ∧
    before = done.flatMap shown ++ own ∧ after = more ++ later.flatMap shown ∧
    (f.state = .fetched ∨ later.flatMap shown = [])

/-- Every entry of the trace of files that are fetched one after another is shown of one of them. -/
theorem OneByOne.shownWithin {entry : FetchPhase × String} (h : OneByOne files trace)
    (split : trace = before ++ entry :: after) : ShownWithin files before entry after := by
  induction files generalizing trace before with
  | nil =>
    rw [h.trace] at split
    simp at split
  | cons f files ih =>
    obtain ⟨htrace, hrest, hlast⟩ := h.of_cons
    -- the entry is shown of a later file
    have hlater : ∀ more, before = f.shown ++ more → files.flatMap shown = more ++ entry :: after →
        ShownWithin (f :: files) before entry after := by
      rintro more rfl hmore
      have hfetched : f.state = .fetched := hlast.resolve_right (by rw [hmore]; simp)
      obtain ⟨done, g, later, own, rest, rfl, hdone, hg, rfl, hafter, hgoes⟩ := ih hrest hmore
      exact ⟨f :: done, g, later, own, rest, rfl, List.forall_mem_cons.mpr ⟨hfetched, hdone⟩, hg,
        by rw [List.flatMap_cons, List.append_assoc], hafter, hgoes⟩
    rw [htrace] at split
    rcases List.append_eq_append_iff.mp split with ⟨more, hbefore, hmore⟩ | ⟨own, hshown, hown⟩
    · exact hlater more hbefore hmore
    · match own with
      | [] => exact hlater [] (by simpa using hshown.symm) (by simpa using hown.symm)
      | first :: rest =>
        obtain ⟨rfl, rfl⟩ := List.cons.inj hown
        exact ⟨[], f, files, before, rest, rfl, by simp, hshown, rfl, rfl, hlast⟩

/-- **A file is requested** when all before it have been requested and fetched, one after another. -/
theorem OneByOne.done_of_start {file : String} (h : OneByOne files trace)
    (split : trace = before ++ (.start, file) :: after) :
    ∃ done rest, files.map (·.file) = done ++ file :: rest ∧
      before = done.flatMap fun file => [(.start, file), (.done, file)] := by
  obtain ⟨done, f, later, own, more, rfl, hdone, hshown, rfl, _⟩ := h.shownWithin split
  obtain ⟨rfl, rfl⟩ : own = [] ∧ f.file = file := by
    cases hstate : f.state <;> simp_all [shown, List.cons_eq_append_iff]
  refine ⟨done.map (·.file), later.map (·.file), by simp, ?_⟩
  rw [List.append_nil, List.flatMap_map]
  exact List.flatMap_congr fun g hg => by rw [shown, hdone g hg]

/-- **Nothing comes after a failure.** -/
theorem OneByOne.last_of_fail {file : String} (h : OneByOne files trace)
    (split : trace = before ++ (.fail, file) :: after) : after = [] := by
  obtain ⟨done, f, later, own, more, rfl, hdone, hshown, rfl, rfl, hlast⟩ := h.shownWithin split
  cases hstate : f.state <;> simp_all [shown, List.cons_eq_append_iff]

end

end FileFetch

namespace BundleRun

open FileFetch (Accompanied FirstFailure)

variable {r : BundleRun} {fetches : List RequestedFetch} {trace : List (FetchPhase × String)}

/-! ## What a run reports -/

/-- A bundle with few files is fetched all at once, unless it is serial. -/
theorem mode_of_short (concurrent : r.definition.serial = false)
    (short : r.definition.files.length ≤ JoinMode.shortList) : r.mode = .together := by
  rw [mode, concurrent, JoinMode.ofCount, if_pos short]
  rfl

/-- The failures of a bundle with many files are acknowledged in their order, unless it is serial. -/
theorem mode_of_long (concurrent : r.definition.serial = false)
    (long : JoinMode.shortList < r.definition.files.length) : r.mode = .inOrder := by
  rw [mode, concurrent, JoinMode.ofCount, if_neg (Nat.not_le.mpr long)]
  rfl

/-- A serial bundle is fetched one file after another. -/
theorem mode_of_serial (serial : r.definition.serial = true) : r.mode = .serial := by
  rw [mode, serial]
  rfl

/-- A bundle that is not serial is not fetched one file after another. -/
theorem mode_of_concurrent (concurrent : r.definition.serial = false) : r.mode ≠ .serial := by
  simp only [mode, concurrent, Bool.false_eq_true, if_false, JoinMode.ofCount]
  split <;> simp

/-- **The error of a run is that of a fetch** that fails, and that the trace shows to have failed. -/
theorem Recorded.of_failed (h : r.Recorded fetches trace) {e : BundleError} (failed : r.status = .failed e) :
    ∃ (before : List RequestedFetch) (fetch : RequestedFetch) (after : List RequestedFetch) (reason : String),
      fetches = before ++ fetch :: after ∧ fetch.rule.failure = some reason ∧
      e = .fetch r.definition.name fetch.file reason ∧ fetch.file ∈ r.files.map (·.file) ∧
      (.fail, fetch.file) ∈ trace ∧ (r.mode = .inOrder → ∀ other ∈ before, other.rule.failure = none) := by
  obtain ⟨done, f, later, hfiles, hfailed, hpast⟩ := (Join.outcome_eq_failed_iff _ _ e).mp failed
  obtain ⟨reason, hstate, rfl⟩ := FileFetch.fileStatus_eq_failed_iff.mp hfailed
  have hmem : f ∈ r.files := by simp [hfiles]
  have haccompanied := h.accompanied
  rw [hfiles] at haccompanied
  obtain ⟨before, fetch, after, rfl, hbefore, hf, _⟩ := haccompanied.split (by rw [hstate]; simp)
  have hshown : (.fail, f.file) ∈ trace := h.shown f hmem (by simp [FileFetch.shown, hstate])
  rw [hf.file] at hshown
  refine ⟨before, fetch, after, reason, rfl, hf.failure hstate, by rw [hf.file],
    by rw [← hf.file]; exact List.mem_map_of_mem hmem, hshown, ?_⟩
  intro hmode
  rw [hmode] at hpast
  refine (Accompanied.of_forall₂ hbefore).forall_mem fun g hg other hother => ?_
  -- a file before the failed one has been fetched
  have hgoes := hpast g hg
  cases hother with
  | fetched _ succeeds => exact succeeds
  | running _ _ => cases hgoes
  | failed _ _ _ => cases hgoes

/-! ## The first failure of a run -/

/-- Whether the history fits the files of a run, and a failure of few files is the first. -/
structure Punctual (r : BundleRun) (fetches : List RequestedFetch) (trace : List (FetchPhase × String)) : Prop where
  recorded : r.Recorded fetches trace
  first : r.mode = .together → ∀ e, r.status = .failed e → FirstFailure r.definition.name e fetches

/-- A run that begins has not failed. -/
theorem punctual_begin (definition : BundleDefinition) : (BundleRun.begin definition).Punctual [] [] := by
  refine ⟨recorded_begin definition, ?_⟩
  intro _ e hfailed
  obtain ⟨before, fetch, after, _, hsplit, _⟩ := (recorded_begin definition).of_failed hfailed
  simp at hsplit

/-- Before a poll that no fetch has ended before, each fetch of a run of few files ends then or later. -/
theorem Recorded.unpolled {now : Nat} (h : r.Recorded fetches trace) (pending : r.status.isPending = true)
    (together : r.mode = .together) (awaited : ∀ due ∈ r.dues, now ≤ due) :
    Accompanied (FileFetch.Unpolled now) r.files fetches := by
  refine h.accompanied.mono fun f hf fetch hfollows => ⟨hfollows, ?_, ?_⟩
  · intro hgoes
    apply awaited
    rw [dues, if_pos pending, List.mem_filterMap]
    refine ⟨f, hf, ?_⟩
    cases hfollows with
    | running _ _ => rfl
    | fetched _ _ => cases hgoes
    | failed _ _ _ => cases hgoes
  · cases hfailed : f.status.isFailed with
    | false => rfl
    | true =>
      have hany : r.status.isFailed = true := by
        rw [status, together, Join.isFailed_outcome (by decide), List.any_eq_true]
        exact ⟨f, hf, by simpa using hfailed⟩
      cases hstatus : r.status <;> simp_all [Progress.isPending, Progress.isFailed]

/-- A failure that a poll brings about is the first, if no fetch has ended before the poll. -/
theorem Punctual.poll {run now : Nat} {n : Network} (h : r.Punctual (n.fetchesOf run) (n.traceOf run))
    (pending : r.status.isPending = true) (awaited : ∀ due ∈ r.dues, now ≤ due) :
    (r.poll run now n).1.Punctual ((r.poll run now n).2.fetchesOf run) ((r.poll run now n).2.traceOf run) := by
  refine ⟨h.recorded.poll pending, ?_⟩
  rw [poll_of_pending run now n pending]
  intro (htogether : r.mode = .together) e
    (hfailed : Join.outcome r.mode (fileStatus r.definition.name) (Join.poll r.mode (fileStatus r.definition.name)
      (FileFetch.woken now) (FileFetch.poll ⟨run, r.definition.name⟩ now) r.files n).1 = .failed e)
  have hunpolled := h.recorded.unpolled pending htogether awaited
  rw [htogether] at hfailed ⊢
  exact FileFetch.firstFailure_poll hunpolled hfailed

/-! ## What a run comes to -/

/-- **A run succeeds** exactly when it has requested each file as often as its bundle lists it, and all these fetches
have succeeded. -/
theorem succeeded_iff {l : Loader} {Noticed : Nat → Prop} (coherent : l.Coherent Noticed) (accounted : l.Accounted)
    {run : Nat} (hr : l.runs[run]? = some r) :
    r.status = .succeeded ↔ ∀ file, l.network.requestsOf run file = r.definition.files.count file ∧
      l.network.deliveriesOf ⟨run, r.definition.name⟩ file = r.definition.files.count file := by
  constructor
  · intro hsucceeded file
    have hfetched : ∀ f ∈ r.files, f.isFetched = true := fun f hf => isFetched_of_succeeded hsucceeded hf
    have hstarted : FileFetch.started r.files file = FileFetch.delivered r.files file := by
      apply List.countP_congr
      intro f hf
      have hstate : f.state = .fetched := by simpa [FileFetch.isFetched] using hfetched f hf
      simp [FileFetch.isStarted, FileFetch.isFetched, hstate]
    rw [coherent.requests run r file hr, accounted.deliveries run r file hr, hstarted,
      FileFetch.delivered_of_forall hfetched, coherent.files run r hr]
    exact ⟨rfl, rfl⟩
  · intro hcounts
    refine (Join.outcome_eq_succeeded_iff _ _).mpr fun f hf => ?_
    have hdelivered := (hcounts f.file).2
    rw [accounted.deliveries run r f.file hr, ← coherent.files run r hr] at hdelivered
    have hfetched := FileFetch.isFetched_of_delivered hdelivered hf rfl
    have hstate : f.state = .fetched := by simpa [FileFetch.isFetched] using hfetched
    simp [fileStatus, FileFetch.status, hstate]

/-- What it means that a run fetches the files of its bundle faithfully, when somebody may have waited for it all the
time. -/
structure Faithful (n : Network) (run : Nat) (r : BundleRun) (awaited : Prop) : Prop where
  /-- It succeeds exactly when it has requested each file as often as it is listed, and all these fetches have
  succeeded. -/
  succeeded : r.status = .succeeded ↔ ∀ file, n.requestsOf run file = r.definition.files.count file ∧
    n.deliveriesOf ⟨run, r.definition.name⟩ file = r.definition.files.count file
  /-- Its error names the bundle, a file of it whose fetch has failed, and the reason of this fetch. -/
  failed : ∀ e, r.status = .failed e → ∃ fetch ∈ n.fetchesOf run, ∃ reason, fetch.rule.failure = some reason ∧
    e = .fetch r.definition.name fetch.file reason ∧ fetch.file ∈ r.definition.files ∧
    (.fail, fetch.file) ∈ n.traceOf run
  /-- The files that it has requested are the first ones of the list, in order. -/
  requested : n.requestedBy run <+: r.definition.files
  /-- In a serial bundle a file is requested when all files before it have been requested and have succeeded, one after
  another, and nothing else has happened. -/
  oneByOne : r.definition.serial = true → ∀ before file after, n.traceOf run = before ++ (.start, file) :: after →
    ∃ done rest, r.definition.files = done ++ file :: rest ∧
      before = done.flatMap fun file => [(.start, file), (.done, file)]
  /-- In a serial bundle nothing happens after a failure. -/
  stops : r.definition.serial = true → ∀ before file after, n.traceOf run = before ++ (.fail, file) :: after →
    after = []
  /-- In a bundle that is not serial all files are requested before any fetch ends, if all fetches take time. -/
  atOnce : r.definition.serial = false → (∀ fetch ∈ n.fetchesOf run, 0 < fetch.rule.delay) →
    n.traceOf run = [] ∨ ∃ ends, n.traceOf run = r.definition.files.map (fun file => (.start, file)) ++ ends ∧
      ∀ entry ∈ ends, entry.1 ≠ .start
  /-- If it is not serial, has no more than thirty files and was awaited throughout, it fails with the failure that
  happens first. -/
  first : r.definition.serial = false → r.definition.files.length ≤ JoinMode.shortList → awaited →
    ∀ e, r.status = .failed e → FirstFailure r.definition.name e (n.fetchesOf run)
  /-- With more files it fails when all fetches before the failed one have succeeded. -/
  inOrder : r.definition.serial = false → JoinMode.shortList < r.definition.files.length →
    ∀ e, r.status = .failed e →
      ∃ (before : List RequestedFetch) (fetch : RequestedFetch) (after : List RequestedFetch) (reason : String),
        n.fetchesOf run = before ++ fetch :: after ∧ fetch.rule.failure = some reason ∧
        e = .fetch r.definition.name fetch.file reason ∧ ∀ other ∈ before, other.rule.failure = none

/-- A run whose history fits its files is faithful, at a loader that keeps its accounts. -/
theorem faithful_of_recorded {l : Loader} {Noticed : Nat → Prop} (coherent : l.Coherent Noticed)
    (accounted : l.Accounted) {run : Nat} (hr : l.runs[run]? = some r)
    (h : r.Recorded (l.network.fetchesOf run) (l.network.traceOf run)) {awaited : Prop}
    (punctual : awaited → r.Punctual (l.network.fetchesOf run) (l.network.traceOf run)) :
    r.Faithful l.network run awaited := by
  have hfiles := coherent.files run r hr
  refine ⟨succeeded_iff coherent accounted hr, ?_, ?_, ?_, ?_, ?_, ?_, ?_⟩
  · intro e hfailed
    obtain ⟨before, fetch, after, reason, hsplit, hfails, he, hfile, hshown, _⟩ := h.of_failed hfailed
    exact ⟨fetch, by rw [hsplit]; simp, reason, hfails, he, by rwa [← hfiles], hshown⟩
  · rw [← Network.map_file_fetchesOf, ← hfiles]
    exact h.accompanied.map_file_prefix
  · intro hserial before file after hsplit
    rw [← hfiles]
    exact (h.serial (mode_of_serial hserial)).done_of_start hsplit
  · intro hserial before file after hsplit
    exact (h.serial (mode_of_serial hserial)).last_of_fail hsplit
  · intro hconcurrent htime
    rcases h.concurrent (mode_of_concurrent hconcurrent) with ⟨_, hquiet⟩ | ⟨hfirst, _⟩
    · exact .inl hquiet
    · rcases hfirst with ⟨fetch, hfetch, hdelay⟩ | ⟨ends, htrace, hends⟩
      · exact absurd hdelay (Nat.ne_of_gt (htime fetch hfetch))
      · refine .inr ⟨ends, ?_, hends⟩
        rw [htrace, ← hfiles, List.map_map]
        rfl
  · intro hconcurrent hshort hawaited
    exact (punctual hawaited).first (mode_of_short hconcurrent hshort)
  · intro hconcurrent hlong e hfailed
    obtain ⟨before, fetch, after, reason, hsplit, hfails, he, _, _, hbefore⟩ := h.of_failed hfailed
    exact ⟨before, fetch, after, reason, hsplit, hfails, he, hbefore (mode_of_long hconcurrent hlong)⟩

end BundleRun

namespace LoadTraffic

/-- Whether a run is awaited throughout some moves, so that no fetch of it ends without the run being polled at this
instant: no poll of the run comes after the end of a fetch that is still going on. -/
def Awaited (s : LoadTraffic) (run : Nat) (moves : List LoadMove) : Prop :=
  s.PolledWhen (fun r now => ∀ due ∈ r.dues, now ≤ due) run moves

/-- Whether a run is awaited throughout some moves can be decided move by move. -/
instance (s : LoadTraffic) (run : Nat) (moves : List LoadMove) : Decidable (s.Awaited run moves) :=
  inferInstanceAs (Decidable (s.PolledWhen _ run moves))

/-- Whether all runs are faithful, of which some may have been awaited all the time. -/
def FaithfulRuns (s : LoadTraffic) (awaited : Nat → Prop) : Prop :=
  ∀ (run : Nat) (r : BundleRun), s.loader.runs[run]? = some r → r.Faithful s.loader.network run (awaited run)

/-- **Every run is faithful**, whatever the fetches of its files take and come to, and however calls overlap. -/
theorem faithful_runs (registry : BundleRegistry) (debug : Bool) (plan : FetchPlan) (moves : List LoadMove) :
    ((start registry debug plan).run moves).FaithfulRuns
      fun run => (start registry debug plan).Awaited run moves := by
  have horderly := orderly_start registry debug plan
  have htruthful := (truthful_start registry debug plan).run horderly moves
  intro run r hr
  have hnone : ∀ P, (start registry debug plan).loader.HoldsOf P run := by simp [start, Loader.start, Loader.HoldsOf]
  have hrecorded := recorded_run horderly (hnone _) moves r hr
  refine BundleRun.faithful_of_recorded (horderly.run moves).coherent htruthful.accounted hr hrecorded ?_
  intro hawaited
  exact holdsOf_run BundleRun.punctual_begin (fun _ _ _ hpending hallowed h => h.poll hpending hallowed) horderly
    (hnone _) moves hawaited r hr

/-! ## More than thirty files -/

/-- A bundle with one file more than thirty. The first two cannot be fetched. -/
def manyFiles : BundleDefinition :=
  ⟨"big", false, "f0.js" :: "f1.js" :: List.replicate 29 "f2.js"⟩

/-- The fetch of the second file fails before that of the first one. -/
def failingPlan : FetchPlan := fun file _ =>
  if file = "f0.js" then ⟨20, some "slow"⟩ else if file = "f1.js" then ⟨10, some "fast"⟩ else ⟨5, none⟩

/-- A call for the bundle waits until the last of the fetches has ended. -/
def awaitingMoves : List LoadMove :=
  [.call "big", .enter 0, .poll 0 0, .leave 0, .poll 0 5, .leave 0, .poll 0 10, .leave 0, .poll 0 20, .leave 0]

/-- The loader of the bundle at its start. -/
def manyStart : LoadTraffic :=
  start (BundleRegistry.ofList [manyFiles]) false failingPlan

set_option maxRecDepth 10000 in
/-- **A failure may be reported that is not the first** of a bundle with more than thirty files, though all fetches take
time and the run was awaited throughout. -/
theorem later_failure_reported :
    manyStart.Awaited 0 awaitingMoves ∧ ∃ r, (manyStart.run awaitingMoves).loader.runs[0]? = some r ∧
      r.definition.serial = false ∧
      (∀ fetch ∈ (manyStart.run awaitingMoves).loader.network.fetchesOf 0, 0 < fetch.rule.delay) ∧
      r.status = .failed (.fetch "big" "f0.js" "slow") ∧
      ¬ FileFetch.FirstFailure "big" (.fetch "big" "f0.js" "slow")
        ((manyStart.run awaitingMoves).loader.network.fetchesOf 0) := by
  have hcheck : manyStart.Awaited 0 awaitingMoves ∧
      (manyStart.run awaitingMoves).loader.runs[0]?.map (fun r => (r.definition.serial, r.status)) =
        some (false, .failed (.fetch "big" "f0.js" "slow")) ∧
      (manyStart.run awaitingMoves).loader.network.fetchesOf 0 =
        ⟨"f0.js", 0, ⟨20, some "slow"⟩⟩ :: ⟨"f1.js", 0, ⟨10, some "fast"⟩⟩ ::
          List.replicate 29 ⟨"f2.js", 0, ⟨5, none⟩⟩ := by
    decide +kernel
  obtain ⟨hawaited, hrun, hfetches⟩ := hcheck
  obtain ⟨r, hr, hfacts⟩ := Option.map_eq_some_iff.mp hrun
  obtain ⟨hserial, hstatus⟩ := Prod.mk.inj hfacts
  refine ⟨hawaited, r, hr, hserial, ?_, hstatus, ?_⟩
  · rw [hfetches]
    decide
  · intro hfirst
    obtain ⟨fetch, hmem, reason, he, hle⟩ := hfirst.exists_le
    rw [hfetches] at hmem hle
    obtain ⟨_, hfile, _⟩ := BundleError.fetch.inj he
    have hsecond := hle ⟨"f1.js", 0, ⟨10, some "fast"⟩⟩ (by simp) (by simp)
    -- only the first fetch is of the file that is reported
    rcases List.mem_cons.mp hmem with rfl | hmem
    · exact absurd hsecond (by decide)
    · rcases List.mem_cons.mp hmem with rfl | hmem
      · exact absurd hfile (by decide +kernel)
      · rw [List.eq_of_mem_replicate hmem] at hfile
        exact absurd hfile (by decide +kernel)

end LoadTraffic

end AdminConsole
