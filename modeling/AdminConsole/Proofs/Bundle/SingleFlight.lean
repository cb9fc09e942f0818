import AdminConsole.Proofs.Bundle.LoadTraffic
import AdminConsole.Session.Basic

/-!
# Single flight

However calls overlap, fail and are dropped, each bundle has at most one run that is not settled. All calls
that come while there is one wait for it and return what it comes to, and once a run has succeeded nothing of
its bundle is requested again. A run of which all calls were dropped is left as it is, and the next call goes
on with it. All this is `LoadTraffic.SingleFlight`, and `LoadTraffic.Orderly.singleFlight` says that it holds
whenever the traffic is orderly.

The loaders of sessions go through such traffic (`Session.exists_loadTraffic`), so all of it holds of them too.
-/

set_option autoImplicit false

namespace AdminConsole

/-! ## What it means for the calls -/

namespace Loader

/-- Whether a run of a bundle is not settled: it is going on, or still stands in the table. -/
def Unsettled (l : Loader) (name : String) (run : Nat) : Prop :=
  ∃ r, l.runs[run]? = some r ∧ r.definition.name = name ∧
    (r.status.isPending = true ∨ l.entries.get? name = some (.loading run))

/-- What a run came to, if it has ended. -/
def result? (l : Loader) (run : Nat) : Option (Except BundleError Unit) :=
  Session.loadResult? (l.runStatus run)

/-- A run that is not settled stands in the table. -/
theorem Coherent.entry_of_unsettled {l : Loader} {Noticed : Nat → Prop} (h : l.Coherent Noticed)
    {name : String} {run : Nat} (unsettled : l.Unsettled name run) :
    l.entries.get? name = some (.loading run) := by
  obtain ⟨r, hr, rfl, hpending | hentry⟩ := unsettled
  · exact h.pending run r hr hpending
  · exact hentry

/-- Two runs of a bundle that are not settled are the same, as both stand in the table. -/
theorem Coherent.unsettled_unique {l : Loader} {Noticed : Nat → Prop} (h : l.Coherent Noticed)
    {name : String} {run other : Nat} (first : l.Unsettled name run)
    (second : l.Unsettled name other) : run = other := by
  have hentry := (h.entry_of_unsettled first).symm.trans (h.entry_of_unsettled second)
  exact LoadEntry.loading.inj (Option.some.inj hentry)

/-- What a run came to is not changed any more. -/
theorem Grows.result? {l l' : Loader} (grows : l.Grows l') {run : Nat}
    {result : Except BundleError Unit} (h : l.result? run = some result) :
    l'.result? run = some result := by
  unfold Loader.result? runStatus at h ⊢
  cases hr : l.runs[run]? with
  | none =>
    rw [hr] at h
    cases h
  | some r =>
    rw [hr] at h
    dsimp only at h
    obtain ⟨r', hr', _, hended⟩ := grows.runs run r hr
    have hdone : r.status.isPending = false := by
      cases hstatus : r.status with
      | pending =>
        rw [hstatus] at h
        cases h
      | succeeded => rfl
      | failed e => rfl
    rw [hr', hended hdone]
    exact h

/-- A call that leaves returns what its run came to, if that has ended. -/
theorem leave_of_result (l : Loader) (name : String) {run : Nat}
    {result : Except BundleError Unit} (h : l.result? run = some result) :
    (l.leave name run).1 = .ended name result := by
  unfold result? at h
  unfold leave
  cases hstatus : l.runStatus run with
  | pending =>
    rw [hstatus] at h
    cases h
  | succeeded =>
    rw [hstatus] at h
    cases h
    rfl
  | failed e =>
    rw [hstatus] at h
    cases h
    rfl

/-- A call that leaves waits on if its run goes on. -/
theorem leave_of_none (l : Loader) (name : String) {run : Nat} (h : l.result? run = none) :
    (l.leave name run).1 = .waiting name run := by
  unfold result? at h
  unfold leave
  cases hstatus : l.runStatus run with
  | pending => rfl
  | succeeded =>
    rw [hstatus] at h
    cases h
  | failed e =>
    rw [hstatus] at h
    cases h

end Loader

namespace LoadTraffic

/-- Whether the call at a place is bound to a run: it was dropped, waits for the run, or has returned what
the run came to. -/
def Bound (s : LoadTraffic) (place : Nat) (name : String) (run : Nat) : Prop :=
  place < s.calls.length ∧ (s.callAt place = none ∨
    (∃ inside, s.callAt place = some ⟨.waiting name run, inside⟩) ∨
    ∃ result inside, s.callAt place = some ⟨.ended name result, inside⟩ ∧
      s.loader.result? run = some result)

section

variable {s : LoadTraffic} {place run : Nat} {name : String}

/-- A call that is bound to a run and waits does so for this run. -/
theorem Bound.eq_of_waiting (h : s.Bound place name run) {name' : String} {run' : Nat}
    {inside : Bool} (call : s.callAt place = some ⟨.waiting name' run', inside⟩) :
    name' = name ∧ run' = run := by
  rcases h.2 with hnone | ⟨_, hwaiting⟩ | ⟨_, _, hended, _⟩
  · cases call.symm.trans hnone
  · cases call.symm.trans hwaiting
    exact ⟨rfl, rfl⟩
  · cases call.symm.trans hended

/-- A call that is bound to a run has entered. -/
theorem Bound.not_requested (h : s.Bound place name run) (name' : String) (inside : Bool) :
    s.callAt place ≠ some ⟨.requested name', inside⟩ := by
  intro call
  rcases h.2 with hnone | ⟨_, hwaiting⟩ | ⟨_, _, hended, _⟩
  · cases call.symm.trans hnone
  · cases call.symm.trans hwaiting
  · cases call.symm.trans hended

/-- A call that is bound to a run stays bound to it when the call at another place moves. -/
theorem Bound.put_of_ne (h : s.Bound place name run) {other : Nat} (hne : other ≠ place)
    (call : Option LoadCall) {loader : Loader} (grows : s.loader.Grows loader) :
    (s.put other call loader).Bound place name run := by
  obtain ⟨hplace, h⟩ := h
  refine ⟨by simpa [put] using hplace, ?_⟩
  rw [callAt_put_of_ne hne]
  rcases h with hnone | hwaiting | ⟨result, inside, hended, hresult⟩
  · exact .inl hnone
  · exact .inr (.inl hwaiting)
  · exact .inr (.inr ⟨result, inside, hended, grows.result? hresult⟩)

/-- A call that leaves is bound to the run that it waited for. -/
theorem bound_leave (hplace : place < s.calls.length) :
    (s.put place (some ⟨(s.loader.leave name run).1, false⟩)
      (s.loader.leave name run).2).Bound place name run := by
  refine ⟨by simpa [put] using hplace, .inr ?_⟩
  rw [callAt_put_self hplace]
  cases hresult : s.loader.result? run with
  | none => exact .inl ⟨false, by rw [s.loader.leave_of_none name hresult]⟩
  | some result =>
    exact .inr ⟨result, false, by rw [s.loader.leave_of_result name hresult],
      (s.loader.grows_leave name run).result? hresult⟩

/-- **A call stays with its run**, whatever happens. -/
theorem bound_moved (h : s.Bound place name run) {s' : LoadTraffic} (move : Moved s s') :
    s'.Bound place name run := by
  have grows := grows_moved move
  have hplace := h.1
  cases move with
  | same => exact h
  | called other =>
    obtain ⟨_, h⟩ := h
    refine ⟨by simp only [step, List.length_append]; omega, ?_⟩
    rw [callAt_call, if_neg (Nat.ne_of_lt hplace)]
    exact h
  | entered other name' inside call =>
    refine h.put_of_ne ?_ _ grows
    rintro rfl
    exact h.not_requested name' inside call
  | polled other now name' run' inside call =>
    by_cases hsame : other = place
    · subst hsame
      obtain ⟨rfl, rfl⟩ := h.eq_of_waiting call
      exact ⟨by simpa [put] using hplace, .inr (.inl ⟨true, callAt_put_self hplace _ _⟩)⟩
    · exact h.put_of_ne hsame _ grows
  | left other name' run' call =>
    by_cases hsame : other = place
    · subst hsame
      obtain ⟨rfl, rfl⟩ := h.eq_of_waiting call
      exact bound_leave hplace
    · exact h.put_of_ne hsame _ grows
  | dropped other load call =>
    by_cases hsame : other = place
    · subst hsame
      exact ⟨by simpa [put] using hplace, .inl (callAt_put_self hplace _ _)⟩
    · exact h.put_of_ne hsame _ grows

end

/-- A call that is bound to a run stays so whatever happens at the loader. -/
theorem bound_run {s : LoadTraffic} {place run : Nat} {name : String} (h : s.Bound place name run)
    (moves : List LoadMove) : (s.run moves).Bound place name run := by
  induction moves generalizing s with
  | nil => exact h
  | cons move moves ih => exact ih (bound_moved h (s.moved_step move))

/-! ## What it means for a bundle -/

namespace Orderly

variable {s : LoadTraffic}

/-- After a run of a bundle has succeeded, no move requests anything for this bundle. -/
theorem requestsFor_moved (h : s.Orderly) {s' : LoadTraffic} (move : Moved s s') {run : Nat}
    {r : BundleRun} (hr : s.loader.runs[run]? = some r) (hsucceeded : r.status = .succeeded) :
    s'.loader.network.requestsFor r.definition.name =
      s.loader.network.requestsFor r.definition.name := by
  cases move with
  | same => rfl
  | called name => rfl
  | entered place name inside call => simp only [put, Loader.network_enter]
  | polled place now name other inside call =>
    exact h.coherent.requestsFor_pollRun hr hsucceeded now other
  | left place name other call => simp only [put, Loader.network_leave]
  | dropped place load call => rfl

/-- When a run of a bundle has succeeded, no file is ever requested for the bundle again. -/
theorem requestsFor_run (h : s.Orderly) {run : Nat} {r : BundleRun}
    (hr : s.loader.runs[run]? = some r) (hsucceeded : r.status = .succeeded)
    (moves : List LoadMove) :
    (s.run moves).loader.network.requestsFor r.definition.name =
      s.loader.network.requestsFor r.definition.name := by
  induction moves generalizing s with
  | nil => rfl
  | cons move moves ih =>
    have hmove := s.moved_step move
    obtain ⟨r', hr', _, hended⟩ := (grows_moved hmove).runs run r hr
    obtain rfl := hended (by rw [hsucceeded]; rfl)
    exact (ih (h.step move) hr').trans (h.requestsFor_moved hmove hr hsucceeded)

/-- A bundle of which a run succeeded is loaded, unless some call of the run is about to take notice. -/
theorem loaded_or_noticed (h : s.Orderly) {run : Nat} {r : BundleRun}
    (hr : s.loader.runs[run]? = some r) (hsucceeded : r.status = .succeeded) :
    s.loader.isLoaded r.definition.name = true ∨ s.Noticed run := by
  rcases h.coherent.succeeded run r hr hsucceeded with hloaded | hloading
  · exact .inl (Loader.isLoaded_iff.mpr hloaded)
  · exact .inr (h.coherent.noticed _ run r hloading hr (by rw [hsucceeded]; rfl))

/-- A call that takes notice of a success makes the bundle loaded. -/
theorem loaded_of_leave (h : s.Orderly) {place run : Nat} {name : String} {r : BundleRun}
    (hcall : s.callAt place = some ⟨.waiting name run, true⟩)
    (hr : s.loader.runs[run]? = some r) (hsucceeded : r.status = .succeeded) :
    (s.step (.leave place)).loader.isLoaded name = true := by
  obtain ⟨q, hq, hname⟩ := h.waiting place name run true hcall
  obtain rfl : r = q := Option.some.inj (hr.symm.trans hq)
  have hstep : (s.step (.leave place)).loader = s.loader.settle name run (.ok ()) := by
    rcases s.loader.leave_cases name hr with ⟨hstatus, _⟩ | ⟨_, hleave⟩ | ⟨e, hstatus, _⟩
    · cases hstatus.symm.trans hsucceeded
    · rw [step_leave hcall, put, hleave]
    · cases hstatus.symm.trans hsucceeded
  rw [hstep, Loader.isLoaded_iff]
  by_cases hentry : s.loader.entries.get? name = some (.loading run)
  · simp [Loader.settle, hentry]
  · have hloaded := (h.coherent.succeeded run r hr hsucceeded).resolve_right (by rwa [hname])
    rw [Loader.settle, if_neg hentry, ← hname]
    exact hloaded

/-- **A run that nobody waits for is left as it is.** -/
theorem abandoned (h : s.Orderly) {name : String} {run : Nat}
    (unsettled : s.loader.Unsettled name run)
    (alone : ∀ place name' inside, s.callAt place ≠ some ⟨.waiting name' run, inside⟩)
    (move : LoadMove) :
    (s.step move).loader.runs[run]? = s.loader.runs[run]? ∧
      (s.step move).loader.entries.get? name = some (.loading run) := by
  have hentry := h.coherent.entry_of_unsettled unsettled
  obtain ⟨r, hr, _⟩ := unsettled
  have hmove := s.moved_step move
  generalize s.step move = s' at hmove
  cases hmove with
  | same => exact ⟨rfl, hentry⟩
  | called other => exact ⟨rfl, hentry⟩
  | entered place other inside call =>
    rcases s.loader.enter_cases other with ⟨hsame, _⟩ | ⟨definition, _, hfree, hbegin⟩
    · simp only [put, hsame]
      exact ⟨trivial, hentry⟩
    · -- A call that begins a run found no entry, so its bundle is another one.
      have hne : name ≠ other := by
        rintro rfl
        cases hentry.symm.trans hfree
      simp only [put, hbegin]
      exact ⟨(Loader.getElem?_of_begin _ hr).trans hr.symm,
        by rw [Dictionary.get?_insert, if_neg hne]; exact hentry⟩
  | polled place now other run' inside call =>
    have hne : run' ≠ run := by
      rintro rfl
      exact alone place other inside call
    simp only [put, Loader.entries_pollRun]
    refine ⟨?_, hentry⟩
    rcases s.loader.pollRun_cases now run' with hsame | ⟨q, _, _, hpoll⟩
    · rw [hsame]
    · rw [hpoll, List.getElem?_set_ne hne]
  | left place other run' call =>
    have hne : run' ≠ run := by
      rintro rfl
      exact alone place other true call
    -- The entry of the bundle is that of the abandoned run, so no other run can be settled there.
    have hother : name = other → s.loader.entries.get? other ≠ some (.loading run') := by
      rintro rfl hloading
      cases hloading.symm.trans hentry
      exact hne rfl
    simp only [put, Loader.runs_leave, Loader.entries_leave_of_ne hother]
    exact ⟨trivial, hentry⟩
  | dropped place load call => exact ⟨rfl, hentry⟩

end Orderly

/-- What it means that loads are single-flight, at one time and for all that may follow. -/
structure SingleFlight (s : LoadTraffic) : Prop where
  /-- At most one run of a bundle is not settled. -/
  one : ∀ name run other, s.loader.Unsettled name run → s.loader.Unsettled name other → run = other
  /-- A call that enters while a run is not settled starts none, and waits for this run until it is
  dropped or returns what the run came to. -/
  joins : ∀ name run place inside, s.loader.Unsettled name run →
    s.callAt place = some ⟨.requested name, inside⟩ →
    (s.step (.enter place)).loader = s.loader ∧
      ∀ moves, ((s.step (.enter place)).run moves).Bound place name run
  /-- A call that leaves after its run has ended returns what the run came to. -/
  returns : ∀ place name run result, s.callAt place = some ⟨.waiting name run, true⟩ →
    s.loader.result? run = some result →
    (s.step (.leave place)).callAt place = some ⟨.ended name result, false⟩
  /-- Once a run has succeeded nothing of its bundle is requested again. The bundle is loaded as soon as a
  call takes notice of the success, and no call can be about to for longer than it is being advanced. -/
  succeeded : ∀ (run : Nat) r, s.loader.runs[run]? = some r → r.status = .succeeded →
    (s.loader.isLoaded r.definition.name = true ∨ s.Noticed run) ∧
    (∀ place name, s.callAt place = some ⟨.waiting name run, true⟩ →
      (s.step (.leave place)).loader.isLoaded name = true) ∧
    ∀ moves, (s.run moves).loader.network.requestsFor r.definition.name =
      s.loader.network.requestsFor r.definition.name
  /-- What is loaded stays loaded. -/
  loaded : ∀ name, s.loader.isLoaded name = true →
    ∀ moves, (s.run moves).loader.isLoaded name = true
  /-- Dropping a call leaves the loader alone. -/
  drop : ∀ place, (s.step (.drop place)).loader = s.loader
  /-- A run that nobody waits for stays in the table as it is, until a call enters for its bundle. -/
  abandoned : ∀ name run, s.loader.Unsettled name run →
    (∀ place name' inside, s.callAt place ≠ some ⟨.waiting name' run, inside⟩) →
    ∀ move, (s.step move).loader.runs[run]? = s.loader.runs[run]? ∧
      (s.step move).loader.entries.get? name = some (.loading run)
  /-- A call that waits goes on with its run from where it stands, whoever advanced it before, and with no
  other. -/
  continued : ∀ place name run inside, s.callAt place = some ⟨.waiting name run, inside⟩ →
    ∃ r, s.loader.runs[run]? = some r ∧ r.definition.name = name ∧ ∀ now,
      (s.step (.poll place now)).callAt place = some ⟨.waiting name run, true⟩ ∧
      (s.step (.poll place now)).loader.runs = s.loader.runs.set run (r.poll run now s.loader.network).1 ∧
      (s.step (.poll place now)).loader.network = (r.poll run now s.loader.network).2
  /-- In its whole life a run requests each file of its bundle once at most. -/
  requests : ∀ (run : Nat) r file, s.loader.runs[run]? = some r →
    s.loader.network.requestsOf run file ≤ r.definition.files.count file

/-- At an orderly loader each bundle is loaded once. -/
theorem Orderly.singleFlight {s : LoadTraffic} (h : s.Orderly) : s.SingleFlight where
  one := fun _ _ _ first second => h.coherent.unsettled_unique first second
  joins := by
    intro name run place inside unsettled hcall
    have hentry := h.coherent.entry_of_unsettled unsettled
    have hplace := lt_of_callAt hcall
    have henter : s.loader.enter name = (.waiting name run, s.loader) := by
      simp only [Loader.enter, hentry]
    have hstep : s.step (.enter place) =
        s.put place (some ⟨.waiting name run, true⟩) s.loader := by
      rw [step_enter hcall, henter]
      rfl
    rw [hstep]
    refine ⟨rfl, bound_run ⟨by simpa [put] using hplace, .inr (.inl ⟨true, ?_⟩)⟩⟩
    exact callAt_put_self hplace _ _
  returns := by
    intro place name run result hcall hresult
    have hplace := lt_of_callAt hcall
    have hleave := s.loader.leave_of_result name hresult
    rw [step_leave hcall, hleave]
    exact callAt_put_self hplace _ _
  succeeded := by
    intro run r hr hsucceeded
    exact ⟨h.loaded_or_noticed hr hsucceeded,
      fun place name hcall => h.loaded_of_leave hcall hr hsucceeded,
      h.requestsFor_run hr hsucceeded⟩
  loaded := fun name hloaded moves => (s.grows_run moves).loaded name hloaded
  drop := by
    intro place
    unfold LoadTraffic.step
    dsimp only
    split <;> rfl
  abandoned := fun name run unsettled alone move => h.abandoned unsettled alone move
  continued := by
    intro place name run inside hcall
    obtain ⟨r, hr, hname⟩ := h.waiting place name run inside hcall
    refine ⟨r, hr, hname, fun now => ?_⟩
    rw [step_poll now hcall, s.loader.pollRun_of_some now hr]
    exact ⟨callAt_put_self (lt_of_callAt hcall) _ _, rfl, rfl⟩
  requests := by
    intro run r file hr
    rw [h.coherent.requests run r file hr, ← h.coherent.files run r hr, FileFetch.started,
      List.count, List.countP_map]
    exact List.countP_mono_left fun f _ hf => (Bool.and_eq_true_iff.mp hf).2

end LoadTraffic

end AdminConsole
