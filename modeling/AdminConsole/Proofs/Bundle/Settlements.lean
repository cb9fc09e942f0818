import AdminConsole.Proofs.Bundle.Answers
import AdminConsole.Proofs.Bundle.Openings

/-!
# Failed loads are forgotten once

A run that fails may have many calls that wait for it, and each of them takes notice of the failure in its own
time. The first one settles it: it emits the warning and removes the entry from the table. When the others come
to it, the table may hold a newer run of the same bundle, or the mark that the bundle is loaded, and they leave
that alone. What decides it is the number of the run: the table holds the newest run of a bundle or none, so the
entry that a late call finds is never its own.

The settlements of a run of moves list the failed runs in the order in which they were settled. Main statement:
the warnings are theirs, one for each, and every run that has failed is among them, unless a call is just about
to take notice.
-/

set_option autoImplicit false

namespace AdminConsole

namespace Loader

/-- The bundle of a run that has failed and the error with which it has. -/
def failure? (l : Loader) (run : Nat) : Option (String × BundleError) :=
  (l.runs[run]?).bind fun r =>
    match r.status with
    | .failed e => some (r.definition.name, e)
    | _ => none

/-- A run has a failure to warn of if it has ended with an error. -/
theorem failure?_eq_some_iff {l : Loader} {run : Nat} {name : String} {e : BundleError} :
    l.failure? run = some (name, e) ↔
      ∃ r, l.runs[run]? = some r ∧ r.definition.name = name ∧ r.status = .failed e := by
  unfold failure?
  rw [Option.bind_eq_some_iff]
  constructor
  · rintro ⟨r, hr, h⟩
    cases hstatus : r.status with
    | pending => simp [hstatus] at h
    | succeeded => simp [hstatus] at h
    | failed other =>
      simp only [hstatus, Option.some.injEq, Prod.mk.injEq] at h
      exact ⟨r, hr, h.1, by rw [hstatus, h.2]⟩
  · rintro ⟨r, hr, rfl, hstatus⟩
    exact ⟨r, hr, by simp [hstatus]⟩

/-- A failure to warn of stays the same while the loader grows. -/
theorem Grows.failure? {l l' : Loader} (grows : l.Grows l') {run : Nat}
    {failure : String × BundleError} (h : l.failure? run = some failure) :
    l'.failure? run = some failure := by
  obtain ⟨name, e⟩ := failure
  obtain ⟨r, hr, hname, hstatus⟩ := failure?_eq_some_iff.mp h
  obtain ⟨r', hr', _, hended⟩ := grows.runs run r hr
  have hsame : r' = r := hended (by rw [hstatus]; rfl)
  exact failure?_eq_some_iff.mpr ⟨r', hr', by rw [hsame, hname], by rw [hsame, hstatus]⟩

/-- A run that has a failure to warn of returns its error. -/
theorem result?_of_failure? {l : Loader} {run : Nat} {name : String} {e : BundleError}
    (h : l.failure? run = some (name, e)) : l.result? run = some (.error e) := by
  obtain ⟨r, hr, _, hstatus⟩ := failure?_eq_some_iff.mp h
  simp [result?, runStatus, hr, hstatus, Session.loadResult?]

/-! ## Which failures were settled -/

/-- How warnings, table and runs fit together when these failures were settled. -/
structure Settles (l : Loader) (settled : List Nat) : Prop where
  /-- The warnings are those of the settled runs, in the same order. -/
  warnings : settled.map l.failure? = l.failures.map some
  nodup : settled.Nodup
  /-- A run that has failed was settled, or stands in the table. -/
  failed : ∀ run name e, l.failure? run = some (name, e) →
    (run ∈ settled ↔ l.entries.get? name ≠ some (.loading run))
  /-- No run of a bundle is newer than the one in the table. -/
  newest : ∀ (name : String) (run newer : Nat) r, l.entries.get? name = some (.loading run) →
    l.runs[newer]? = some r → r.definition.name = name → newer ≤ run

/-- Nothing is settled at a loader that has loaded nothing. -/
theorem settles_start (registry : BundleRegistry) (debug : Bool) (plan : FetchPlan) :
    (start registry debug plan).Settles [] where
  warnings := by simp [start]
  nodup := List.nodup_nil
  failed := by simp [start, failure?]
  newest := by simp [start]

/-- What stands in the table as going on after a call has left stood there before. -/
theorem loading_of_leave {l : Loader} {name other : String} {run k : Nat}
    (h : (l.leave name run).2.entries.get? other = some (.loading k)) :
    l.entries.get? other = some (.loading k) := by
  by_cases hown : other = name ∧ l.entries.get? name = some (.loading run)
  · obtain ⟨rfl, hentry⟩ := hown
    unfold leave at h
    split at h
    · exact h
    · exact absurd rfl (loading_of_settle hentry h).1
    · exact absurd rfl (loading_of_settle hentry h).1
  · rw [entries_leave_of_ne fun e => fun hentry => hown ⟨e, hentry⟩] at h
    exact h

/-- A call that leaves takes no other run than its own out of the table. -/
theorem loading_leave_of_ne {l : Loader} {name other : String} {run k : Nat} (hne : k ≠ run)
    (h : l.entries.get? other = some (.loading k)) :
    (l.leave name run).2.entries.get? other = some (.loading k) := by
  have hkept : other = name → l.entries.get? name ≠ some (.loading run) := by
    rintro rfl hentry
    rw [h] at hentry
    cases hentry
    exact hne rfl
  rw [entries_leave_of_ne hkept]
  exact h

/-- What a call does to the table and the warnings that leaves a run which has failed. -/
theorem leave_of_failure {l : Loader} {name : String} {run : Nat} {e : BundleError}
    (h : l.failure? run = some (name, e)) :
    l.leave name run = (.ended name (.error e),
      if l.entries.get? name = some (.loading run) then
        { l with entries := l.entries.erase name, failures := l.failures ++ [(name, e)] }
      else l) := by
  obtain ⟨r, hr, _, hstatus⟩ := failure?_eq_some_iff.mp h
  simp [leave, runStatus, hr, hstatus, settle]

/-- A call that takes notice of its run adds no warning unless the run has failed. -/
theorem failures_leave_of_not_failed {l : Loader} {name : String} {run : Nat}
    (h : ∀ e, l.runStatus run ≠ .failed e) : (l.leave name run).2.failures = l.failures := by
  unfold leave
  split
  · rfl
  · unfold settle
    split <;> rfl
  · rename_i e hstatus
    exact absurd hstatus (h e)

/-- A run has failed if it has a failure to warn of. -/
theorem runStatus_eq_failed_iff {l : Loader} {run : Nat} {e : BundleError} :
    l.runStatus run = .failed e ↔ ∃ name, l.failure? run = some (name, e) := by
  unfold runStatus failure?
  cases l.runs[run]? with
  | none => simp
  | some r => cases hstatus : r.status <;> simp [hstatus]

/-- The failure that a call settles which leaves a run. -/
def settledBy (l : Loader) (name : String) (run : Nat) : Option Nat :=
  if (l.leave name run).2.failures = l.failures then none else some run

/-- A call settles the failure of its run exactly if that stands in the table. -/
theorem settledBy_of_failure {l : Loader} {name : String} {run : Nat} {e : BundleError}
    (h : l.failure? run = some (name, e)) :
    l.settledBy name run = if l.entries.get? name = some (.loading run) then some run else none := by
  rw [settledBy, leave_of_failure h]
  split <;> simp

namespace Settles

variable {l l' : Loader} {settled : List Nat} {Noticed : Nat → Prop}

/-- What settles nothing leaves the failures that were settled. -/
theorem quiet (h : l.Settles settled) {fresh : Option Nat} (none : fresh = .none) :
    l.Settles (settled ++ fresh.toList) := by
  rw [none, Option.toList_none, List.append_nil]
  exact h

/-- A run that was settled has failed. -/
theorem exists_failure (h : l.Settles settled) {run : Nat} (settles : run ∈ settled) :
    ∃ failure, l.failure? run = some failure := by
  have hmem : l.failure? run ∈ l.failures.map some := by
    rw [← h.warnings]
    exact List.mem_map_of_mem settles
  obtain ⟨failure, _, hfailure⟩ := List.mem_map.mp hmem
  exact ⟨failure, hfailure.symm⟩

/-- The warnings of a loader that came on without a warning are those of the same runs. -/
theorem warnings_of_grows (h : l.Settles settled) (grows : l.Grows l')
    (same : l'.failures = l.failures) : settled.map l'.failure? = l'.failures.map some := by
  rw [same, ← h.warnings]
  apply List.map_congr_left
  intro run hrun
  obtain ⟨failure, hfailure⟩ := h.exists_failure hrun
  rw [hfailure, grows.failure? hfailure]

/-- A run that has ended and is not the newest of its bundle does not stand in the table. -/
theorem not_loading (h : l.Settles settled) {name : String} {run newer : Nat} {r : BundleRun}
    (hlt : run < newer) (hr : l.runs[newer]? = some r) (hname : r.definition.name = name) :
    l.entries.get? name ≠ some (.loading run) := by
  intro hentry
  have hle := h.newest name run newer r hentry hr hname
  omega

/-- A call that enters settles nothing, and a run that it starts is the newest of its bundle. -/
theorem enter (h : l.Settles settled) (name : String) : (l.enter name).2.Settles settled := by
  have hgrows := l.grows_enter name
  rcases l.enter_cases name with ⟨hsame, _⟩ | ⟨definition, rfl, hfree, hbegin⟩
  · rw [hsame]
    exact h
  · rw [hbegin] at hgrows ⊢
    refine ⟨h.warnings_of_grows hgrows rfl, h.nodup, ?_, ?_⟩
    · intro run other e hfailure
      obtain ⟨r, hr, rfl, hstatus⟩ := failure?_eq_some_iff.mp hfailure
      rcases getElem?_begin hr with hr | ⟨rfl, rfl⟩
      · have hbefore := h.failed run r.definition.name e (failure?_eq_some_iff.mpr ⟨r, hr, rfl, hstatus⟩)
        have hlt := (List.getElem?_eq_some_iff.mp hr).1
        rw [Dictionary.get?_insert]
        by_cases hname : r.definition.name = definition.name
        · rw [if_pos hname]
          rw [hname, hfree] at hbefore
          have hne : l.runs.length ≠ run := by omega
          simpa [hne] using hbefore
        · rw [if_neg hname]
          exact hbefore
      · -- A run that begins has not failed.
        by_cases hfiles : definition.files = []
        · rw [BundleRun.status_begin_of_nil hfiles] at hstatus
          cases hstatus
        · have hpending := BundleRun.isPending_status_begin hfiles
          rw [hstatus] at hpending
          cases hpending
    · intro other run newer r hentry hr hname
      rw [Dictionary.get?_insert] at hentry
      split at hentry
      · cases hentry
        have hlt := (List.getElem?_eq_some_iff.mp hr).1
        simp only [List.length_append, List.length_singleton] at hlt
        omega
      · rename_i hne
        rcases getElem?_begin hr with hr | ⟨_, rfl⟩
        · exact h.newest other run newer r hentry hr hname
        · exact absurd hname.symm hne

/-- Polling a run settles nothing: one that fails still stands in the table. -/
theorem pollRun (h : l.Settles settled) (coherent : l.Coherent Noticed) (now polled : Nat) :
    (l.pollRun now polled).Settles settled := by
  have hgrows := l.grows_pollRun now polled
  rcases l.pollRun_cases now polled with hsame | ⟨q, hq, hpending, hpoll⟩
  · rw [hsame]
    exact h
  · have hdefinition := BundleRun.definition_poll polled now q l.network
    have hentry := coherent.pending polled q hq hpending
    rw [hpoll] at hgrows ⊢
    generalize (q.poll polled now l.network).1 = after at hgrows hdefinition ⊢
    refine ⟨h.warnings_of_grows hgrows rfl, h.nodup, ?_, ?_⟩
    · intro run name e hfailure
      obtain ⟨r, hr, rfl, hstatus⟩ := failure?_eq_some_iff.mp hfailure
      rcases getElem?_set hr with ⟨rfl, rfl⟩ | ⟨_, hr⟩
      · -- The run went on until now, so it stands in the table and was not settled.
        have hfresh : run ∉ settled := by
          intro hmem
          obtain ⟨⟨name, e⟩, hbefore⟩ := h.exists_failure hmem
          obtain ⟨r, hr, _, hfailed⟩ := failure?_eq_some_iff.mp hbefore
          obtain rfl : r = q := Option.some.inj (hr.symm.trans hq)
          rw [hfailed] at hpending
          cases hpending
        rw [hdefinition]
        simp [hfresh, hentry]
      · exact h.failed run _ e (failure?_eq_some_iff.mpr ⟨r, hr, rfl, hstatus⟩)
    · intro name run newer r hloading hr hname
      rcases getElem?_set hr with ⟨rfl, rfl⟩ | ⟨_, hr⟩
      · rw [hdefinition] at hname
        exact h.newest name run newer q hloading hq hname
      · exact h.newest name run newer r hloading hr hname

/-- The run in the table stays the newest of its bundle when a call has taken notice of its run. -/
theorem newest_leave (h : l.Settles settled) (name : String) (run : Nat) :
    ∀ (other : String) (k newer : Nat) q, (l.leave name run).2.entries.get? other = some (.loading k) →
      (l.leave name run).2.runs[newer]? = some q → q.definition.name = other → newer ≤ k := by
  intro other k newer q hentry hq hother
  rw [l.runs_leave name run] at hq
  exact h.newest other k newer q (loading_of_leave hentry) hq hother

/-- The other runs stand in the table as they did before. -/
theorem failed_leave_of_ne (h : l.Settles settled) {name other : String} {run k : Nat} {e : BundleError}
    (hne : k ≠ run) (hk : l.failure? k = some (other, e)) :
    k ∈ settled ↔ (l.leave name run).2.entries.get? other ≠ some (.loading k) := by
  rw [h.failed k other e hk]
  exact not_congr ⟨loading_leave_of_ne hne, loading_of_leave⟩

/-- The first call that leaves a failed run settles it. -/
theorem leave_of_loading (h : l.Settles settled) {name : String} {run : Nat} {e : BundleError}
    (hfailure : l.failure? run = some (name, e)) (hentry : l.entries.get? name = some (.loading run)) :
    (l.leave name run).2.Settles (settled ++ [run]) := by
  have hleave := leave_of_failure hfailure
  rw [if_pos hentry] at hleave
  have hsame : ∀ k, (l.leave name run).2.failure? k = l.failure? k := by
    intro k
    rw [failure?, failure?, l.runs_leave name run]
  have hfresh : run ∉ settled := fun hmem => (h.failed run name e hfailure).mp hmem hentry
  refine ⟨?_, ?_, ?_, h.newest_leave name run⟩
  · have hmap : settled.map (l.leave name run).2.failure? = settled.map l.failure? :=
      List.map_congr_left fun k _ => hsame k
    rw [List.map_append, hmap, h.warnings, List.map_singleton, hsame, hfailure, hleave]
    simp
  · rw [List.nodup_append]
    refine ⟨h.nodup, by simp, ?_⟩
    rintro a ha b hb rfl
    exact hfresh (List.mem_singleton.mp hb ▸ ha)
  · intro k other e' hk
    rw [hsame] at hk
    by_cases hown : k = run
    · subst hown
      obtain ⟨rfl, rfl⟩ := Prod.mk.inj (Option.some.inj (hfailure.symm.trans hk))
      simp [hleave]
    · simp only [List.mem_append, List.mem_singleton, hown, or_false]
      exact h.failed_leave_of_ne hown hk

/-- A call that leaves a run which has not failed settles nothing. -/
theorem leave_of_not_failed (h : l.Settles settled) {name : String} {run : Nat}
    (hgoing : ∀ e, l.runStatus run ≠ .failed e) : (l.leave name run).2.Settles settled := by
  refine ⟨h.warnings_of_grows (l.grows_leave name run) (failures_leave_of_not_failed hgoing), h.nodup, ?_,
    h.newest_leave name run⟩
  intro k other e hk
  rw [failure?, l.runs_leave name run] at hk
  refine h.failed_leave_of_ne ?_ hk
  rintro rfl
  exact hgoing e (runStatus_eq_failed_iff.mpr ⟨other, hk⟩)

/-- **A call that leaves settles the failure of its run, if that was not done before.** -/
theorem leave (h : l.Settles settled) {name : String} {run : Nat} {r : BundleRun}
    (hr : l.runs[run]? = some r) (hname : r.definition.name = name) :
    (l.leave name run).2.Settles (settled ++ (l.settledBy name run).toList) := by
  by_cases hfailed : ∃ e, r.status = .failed e
  · obtain ⟨e, hstatus⟩ := hfailed
    have hfailure := failure?_eq_some_iff.mpr ⟨r, hr, hname, hstatus⟩
    rw [settledBy_of_failure hfailure]
    split
    · rename_i hentry
      exact h.leave_of_loading hfailure hentry
    · -- Another call has settled it, and a newer run may stand in the table.
      rename_i hentry
      rw [leave_of_failure hfailure, if_neg hentry, Option.toList_none, List.append_nil]
      exact h
  · have hgoing : ∀ e, l.runStatus run ≠ .failed e := by
      intro e hstatus
      simp only [runStatus, hr] at hstatus
      exact hfailed ⟨e, hstatus⟩
    rw [settledBy, if_pos (failures_leave_of_not_failed hgoing), Option.toList_none, List.append_nil]
    exact h.leave_of_not_failed hgoing

end Settles

end Loader

end AdminConsole
