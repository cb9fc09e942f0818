import AdminConsole.Proofs.Bundle.Growth
import AdminConsole.Proofs.Bundle.Outcomes

/-!
# What a loaded bundle has received

A file reaches the state in which it is fetched together with one entry of the history, and never leaves it. So
the entries of a run count its fetched files, and a run that has succeeded has fetched all files of its bundle.
Main statement: a bundle that is marked as loaded has a run that fetched each of its files as often as its
definition lists it. The mark is set by a call that leaves such a run and by nothing else, which is what the
statements on the three moments of a call show.
-/

set_option autoImplicit false

namespace AdminConsole

namespace FileFetch

/-- Of files that were all fetched to the end, each is counted as often as it is listed. -/
theorem delivered_of_forall {files : List FileFetch} (h : ∀ f ∈ files, f.isFetched = true)
    (file : String) : delivered files file = (files.map (·.file)).count file := by
  rw [delivered, List.count, List.countP_map]
  apply List.countP_congr
  intro f hf
  simp [h f hf]

/-- Where a file is counted as often as it is listed, it was fetched to the end each time. -/
theorem isFetched_of_delivered {files : List FileFetch} {file : String}
    (h : delivered files file = (files.map (·.file)).count file) {f : FileFetch} (hf : f ∈ files)
    (hfile : f.file = file) : f.isFetched = true := by
  have hlength : (files.filter fun f => f.file == file).countP isFetched =
      (files.filter fun f => f.file == file).length := by
    rw [List.countP_filter, ← List.countP_eq_length_filter]
    rw [delivered, List.count, List.countP_map] at h
    exact h
  exact List.countP_eq_length.mp hlength f (List.mem_filter.mpr ⟨hf, by simp [hfile]⟩)

end FileFetch

namespace BundleRun

/-- **A run that has succeeded** has fetched all its files to the end. -/
theorem isFetched_of_succeeded {r : BundleRun} (h : r.status = .succeeded) {f : FileFetch}
    (hf : f ∈ r.files) : f.isFetched = true := by
  have hstatus : fileStatus r.definition.name f = .succeeded :=
    (Join.outcome_eq_succeeded_iff _ _).mp h f hf
  unfold fileStatus FileFetch.status at hstatus
  cases hstate : f.state with
  | fetched => simp [FileFetch.isFetched, hstate]
  | waiting => simp [hstate] at hstatus
  | running first due failure => simp [hstate] at hstatus
  | failed reason => simp [hstate] at hstatus

end BundleRun

namespace Loader

/-! ## What stays -/

/-- A call that enters registers nothing. -/
@[simp] theorem registry_enter (l : Loader) (name : String) :
    (l.enter name).2.registry = l.registry := by
  rcases l.enter_cases name with ⟨hsame, _⟩ | ⟨definition, _, _, hbegin⟩
  · rw [hsame]
  · rw [hbegin]

/-- Polling a run registers nothing. -/
@[simp] theorem registry_pollRun (l : Loader) (now run : Nat) :
    (l.pollRun now run).registry = l.registry := by
  rcases l.pollRun_cases now run with hsame | ⟨r, _, _, hpoll⟩
  · rw [hsame]
  · rw [hpoll]

/-- A call that takes notice of its run registers nothing. -/
@[simp] theorem registry_leave (l : Loader) (name : String) (run : Nat) :
    (l.leave name run).2.registry = l.registry := by
  have hsettle : ∀ result, (l.settle name run result).registry = l.registry := by
    intro result
    unfold settle
    split
    · cases result <;> rfl
    · rfl
  unfold leave
  split
  · rfl
  · exact hsettle (.ok ())
  · exact hsettle _

/-- A run that a call starts is one of the bundle that is registered under the name that was called for. -/
theorem get?_of_begin {l : Loader} {name : String} {definition : BundleDefinition}
    (hfree : l.entries.get? name = none)
    (h : (l.enter name).2.runs = l.runs ++ [BundleRun.begin definition]) :
    l.registry.get? name = some definition := by
  unfold enter at h
  rw [hfree] at h
  cases hregistered : l.registry.get? name with
  | none =>
    rw [hregistered] at h
    have hlength := congrArg List.length h
    simp at hlength
  | some other =>
    rw [hregistered] at h
    have hrun := List.append_cancel_left h
    have hsame : other = definition := congrArg BundleRun.definition (List.cons.inj hrun).1
    rw [hsame]

/-! ## What the history says of the runs -/

/-- How runs, history and marks fit together. -/
structure Accounted (l : Loader) : Prop where
  /-- A run is one of a registered bundle. -/
  registered : ∀ (run : Nat) r, l.runs[run]? = some r →
    l.registry.get? r.definition.name = some r.definition
  /-- The history counts the files that a run has fetched to the end. -/
  deliveries : ∀ (run : Nat) r file, l.runs[run]? = some r →
    l.network.deliveriesOf ⟨run, r.definition.name⟩ file = FileFetch.delivered r.files file
  /-- A bundle that is marked as loaded has a run that succeeded. -/
  loaded : ∀ name, l.isLoaded name = true →
    ∃ (run : Nat) (r : BundleRun), l.runs[run]? = some r ∧ r.definition.name = name ∧
      r.status = .succeeded

/-- A loader that has loaded nothing has accounted for everything. -/
theorem accounted_start (registry : BundleRegistry) (debug : Bool) (plan : FetchPlan) :
    (start registry debug plan).Accounted where
  registered := by simp [start]
  deliveries := by simp [start]
  loaded := by simp [start, isLoaded]

namespace Accounted

variable {l : Loader} {Noticed : Nat → Prop}

/-- A call that enters leaves the accounts as they should be: a run that it starts has fetched nothing. -/
theorem enter (h : l.Accounted) (coherent : l.Coherent Noticed) (name : String) :
    (l.enter name).2.Accounted := by
  rcases l.enter_cases name with ⟨hsame, _⟩ | ⟨definition, rfl, hfree, hbegin⟩
  · rw [hsame]
    exact h
  · have hregistered := get?_of_begin hfree (by rw [hbegin])
    rw [hbegin]
    refine ⟨?_, ?_, ?_⟩
    · intro run r hr
      rcases getElem?_begin hr with hr | ⟨rfl, rfl⟩
      · exact h.registered run r hr
      · exact hregistered
    · intro run r file hr
      rcases getElem?_begin hr with hr | ⟨rfl, rfl⟩
      · exact h.deliveries run r file hr
      · have hnone : FileFetch.delivered (BundleRun.begin definition).files file = 0 := by
          rw [FileFetch.delivered, List.countP_eq_zero]
          intro f hf
          obtain ⟨first, _, rfl⟩ := List.mem_map.mp hf
          simp [FileFetch.isFetched]
        rw [hnone, Network.deliveriesOf, List.countP_eq_zero]
        intro event hevent
        have hlt := coherent.owned event hevent
        have hne : (event.run == l.runs.length) = false := by
          rw [beq_eq_false_iff_ne]
          omega
        simp [hne]
    · intro other hother
      have hloaded : l.isLoaded other = true := by
        rw [isLoaded_iff] at hother ⊢
        rw [Dictionary.get?_insert] at hother
        split at hother
        · cases hother
        · exact hother
      obtain ⟨run, r, hr, hname, hsucceeded⟩ := h.loaded other hloaded
      exact ⟨run, r, getElem?_of_begin _ hr, hname, hsucceeded⟩

/-- Polling a run records every file that it fetches to the end. -/
theorem pollRun (h : l.Accounted) (now run : Nat) : (l.pollRun now run).Accounted := by
  rcases l.pollRun_cases now run with hsame | ⟨r, hr, hpending, hpoll⟩
  · rw [hsame]
    exact h
  · have hdefinition := BundleRun.definition_poll run now r l.network
    have hadvanced := BundleRun.advanced_poll run now r l.network
    rw [hpoll]
    generalize (r.poll run now l.network).1 = polled at hdefinition hadvanced ⊢
    generalize (r.poll run now l.network).2 = network at hadvanced ⊢
    refine ⟨?_, ?_, ?_⟩
    · intro other q hq
      rcases getElem?_set hq with ⟨rfl, rfl⟩ | ⟨_, hq⟩
      · rw [hdefinition]
        exact h.registered other r hr
      · exact h.registered other q hq
    · intro other q file hq
      rcases getElem?_set hq with ⟨rfl, rfl⟩ | ⟨hne, hq⟩
      · have hbefore := h.deliveries other r file hr
        have hcount := hadvanced.deliveries file
        rw [hdefinition]
        dsimp only
        omega
      · -- The new events are those of another run.
        rw [← h.deliveries other q file hq]
        exact hadvanced.countP_of_others fun event hrun _ => by simp [hrun, hne.symm]
    · intro name hname
      obtain ⟨other, q, hq, hbundle, hsucceeded⟩ := h.loaded name hname
      have hne : run ≠ other := by
        rintro rfl
        obtain rfl : r = q := Option.some.inj (hr.symm.trans hq)
        rw [hsucceeded] at hpending
        cases hpending
      exact ⟨other, q, by rw [List.getElem?_set_ne hne]; exact hq, hbundle, hsucceeded⟩

/-- A bundle that is loaded when a call has taken notice of its run was so before, or the run was its and has
succeeded. -/
theorem isLoaded_of_leave {name other : String} {run : Nat} {r : BundleRun}
    (hr : l.runs[run]? = some r) (h : (l.leave name run).2.isLoaded other = true) :
    l.isLoaded other = true ∨ other = name ∧ r.status = .succeeded := by
  rw [isLoaded_iff] at h ⊢
  by_cases hentry : l.entries.get? name = some (.loading run)
  · rcases l.leave_cases name hr with ⟨_, hleave⟩ | ⟨hstatus, hleave⟩ | ⟨e, _, hleave⟩
    · rw [hleave] at h
      exact .inl h
    · by_cases hname : other = name
      · exact .inr ⟨hname, hstatus⟩
      · rw [entries_leave_of_ne fun e => absurd e hname] at h
        exact .inl h
    · rw [hleave, get?_settle hentry] at h
      split at h
      · cases h
      · exact .inl h
  · rw [entries_leave_of_ne fun _ => hentry] at h
    exact .inl h

/-- A call that takes notice of its run marks the bundle as loaded only if the run has succeeded. -/
theorem leave (h : l.Accounted) {name : String} {run : Nat} {r : BundleRun}
    (hr : l.runs[run]? = some r) (hname : r.definition.name = name) :
    (l.leave name run).2.Accounted where
  registered := by
    rw [runs_leave, registry_leave]
    exact h.registered
  deliveries := by
    rw [runs_leave, network_leave]
    exact h.deliveries
  loaded := by
    intro other hother
    rw [runs_leave]
    rcases isLoaded_of_leave hr hother with hother | ⟨rfl, hsucceeded⟩
    · exact h.loaded other hother
    · exact ⟨run, r, hr, hname, hsucceeded⟩

end Accounted

/-! ## What it means that a bundle was fetched -/

/-- Whether one single run of a bundle has fetched all its files to the end. -/
def FetchedWhole (l : Loader) (name : String) : Prop :=
  ∃ definition run, l.registry.get? name = some definition ∧
    (∃ r, l.runs[run]? = some r ∧ r.definition = definition) ∧
    ∀ file, l.network.deliveriesOf ⟨run, name⟩ file = definition.files.count file

/-- **A bundle that is marked as loaded** was fetched as a whole by one of its runs. -/
theorem Accounted.fetchedWhole {l : Loader} {Noticed : Nat → Prop} (h : l.Accounted)
    (coherent : l.Coherent Noticed) {name : String} (loaded : l.isLoaded name = true) :
    l.FetchedWhole name := by
  obtain ⟨run, r, hr, rfl, hsucceeded⟩ := h.loaded name loaded
  refine ⟨r.definition, run, h.registered run r hr, ⟨r, hr, rfl⟩, ?_⟩
  intro file
  have hfetched : ∀ f ∈ r.files, f.isFetched = true := fun f hf =>
    BundleRun.isFetched_of_succeeded hsucceeded hf
  rw [h.deliveries run r file hr, FileFetch.delivered_of_forall hfetched, coherent.files run r hr]

end Loader

end AdminConsole
