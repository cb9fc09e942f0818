import AdminConsole.Bundle.Loader
import AdminConsole.Proofs.Bundle.Requests
import AdminConsole.Proofs.Dictionary.Lookup

/-!
# What the loader knows of its runs

The table of a loader, its list of runs and the history of the network fit together at any time: a run that
is going on stands in the table under the name of its bundle, and a run that stands there although it has
ended has a call that is about to take notice. This is what keeps a second run of a bundle from being started.
The statements here say it for each of the three moments of a call: it enters, polls its run, and leaves.
-/

set_option autoImplicit false

namespace AdminConsole

namespace Loader

/-- How table, runs and history fit together. `Noticed run` says that some call of this run is about to take
notice of what it came to. -/
structure Coherent (l : Loader) (Noticed : Nat → Prop) : Prop where
  /-- A run in the table is one of the bundle under whose name it stands. -/
  loading : ∀ name run, l.entries.get? name = some (.loading run) →
    ∃ r, l.runs[run]? = some r ∧ r.definition.name = name
  /-- A run that is going on stands in the table. -/
  pending : ∀ (run : Nat) r, l.runs[run]? = some r → r.status.isPending = true →
    l.entries.get? r.definition.name = some (.loading run)
  /-- A run that has ended and stands in the table is about to be settled. -/
  noticed : ∀ (name : String) (run : Nat) r, l.entries.get? name = some (.loading run) →
    l.runs[run]? = some r → r.status.isPending = false → Noticed run
  /-- A bundle of which a run succeeded is loaded, or that run is about to be settled. -/
  succeeded : ∀ (run : Nat) r, l.runs[run]? = some r → r.status = .succeeded →
    l.entries.get? r.definition.name = some .loaded ∨
      l.entries.get? r.definition.name = some (.loading run)
  /-- A run fetches the files of its bundle. -/
  files : ∀ (run : Nat) r, l.runs[run]? = some r → r.files.map (·.file) = r.definition.files
  /-- The files that a run has requested are those that do not wait. -/
  requests : ∀ (run : Nat) r file, l.runs[run]? = some r →
    l.network.requestsOf run file = FileFetch.started r.files file
  /-- Only the runs of the list have requested anything. -/
  owned : ∀ event ∈ l.network.events, event.run < l.runs.length

/-- A loader that has loaded nothing is coherent. -/
theorem coherent_start (registry : BundleRegistry) (debug : Bool) (plan : FetchPlan)
    (Noticed : Nat → Prop) : (start registry debug plan).Coherent Noticed where
  loading := by simp [start]
  pending := by simp [start]
  noticed := by simp [start]
  succeeded := by simp [start]
  files := by simp [start]
  requests := by simp [start]
  owned := by simp [start, Network.quiet]

namespace Coherent

variable {l : Loader} {Noticed Noticed' : Nat → Prop}

/-- A coherent loader stays so when more runs are about to be settled. -/
theorem mono (h : l.Coherent Noticed) (more : ∀ run, Noticed run → Noticed' run) :
    l.Coherent Noticed' :=
  { h with noticed := fun name run r hentry hr hended => more run (h.noticed name run r hentry hr hended) }

end Coherent

/-! ## Entering -/

/-- A new run is the last one of the list. -/
theorem getElem?_begin {runs : List BundleRun} {first r : BundleRun} {run : Nat}
    (h : (runs ++ [first])[run]? = some r) :
    runs[run]? = some r ∨ run = runs.length ∧ r = first := by
  rw [List.getElem?_append] at h
  split at h
  · exact .inl h
  · rename_i hlt
    rw [List.getElem?_singleton] at h
    split at h
    · exact .inr ⟨by omega, (Option.some.inj h).symm⟩
    · cases h

/-- A run that begins leaves the earlier ones at their places. -/
theorem getElem?_of_begin {runs : List BundleRun} (first : BundleRun) {r : BundleRun} {run : Nat}
    (h : runs[run]? = some r) : (runs ++ [first])[run]? = some r := by
  rw [List.getElem?_append_left (List.getElem?_eq_some_iff.mp h).1]
  exact h

/-- The registered definition of a name has this name. -/
theorem name_of_get? {registry : BundleRegistry} {name : String} {definition : BundleDefinition}
    (h : registry.get? name = some definition) : definition.name = name := by
  have hfound := List.find?_some h
  simpa using hfound

/-- What a call does that enters: nothing but to wait for a run that is there, or to begin one. -/
theorem enter_cases (l : Loader) (name : String) :
    ((l.enter name).2 = l ∧ ((∃ result, (l.enter name).1 = .ended name result) ∨
      ∃ run, (l.enter name).1 = .waiting name run ∧
        l.entries.get? name = some (.loading run))) ∨
    ∃ definition, definition.name = name ∧ l.entries.get? name = none ∧
      l.enter name = (.waiting name l.runs.length, { l with
        entries := l.entries.insert name (.loading l.runs.length)
        runs := l.runs ++ [BundleRun.begin definition] }) := by
  cases hentry : l.entries.get? name with
  | some entry =>
    cases entry with
    | loaded => exact .inl ⟨by simp [enter, hentry], .inl ⟨.ok (), by simp [enter, hentry]⟩⟩
    | loading run => exact .inl ⟨by simp [enter, hentry], .inr ⟨run, by simp [enter, hentry], rfl⟩⟩
  | none =>
    cases hdefinition : l.registry.get? name with
    | none =>
      exact .inl ⟨by simp [enter, hentry, hdefinition],
        .inl ⟨.error (.unknown name), by simp [enter, hentry, hdefinition]⟩⟩
    | some definition =>
      exact .inr ⟨definition, name_of_get? hdefinition, rfl, by simp [enter, hentry, hdefinition]⟩

/-- Nothing of a run was requested when it begins. -/
theorem started_begin (definition : BundleDefinition) (file : String) :
    FileFetch.started (BundleRun.begin definition).files file = 0 := by
  rw [FileFetch.started, List.countP_eq_zero]
  intro f hf
  obtain ⟨name, _, rfl⟩ := List.mem_map.mp hf
  simp [FileFetch.isStarted]

namespace Coherent

variable {l : Loader} {Noticed Noticed' : Nat → Prop}

/-- Where nothing of a bundle is in the table, a run of it may begin. The call that begins it is about to
take notice: the run of an empty bundle has succeeded at once. -/
theorem insert_begin (h : l.Coherent Noticed) {definition : BundleDefinition}
    (free : l.entries.get? definition.name = none) (noticed : Noticed l.runs.length) :
    ({ l with
      entries := l.entries.insert definition.name (.loading l.runs.length)
      runs := l.runs ++ [BundleRun.begin definition] } : Loader).Coherent Noticed where
  loading := by
    intro name run hentry
    rw [Dictionary.get?_insert] at hentry
    split at hentry
    · rename_i hname
      cases hentry
      exact ⟨BundleRun.begin definition, by simp, hname.symm⟩
    · obtain ⟨r, hr, hname⟩ := h.loading name run hentry
      exact ⟨r, getElem?_of_begin _ hr, hname⟩
  pending := by
    intro run r hr hpending
    rw [Dictionary.get?_insert]
    rcases getElem?_begin hr with hr | ⟨rfl, rfl⟩
    · have hentry := h.pending run r hr hpending
      -- The bundle had no entry, so no run of it was going on.
      have hne : r.definition.name ≠ definition.name := by
        intro e
        rw [e, free] at hentry
        cases hentry
      rw [if_neg hne]
      exact hentry
    · exact if_pos rfl
  noticed := by
    intro name run r hentry hr hended
    rcases getElem?_begin hr with hr | ⟨rfl, rfl⟩
    · rw [Dictionary.get?_insert] at hentry
      split at hentry
      · cases hentry
        exact noticed
      · exact h.noticed name run r hentry hr hended
    · exact noticed
  succeeded := by
    intro run r hr hsucceeded
    rw [Dictionary.get?_insert]
    rcases getElem?_begin hr with hr | ⟨rfl, rfl⟩
    · have hentry := h.succeeded run r hr hsucceeded
      have hne : r.definition.name ≠ definition.name := by
        intro e
        rw [e, free] at hentry
        rcases hentry with hentry | hentry <;> cases hentry
      rw [if_neg hne]
      exact hentry
    · exact .inr (if_pos rfl)
  files := by
    intro run r hr
    rcases getElem?_begin hr with hr | ⟨rfl, rfl⟩
    · exact h.files run r hr
    · simp [BundleRun.begin, Function.comp_def]
  requests := by
    intro run r file hr
    rcases getElem?_begin hr with hr | ⟨rfl, rfl⟩
    · exact h.requests run r file hr
    · -- The history knows nothing of a run with the next number.
      rw [started_begin, Network.requestsOf, List.countP_eq_zero]
      intro event hevent
      have hlt := h.owned event hevent
      have hne : (event.run == l.runs.length) = false := by
        rw [beq_eq_false_iff_ne]
        omega
      simp [hne]
  owned := by
    intro event hevent
    have hlt := h.owned event hevent
    rw [List.length_append]
    omega

/-- **Entering keeps the loader coherent**, if the call that enters is about to take notice of a run that it
begins. -/
theorem enter (h : l.Coherent Noticed) (name : String)
    (more : ∀ run, Noticed run → Noticed' run)
    (noticed : ∀ run, (l.enter name).1 = .waiting name run → Noticed' run) :
    (l.enter name).2.Coherent Noticed' := by
  rcases l.enter_cases name with ⟨hsame, _⟩ | ⟨definition, rfl, hfree, hbegin⟩
  · rw [hsame]
    exact h.mono more
  · have hnoticed := noticed l.runs.length (by rw [hbegin])
    rw [hbegin]
    exact (h.mono more).insert_begin hfree hnoticed

end Coherent

/-! ## Polling -/

/-- What polling a run of the list does. -/
theorem pollRun_of_some (l : Loader) (now : Nat) {run : Nat} {r : BundleRun} (hr : l.runs[run]? = some r) :
    l.pollRun now run = { l with
      runs := l.runs.set run (r.poll run now l.network).1
      network := (r.poll run now l.network).2 } := by
  simp only [pollRun, hr]

/-- What polling a run does: nothing unless it is going on. -/
theorem pollRun_cases (l : Loader) (now run : Nat) :
    l.pollRun now run = l ∨ ∃ r, l.runs[run]? = some r ∧ r.status.isPending = true ∧
      l.pollRun now run = { l with
        runs := l.runs.set run (r.poll run now l.network).1
        network := (r.poll run now l.network).2 } := by
  cases hr : l.runs[run]? with
  | none => exact .inl (by simp only [pollRun, hr])
  | some r =>
    rw [l.pollRun_of_some now hr]
    cases hpending : r.status.isPending with
    | true => exact .inr ⟨r, rfl, hpending, rfl⟩
    | false =>
      left
      obtain ⟨hlt, rfl⟩ := List.getElem?_eq_some_iff.mp hr
      simp only [BundleRun.poll_of_ended run now l.network hpending, List.set_getElem_self]

/-- Polling a run does not touch the table. -/
theorem entries_pollRun (l : Loader) (now run : Nat) :
    (l.pollRun now run).entries = l.entries := by
  rcases l.pollRun_cases now run with hsame | ⟨r, _, _, hpoll⟩
  · rw [hsame]
  · rw [hpoll]

/-- A run after one of the runs was polled. -/
theorem getElem?_set {runs : List BundleRun} {polled r : BundleRun} {run other : Nat}
    (h : (runs.set run polled)[other]? = some r) :
    other = run ∧ r = polled ∨ other ≠ run ∧ runs[other]? = some r := by
  rw [List.getElem?_set] at h
  split at h
  · rename_i heq
    split at h
    · exact .inl ⟨heq.symm, (Option.some.inj h).symm⟩
    · cases h
  · rename_i hne
    exact .inr ⟨fun e => hne e.symm, h⟩

namespace Coherent

variable {l : Loader} {Noticed Noticed' : Nat → Prop}

/-- **Polling keeps the loader coherent**, if the call that polls a run is about to take notice of it. -/
theorem pollRun (h : l.Coherent Noticed) (now run : Nat)
    (more : ∀ other, Noticed other → Noticed' other) (noticed : Noticed' run) :
    (l.pollRun now run).Coherent Noticed' := by
  rcases l.pollRun_cases now run with hsame | ⟨r, hr, hpending, hpoll⟩
  · rw [hsame]
    exact h.mono more
  · have hdefinition := BundleRun.definition_poll run now r l.network
    have hadvanced := BundleRun.advanced_poll run now r l.network
    have hentry := h.pending run r hr hpending
    have hthere : (l.runs.set run (r.poll run now l.network).1)[run]? =
        some (r.poll run now l.network).1 := by
      rw [List.getElem?_set_self (List.getElem?_eq_some_iff.mp hr).1]
    rw [hpoll]
    generalize (r.poll run now l.network).1 = polled at hdefinition hadvanced hthere ⊢
    generalize (r.poll run now l.network).2 = network at hadvanced ⊢
    obtain ⟨fresh, hevents, howner⟩ := hadvanced.events
    constructor
    case loading =>
      intro name other hother
      obtain ⟨q, hq, hname⟩ := h.loading name other hother
      by_cases hrun : other = run
      · subst hrun
        obtain rfl : r = q := Option.some.inj (hr.symm.trans hq)
        exact ⟨polled, hthere, by rw [hdefinition, hname]⟩
      · exact ⟨q, by rw [List.getElem?_set_ne fun e => hrun e.symm]; exact hq, hname⟩
    case pending =>
      intro other q hq hgoing
      rcases getElem?_set hq with ⟨rfl, rfl⟩ | ⟨_, hq⟩
      · rw [hdefinition]
        exact hentry
      · exact h.pending other q hq hgoing
    case noticed =>
      intro name other q hother hq hended
      rcases getElem?_set hq with ⟨rfl, rfl⟩ | ⟨_, hq⟩
      · exact noticed
      · exact more other (h.noticed name other q hother hq hended)
    case succeeded =>
      intro other q hq hsucceeded
      rcases getElem?_set hq with ⟨rfl, rfl⟩ | ⟨_, hq⟩
      · rw [hdefinition]
        exact .inr hentry
      · exact h.succeeded other q hq hsucceeded
    case files =>
      intro other q hq
      rcases getElem?_set hq with ⟨rfl, rfl⟩ | ⟨_, hq⟩
      · rw [hadvanced.names, hdefinition]
        exact h.files other r hr
      · exact h.files other q hq
    case requests =>
      intro other q file hq
      rcases getElem?_set hq with ⟨rfl, rfl⟩ | ⟨hne, hq⟩
      · have hbefore := h.requests other r file hr
        have hcount := hadvanced.requests file
        dsimp only at hcount ⊢
        omega
      · -- The new events are those of another run.
        rw [← h.requests other q file hq]
        exact hadvanced.countP_of_others fun event hrun _ => by simp [hrun, hne.symm]
    case owned =>
      intro event hevent
      rw [List.length_set]
      rw [hevents] at hevent
      rcases List.mem_append.mp hevent with hevent | hevent
      · exact h.owned event hevent
      · rw [(howner event hevent).1]
        exact (List.getElem?_eq_some_iff.mp hr).1

end Coherent

/-! ## Leaving -/

/-- What a call does that leaves: it waits on if its run is going on, and otherwise settles the run if it
still stands in the table. -/
theorem leave_cases (l : Loader) (name : String) {run : Nat} {r : BundleRun}
    (hr : l.runs[run]? = some r) :
    (r.status = .pending ∧ l.leave name run = (.waiting name run, l)) ∨
    (r.status = .succeeded ∧ l.leave name run =
      (.ended name (.ok ()), l.settle name run (.ok ()))) ∨
    ∃ e, r.status = .failed e ∧ l.leave name run =
      (.ended name (.error e), l.settle name run (.error e)) := by
  cases hstatus : r.status with
  | pending => exact .inl ⟨rfl, by simp [leave, runStatus, hr, hstatus]⟩
  | succeeded => exact .inr (.inl ⟨rfl, by simp [leave, runStatus, hr, hstatus]⟩)
  | failed e => exact .inr (.inr ⟨e, rfl, by simp [leave, runStatus, hr, hstatus]⟩)

/-- Settling a run does not touch the runs. -/
@[simp] theorem runs_settle (l : Loader) (name : String) (run : Nat)
    (result : Except BundleError Unit) : (l.settle name run result).runs = l.runs := by
  unfold settle
  split
  · cases result <;> rfl
  · rfl

/-- Settling a run fetches nothing. -/
@[simp] theorem network_settle (l : Loader) (name : String) (run : Nat)
    (result : Except BundleError Unit) : (l.settle name run result).network = l.network := by
  unfold settle
  split
  · cases result <;> rfl
  · rfl

/-- What stands in the table after a run that stood there was settled. -/
theorem get?_settle {l : Loader} {name : String} {run : Nat}
    (hentry : l.entries.get? name = some (.loading run)) (result : Except BundleError Unit)
    (other : String) :
    (l.settle name run result).entries.get? other =
      if other = name then (match result with | .ok () => some .loaded | .error _ => none)
      else l.entries.get? other := by
  cases result <;> simp [settle, hentry]

/-- What stands in the table as going on after that stood there before, under another name. -/
theorem loading_of_settle {l : Loader} {name other : String} {run k : Nat}
    {result : Except BundleError Unit} (hentry : l.entries.get? name = some (.loading run))
    (hother : (l.settle name run result).entries.get? other = some (.loading k)) :
    other ≠ name ∧ l.entries.get? other = some (.loading k) := by
  rw [get?_settle hentry] at hother
  split at hother
  · cases result <;> cases hother
  · rename_i hne
    exact ⟨hne, hother⟩

namespace Coherent

variable {l : Loader} {Noticed Noticed' : Nat → Prop}

/-- Two runs in the table under one name are one run. -/
theorem eq_of_loading (h : l.Coherent Noticed) {run other : Nat} {q : BundleRun} {name : String}
    (hentry : l.entries.get? name = some (.loading run)) (hq : l.runs[other]? = some q)
    (hpending : q.status.isPending = true) (hname : q.definition.name = name) : other = run := by
  have hother := h.pending other q hq hpending
  rw [hname, hentry] at hother
  cases hother
  rfl

/-- A run that stands in the table is one of the bundle under whose name it stands. -/
theorem name_of_loading (h : l.Coherent Noticed) {name : String} {run : Nat} {r : BundleRun}
    (hentry : l.entries.get? name = some (.loading run)) (hr : l.runs[run]? = some r) :
    r.definition.name = name := by
  obtain ⟨q, hq, hname⟩ := h.loading name run hentry
  obtain rfl : r = q := Option.some.inj (hr.symm.trans hq)
  exact hname

/-- The entry of a run that has ended may be replaced, by `loaded` if it succeeded. -/
theorem settle_of_loading (h : l.Coherent Noticed) {name : String} {run : Nat} {r : BundleRun}
    (hr : l.runs[run]? = some r) (hentry : l.entries.get? name = some (.loading run))
    {result : Except BundleError Unit} (hended : r.status.isPending = false)
    (hsuccess : r.status = .succeeded → result = .ok ())
    (others : ∀ other, other ≠ run → Noticed other → Noticed' other) :
    (l.settle name run result).Coherent Noticed' where
  loading := by
    intro other k hother
    rw [runs_settle]
    exact h.loading other k (loading_of_settle hentry hother).2
  pending := by
    intro k q hq hpending
    rw [runs_settle] at hq
    -- A run of this bundle that goes on would be the one in the table, which has ended.
    have hne : q.definition.name ≠ name := by
      intro hsame
      obtain rfl := h.eq_of_loading hentry hq hpending hsame
      obtain rfl : r = q := Option.some.inj (hr.symm.trans hq)
      rw [hended] at hpending
      cases hpending
    rw [get?_settle hentry, if_neg hne]
    exact h.pending k q hq hpending
  noticed := by
    intro other k q hother hq hdone
    rw [runs_settle] at hq
    obtain ⟨hne, hbefore⟩ := loading_of_settle hentry hother
    refine others k ?_ (h.noticed other k q hbefore hq hdone)
    rintro rfl
    exact hne ((h.name_of_loading hbefore hr).symm.trans (h.name_of_loading hentry hr))
  succeeded := by
    intro k q hq hsucceeded
    rw [runs_settle] at hq
    rw [get?_settle hentry]
    have hbefore := h.succeeded k q hq hsucceeded
    split
    · rename_i hsame
      rw [hsame, hentry] at hbefore
      rcases hbefore with hbefore | hbefore
      · cases hbefore
      · obtain rfl := LoadEntry.loading.inj (Option.some.inj hbefore)
        obtain rfl : r = q := Option.some.inj (hr.symm.trans hq)
        obtain rfl := hsuccess hsucceeded
        exact .inl rfl
    · exact hbefore
  files := by
    intro k q hq
    rw [runs_settle] at hq
    exact h.files k q hq
  requests := by
    intro k q file hq
    rw [runs_settle] at hq
    rw [network_settle]
    exact h.requests k q file hq
  owned := by
    intro event hevent
    rw [network_settle] at hevent
    rw [runs_settle]
    exact h.owned event hevent

/-- A run that has ended is settled, whether it still stands in the table or not. -/
theorem settle (h : l.Coherent Noticed) {name : String} {run : Nat} {r : BundleRun}
    (hr : l.runs[run]? = some r) (hname : r.definition.name = name)
    {result : Except BundleError Unit} (hended : r.status.isPending = false)
    (hsuccess : r.status = .succeeded → result = .ok ())
    (others : ∀ other, other ≠ run → Noticed other → Noticed' other) :
    (l.settle name run result).Coherent Noticed' := by
  by_cases hentry : l.entries.get? name = some (.loading run)
  · exact h.settle_of_loading hr hentry hended hsuccess others
  · have hsame : l.settle name run result = l := by simp [Loader.settle, hentry]
    rw [hsame]
    refine { h with noticed := ?_ }
    intro other k q hother hq hdone
    refine others k ?_ (h.noticed other k q hother hq hdone)
    rintro rfl
    apply hentry
    rw [← hname, h.name_of_loading hother hr]
    exact hother

/-- **Leaving keeps the loader coherent**, also for the other calls of the run: either it is going on, or it
does not stand in the table any more. -/
theorem leave (h : l.Coherent Noticed) {name : String} {run : Nat} {r : BundleRun}
    (hr : l.runs[run]? = some r) (hname : r.definition.name = name)
    (others : ∀ other, other ≠ run → Noticed other → Noticed' other) :
    (l.leave name run).2.Coherent Noticed' := by
  rcases l.leave_cases name hr with ⟨hstatus, hleave⟩ | ⟨hstatus, hleave⟩ | ⟨e, hstatus, hleave⟩
  · rw [hleave]
    refine { h with noticed := ?_ }
    intro other k q hother hq hended
    refine others k ?_ (h.noticed other k q hother hq hended)
    rintro rfl
    obtain rfl : r = q := Option.some.inj (hr.symm.trans hq)
    rw [hstatus] at hended
    cases hended
  · rw [hleave]
    exact h.settle hr hname (by rw [hstatus]; rfl) (fun _ => rfl) others
  · have hsuccess : r.status = .succeeded →
        (.error e : Except BundleError Unit) = .ok () := by
      intro hsucceeded
      rw [hstatus] at hsucceeded
      cases hsucceeded
    rw [hleave]
    exact h.settle hr hname (by rw [hstatus]; rfl) hsuccess others

end Coherent

end Loader

end AdminConsole
