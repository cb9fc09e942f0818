import AdminConsole.Proofs.Bundle.Settlements

/-!
# What callers see of failures

However calls overlap, each run that fails is settled by exactly one of its calls, which emits the one warning and
removes the entry. All calls of the run return the same error, those that take notice late as well, and these
leave the loader as they find it. The next call for the bundle starts a run that knows nothing of the earlier one
and begins with the first file. A name that is not registered never gets that far.

In a session no call is between its moments when anything else is done, so each run that has failed has its warning
(`Session.exists_warned_once`).
-/

set_option autoImplicit false

namespace AdminConsole

namespace Loader

/-- Every entry of the history belongs to a run of the bundle that it names. -/
def Attributed (l : Loader) : Prop :=
  ∀ event ∈ l.network.events, ∃ r, l.runs[event.run]? = some r ∧ r.definition.name = event.bundle

/-- The history goes on belonging to runs of the bundles that it names, if the new entries do. -/
theorem Attributed.of_grows {l l' : Loader} (h : l.Attributed) (grows : l.Grows l')
    {fresh : List FetchEvent} (events : l'.network.events = l.network.events ++ fresh)
    (own : ∀ event ∈ fresh, ∃ r, l.runs[event.run]? = some r ∧ r.definition.name = event.bundle) :
    l'.Attributed := by
  intro event hevent
  rw [events, List.mem_append] at hevent
  have hbefore : ∃ r, l.runs[event.run]? = some r ∧ r.definition.name = event.bundle := by
    rcases hevent with hevent | hevent
    · exact h event hevent
    · exact own event hevent
  obtain ⟨r, hr, hname⟩ := hbefore
  obtain ⟨r', hr', hdefinition, _⟩ := grows.runs event.run r hr
  exact ⟨r', hr', by rw [hdefinition, hname]⟩

/-- Polling a run adds to the history what belongs to this run and its bundle. -/
theorem Attributed.pollRun {l : Loader} (h : l.Attributed) (now run : Nat) :
    (l.pollRun now run).Attributed := by
  have hgrows := l.grows_pollRun now run
  rcases l.pollRun_cases now run with hsame | ⟨r, hr, _, hpoll⟩
  · rw [hsame]
    exact h
  · obtain ⟨fresh, hevents, howner⟩ := (BundleRun.advanced_poll run now r l.network).events
    rw [hpoll] at hgrows ⊢
    refine h.of_grows hgrows hevents ?_
    intro event hevent
    obtain ⟨hrun, hbundle⟩ := howner event hevent
    exact ⟨r, by rw [hrun]; exact hr, hbundle.symm⟩

/-- A run that has ended is not changed by being polled. -/
theorem pollRun_of_ended {l : Loader} {run : Nat} {r : BundleRun} (hr : l.runs[run]? = some r)
    (ended : r.status.isPending = false) (now : Nat) : l.pollRun now run = l := by
  rcases l.pollRun_cases now run with hsame | ⟨q, hq, hpending, _⟩
  · exact hsame
  · obtain rfl : r = q := Option.some.inj (hr.symm.trans hq)
    rw [ended] at hpending
    cases hpending

end Loader

namespace LoadTraffic

/-- The failure that a move settles. Only a call that leaves its run settles any. -/
def settled? (s : LoadTraffic) : LoadMove → Option Nat
  | .leave place =>
      match s.callAt place with
      | some ⟨.waiting name run, true⟩ => s.loader.settledBy name run
      | _ => none
  | _ => none

/-- The failed runs that are settled by some moves, in order. -/
def settlements (s : LoadTraffic) : List LoadMove → List Nat
  | [] => []
  | move :: moves => (s.settled? move).toList ++ (s.step move).settlements moves

/-- What it means that failed loads are forgotten once and by their own run, when these failures were settled. -/
structure FailuresForgotten (s : LoadTraffic) (settled : List Nat) : Prop where
  /-- There is one warning for each settled failure, with the name of the bundle and the error, and no other. -/
  warnings : settled.map s.loader.failure? = s.loader.failures.map some
  /-- No failure is settled twice. -/
  once : settled.Nodup
  /-- A failure was settled and its run stands in the table no more, unless a call is about to take notice. -/
  failed : ∀ run name e, s.loader.failure? run = some (name, e) →
    run ∈ settled ∧ s.loader.entries.get? name ≠ some (.loading run) ∨
      run ∉ settled ∧ s.loader.entries.get? name = some (.loading run) ∧ s.Noticed run
  /-- So every failure was settled while no call is about to take notice, as between two uses of a session. -/
  quiet : (∀ run, ¬ s.Noticed run) → ∀ run name e, s.loader.failure? run = some (name, e) →
    run ∈ settled ∧ s.loader.entries.get? name ≠ some (.loading run)
  /-- A call that takes notice of a failure returns its error. If the run stands in the table the call emits the
  warning and removes the entry, and otherwise it changes nothing. -/
  notice : ∀ place name run e, s.callAt place = some ⟨.waiting name run, true⟩ →
    s.loader.failure? run = some (name, e) →
    (s.step (.leave place)).callAt place = some ⟨.ended name (.error e), false⟩ ∧
      (s.step (.leave place)).loader =
        if s.loader.entries.get? name = some (.loading run) then
          { s.loader with
            entries := s.loader.entries.erase name
            failures := s.loader.failures ++ [(name, e)] }
        else s.loader
  /-- Of a run that fails at any later time all calls that have waited for it return the same error, if they are
  not dropped before. -/
  shared : ∀ place name run inside, s.callAt place = some ⟨.waiting name run, inside⟩ →
    ∀ later e, (s.run later).loader.failure? run = some (name, e) →
    ∀ load inside', (s.run later).callAt place = some ⟨load, inside'⟩ →
      load = .waiting name run ∨ load = .ended name (.error e)
  /-- What does not stand in the table gets there only by the next call for it. -/
  absent : ∀ name, s.loader.entries.get? name = none → ∀ move,
    (s.step move).loader.entries.get? name = none ∨
      ∃ place inside, move = .enter place ∧ s.callAt place = some ⟨.requested name, inside⟩
  /-- This call starts a run of its own, which has requested nothing. -/
  fresh : ∀ name definition place inside, s.loader.entries.get? name = none →
    s.loader.registry.get? name = some definition →
    s.callAt place = some ⟨.requested name, inside⟩ →
    (s.step (.enter place)).callAt place = some ⟨.waiting name s.loader.runs.length, true⟩ ∧
      (s.step (.enter place)).loader.runs = s.loader.runs ++ [BundleRun.begin definition] ∧
      (s.step (.enter place)).loader.network.requestedBy s.loader.runs.length = []
  /-- The first file that a run requests is the first of its bundle, and has been requested once the run was
  polled. -/
  first : ∀ place now name run inside r file, s.callAt place = some ⟨.waiting name run, inside⟩ →
    s.loader.runs[run]? = some r → r.definition.files.head? = some file →
    ((s.step (.poll place now)).loader.network.requestedBy run).head? = some file
  /-- A call of a run changes nothing any more when its bundle is loaded or a newer run of it has begun. -/
  stale : ∀ place name run inside, s.callAt place = some ⟨.waiting name run, inside⟩ →
    (s.loader.isLoaded name = true ∨
      ∃ (newer : Nat) (r : BundleRun), run < newer ∧ s.loader.runs[newer]? = some r ∧
        r.definition.name = name) →
    ∀ now, (s.step (.poll place now)).loader = s.loader ∧
      (s.step (.leave place)).loader = s.loader
  /-- A call for a name that is not registered returns so when it enters and leaves the loader alone, and
  nothing was ever fetched for this name. -/
  unknown : ∀ name, s.loader.registry.get? name = none →
    (∀ event ∈ s.loader.network.events, event.bundle ≠ name) ∧
    ∀ place load inside, s.callAt place = some ⟨load, inside⟩ → load.name = name →
      (load = .requested name → (s.step (.enter place)).callAt place =
        some ⟨.ended name (.error (.unknown name)), false⟩) ∧
      ∀ now, (s.step (.enter place)).loader = s.loader ∧
        (s.step (.poll place now)).loader = s.loader ∧
        (s.step (.leave place)).loader = s.loader

/-! ## What single moves do -/

section

variable {s : LoadTraffic} {place run : Nat} {name : String} {inside : Bool}

/-- Nothing happens when a call is to leave that is not about to take notice of its run. -/
theorem leaves_or_stays (s : LoadTraffic) (place : Nat) :
    (∃ name run, s.callAt place = some ⟨.waiting name run, true⟩) ∨
      s.step (.leave place) = s ∧ s.settled? (.leave place) = none := by
  rcases hcall : s.callAt place with _ | ⟨_ | ⟨name, run⟩ | _, _ | _⟩
  case some.waiting.true => exact .inl ⟨name, run, rfl⟩
  all_goals exact .inr ⟨by simp only [step, hcall], by simp only [settled?, hcall]⟩

/-- A call that does not wait leaves the loader alone when it is polled or leaves. -/
theorem loader_step_of_not_waiting {load : Load} (call : s.callAt place = some ⟨load, inside⟩)
    (h : load.run? = none) (now : Nat) :
    (s.step (.poll place now)).loader = s.loader ∧ (s.step (.leave place)).loader = s.loader := by
  cases load with
  | requested other => simp only [step, call, and_self]
  | waiting other run => cases h
  | ended other result => simp only [step, call, and_self]

/-- The first file of a run has been requested first once the run was polled. -/
theorem first (opened : ∀ run r, s.loader.runs[run]? = some r → s.loader.Opened run r) (now : Nat)
    {file : String} {r : BundleRun}
    (call : s.callAt place = some ⟨.waiting name run, inside⟩) (hr : s.loader.runs[run]? = some r)
    (head : r.definition.files.head? = some file) :
    ((s.step (.poll place now)).loader.network.requestedBy run).head? = some file := by
  have hopened := opened run r hr
  rw [step_poll now call, put]
  cases hpending : r.status.isPending with
  | true =>
    have hnetwork : (s.loader.pollRun now run).network = (r.poll run now s.loader.network).2 := by
      rw [s.loader.pollRun_of_some now hr]
    obtain ⟨other, hother, hfirst⟩ := Loader.opened_polled hopened now hpending
    rw [hnetwork, hfirst, ← hother, head]
  | false =>
    rw [Loader.pollRun_of_ended hr hpending now]
    rcases hopened with ⟨hbegin, _⟩ | ⟨other, hother, hfirst⟩
    · -- A run that was never polled and has files goes on.
      have hfiles : r.definition.files ≠ [] := by
        intro hnone
        rw [hnone] at head
        cases head
      have hgoing := BundleRun.isPending_status_begin hfiles
      rw [← hbegin, hpending] at hgoing
      cases hgoing
    · rw [hfirst, ← hother, head]

end

/-! ## The invariant -/

/-- What is known of the traffic at a loader when these failures were settled. -/
structure Warned (s : LoadTraffic) (settled : List Nat) : Prop where
  orderly : s.Orderly
  truthful : s.Truthful
  attributed : s.loader.Attributed
  settles : s.loader.Settles settled

/-- Nothing has been settled at a loader at which nobody has called. -/
theorem warned_start (registry : BundleRegistry) (debug : Bool) (plan : FetchPlan) :
    (start registry debug plan).Warned [] where
  orderly := orderly_start registry debug plan
  truthful := truthful_start registry debug plan
  attributed := by simp [start, Loader.start, Network.quiet, Loader.Attributed]
  settles := Loader.settles_start registry debug plan

/-- Every move leaves the history belonging to the runs of the bundles that it names. -/
theorem attributed_moved {s s' : LoadTraffic} (h : s.loader.Attributed) (move : Moved s s') :
    s'.loader.Attributed := by
  cases move with
  | same => exact h
  | called name => exact h
  | entered place name inside call =>
    have hsame : (s.loader.enter name).2.network.events = s.loader.network.events ++ [] := by
      rw [Loader.network_enter, List.append_nil]
    exact h.of_grows (s.loader.grows_enter name) hsame (by simp)
  | polled place now name run inside call => exact h.pollRun now run
  | left place name run call =>
    have hsame : (s.loader.leave name run).2.network.events = s.loader.network.events ++ [] := by
      rw [Loader.network_leave, List.append_nil]
    exact h.of_grows (s.loader.grows_leave name run) hsame (by simp)
  | dropped place load call => exact h

namespace Warned

variable {s : LoadTraffic} {settled : List Nat}

/-- **Each move settles the failure that it is said to settle**, and no other. -/
theorem settles_step (h : s.Warned settled) (move : LoadMove) :
    (s.step move).loader.Settles (settled ++ (s.settled? move).toList) := by
  have hsettles := h.settles
  cases move with
  | call name =>
    exact hsettles.quiet rfl
  | enter place =>
    refine Loader.Settles.quiet ?_ rfl
    simp only [LoadTraffic.step]
    split
    · rename_i name inside _
      exact hsettles.enter name
    · exact hsettles
  | poll place now =>
    refine Loader.Settles.quiet ?_ rfl
    simp only [LoadTraffic.step]
    split
    · rename_i name run inside _
      exact hsettles.pollRun h.orderly.coherent now run
    · exact hsettles
  | leave place =>
    rcases s.leaves_or_stays place with ⟨name, run, hcall⟩ | ⟨hsame, hnone⟩
    · have hsettled : s.settled? (.leave place) = s.loader.settledBy name run := by
        simp only [settled?, hcall]
      obtain ⟨r, hr, hname⟩ := h.orderly.waiting place name run true hcall
      rw [step_leave hcall, hsettled]
      exact hsettles.leave hr hname
    · rw [hsame]
      exact hsettles.quiet hnone
  | drop place =>
    refine Loader.Settles.quiet ?_ rfl
    simp only [LoadTraffic.step]
    split <;> exact hsettles

/-- A move settles at most one failure, and the loader warns of it. -/
theorem step (h : s.Warned settled) (move : LoadMove) :
    (s.step move).Warned (settled ++ (s.settled? move).toList) where
  orderly := h.orderly.step move
  truthful := h.truthful.moved h.orderly (s.moved_step move)
  attributed := attributed_moved h.attributed (s.moved_step move)
  settles := h.settles_step move

/-- Whatever happens at a loader, it warns of what is settled, in this order. -/
theorem run (h : s.Warned settled) (moves : List LoadMove) :
    (s.run moves).Warned (settled ++ s.settlements moves) := by
  induction moves generalizing s settled with
  | nil => simpa [settlements, LoadTraffic.run] using h
  | cons move moves ih =>
    have hrest := ih (h.step move)
    rw [List.append_assoc] at hrest
    exact hrest

/-! ## What follows at one time -/

/-- A run that is not the newest of its bundle, or whose bundle is loaded, has ended and does not stand in the
table. -/
theorem not_loading (h : s.Warned settled) {name : String} {run : Nat}
    (stale : s.loader.isLoaded name = true ∨ ∃ (newer : Nat) (r : BundleRun), run < newer ∧
      s.loader.runs[newer]? = some r ∧ r.definition.name = name) :
    s.loader.entries.get? name ≠ some (.loading run) := by
  rcases stale with hloaded | ⟨newer, r, hlt, hr, hname⟩
  · rw [Loader.isLoaded_iff.mp hloaded]
    simp
  · exact h.settles.not_loading hlt hr hname

/-- Nothing of a name that is not registered is in the table. -/
theorem entry_of_unregistered (h : s.Warned settled) {name : String}
    (unregistered : s.loader.registry.get? name = none) : s.loader.entries.get? name = none := by
  have hregistered := h.truthful.accounted.registered
  cases hentry : s.loader.entries.get? name with
  | none => rfl
  | some entry =>
    cases entry with
    | loading run =>
      obtain ⟨r, hr, rfl⟩ := h.orderly.coherent.loading name run hentry
      cases unregistered.symm.trans (hregistered run r hr)
    | loaded =>
      obtain ⟨run, r, hr, rfl, _⟩ :=
        h.truthful.accounted.loaded name (Loader.isLoaded_iff.mpr hentry)
      cases unregistered.symm.trans (hregistered run r hr)

/-- An entry that was missing is put in by a call that enters for it, and by nothing else. -/
theorem entry_step_of_none (s : LoadTraffic) {name : String}
    (missing : s.loader.entries.get? name = none) (move : LoadMove) :
    (s.step move).loader.entries.get? name = none ∨
      ∃ place inside, move = .enter place ∧ s.callAt place = some ⟨.requested name, inside⟩ := by
  cases move with
  | call other => exact .inl missing
  | enter place =>
    simp only [LoadTraffic.step]
    split
    · rename_i other inside hcall
      by_cases hname : name = other
      · subst hname
        exact .inr ⟨place, inside, rfl, hcall⟩
      · left
        rcases s.loader.enter_cases other with ⟨hsame, _⟩ | ⟨definition, _, _, hbegin⟩
        · simpa only [put, hsame] using missing
        · simp only [put, hbegin, Dictionary.get?_insert, if_neg hname]
          exact missing
    · exact .inl missing
  | poll place now =>
    left
    simp only [LoadTraffic.step]
    split
    · simpa only [put, Loader.entries_pollRun] using missing
    · exact missing
  | leave place =>
    left
    simp only [LoadTraffic.step]
    split
    · rename_i other run _
      have hkept : name = other → s.loader.entries.get? other ≠ some (.loading run) := by
        rintro rfl
        simp [missing]
      simpa only [put, Loader.entries_leave_of_ne hkept] using missing
    · exact missing
  | drop place =>
    left
    simp only [LoadTraffic.step]
    split <;> exact missing

/-- **A call of a run that is out of the table changes nothing**, if the run has ended. -/
theorem loader_step_of_stale (h : s.Warned settled) {place run : Nat} {name : String} {inside : Bool}
    (call : s.callAt place = some ⟨.waiting name run, inside⟩)
    (gone : s.loader.entries.get? name ≠ some (.loading run)) (now : Nat) :
    (s.step (.poll place now)).loader = s.loader ∧ (s.step (.leave place)).loader = s.loader := by
  obtain ⟨r, hr, rfl⟩ := h.orderly.waiting place name run inside call
  have hended : r.status.isPending = false := by
    rw [Bool.eq_false_iff]
    intro hpending
    exact gone (h.orderly.coherent.pending run r hr hpending)
  refine ⟨?_, ?_⟩
  · rw [step_poll now call, put, Loader.pollRun_of_ended hr hended now]
  · cases inside with
    | false => simp only [LoadTraffic.step, call]
    | true =>
      rw [step_leave call, put]
      rcases s.loader.leave_cases r.definition.name hr with
        ⟨_, hleave⟩ | ⟨_, hleave⟩ | ⟨e, _, hleave⟩
      · rw [hleave]
      · rw [hleave]
        simp only [Loader.settle, if_neg gone]
      · rw [hleave]
        simp only [Loader.settle, if_neg gone]

/-- A call for a registered bundle that does not stand in the table starts a run, which is given the next number and
has requested nothing. -/
theorem fresh (h : s.Warned settled) {name : String} {definition : BundleDefinition} {place : Nat}
    {inside : Bool} (missing : s.loader.entries.get? name = none)
    (registered : s.loader.registry.get? name = some definition)
    (call : s.callAt place = some ⟨.requested name, inside⟩) :
    (s.step (.enter place)).callAt place = some ⟨.waiting name s.loader.runs.length, true⟩ ∧
      (s.step (.enter place)).loader.runs = s.loader.runs ++ [BundleRun.begin definition] ∧
      (s.step (.enter place)).loader.network.requestedBy s.loader.runs.length = [] := by
  have henter : s.loader.enter name = (.waiting name s.loader.runs.length, { s.loader with
      entries := s.loader.entries.insert name (.loading s.loader.runs.length)
      runs := s.loader.runs ++ [BundleRun.begin definition] }) := by
    simp only [Loader.enter, missing, registered]
  have hquiet : s.loader.network.requestedBy s.loader.runs.length = [] := by
    rw [Network.requestedBy, List.map_eq_nil_iff, List.filter_eq_nil_iff]
    intro event hevent
    have hlt := h.orderly.coherent.owned event hevent
    have hne : event.run ≠ s.loader.runs.length := by omega
    simp [hne]
  rw [step_enter call, henter, callAt_put_self (lt_of_callAt call)]
  exact ⟨rfl, rfl, hquiet⟩

/-- A call for a bundle that is not registered is answered with an error as soon as it enters, and never uses the
loader. -/
theorem unknown (h : s.Warned settled) {name : String}
    (unregistered : s.loader.registry.get? name = none) {place : Nat} {load : Load} {inside : Bool}
    (call : s.callAt place = some ⟨load, inside⟩) (asked : load.name = name) :
    (load = .requested name → (s.step (.enter place)).callAt place =
      some ⟨.ended name (.error (.unknown name)), false⟩) ∧
    ∀ now, (s.step (.enter place)).loader = s.loader ∧
      (s.step (.poll place now)).loader = s.loader ∧
      (s.step (.leave place)).loader = s.loader := by
  cases load with
  | requested other =>
    obtain rfl : other = name := asked
    have henter : s.loader.enter other = (.ended other (.error (.unknown other)), s.loader) := by
      simp only [Loader.enter, h.entry_of_unregistered unregistered, unregistered]
    rw [step_enter call, henter]
    refine ⟨fun _ => callAt_put_self (lt_of_callAt call) _ _, ?_⟩
    intro now
    exact ⟨rfl, loader_step_of_not_waiting call rfl now⟩
  | waiting other run =>
    obtain rfl : other = name := asked
    obtain ⟨r, hr, rfl⟩ := h.orderly.waiting place other run inside call
    cases unregistered.symm.trans (h.truthful.accounted.registered run r hr)
  | ended other result =>
    refine ⟨by simp, ?_⟩
    intro now
    exact ⟨by simp only [LoadTraffic.step, call], loader_step_of_not_waiting call rfl now⟩

/-- A failure was settled, unless some call of its run is about to take notice. -/
theorem settled_or_noticed (h : s.Warned settled) {run : Nat} {name : String} {e : BundleError}
    (hfailure : s.loader.failure? run = some (name, e)) :
    run ∈ settled ∧ s.loader.entries.get? name ≠ some (.loading run) ∨
      run ∉ settled ∧ s.loader.entries.get? name = some (.loading run) ∧ s.Noticed run := by
  have hiff := h.settles.failed run name e hfailure
  obtain ⟨r, hr, hname, hstatus⟩ := Loader.failure?_eq_some_iff.mp hfailure
  by_cases hentry : s.loader.entries.get? name = some (.loading run)
  · have hnoticed := h.orderly.coherent.noticed name run r hentry hr (by rw [hstatus]; rfl)
    exact .inr ⟨fun hmem => hiff.mp hmem hentry, hentry, hnoticed⟩
  · exact .inl ⟨hiff.mpr hentry, hentry⟩

/-- A loader that warns of what is settled forgets the failures, if its runs begin as they should. -/
theorem failuresForgotten (h : s.Warned settled)
    (opened : ∀ run r, s.loader.runs[run]? = some r → s.loader.Opened run r) :
    s.FailuresForgotten settled where
  warnings := h.settles.warnings
  once := h.settles.nodup
  failed := fun _ _ _ hfailure => h.settled_or_noticed hfailure
  quiet := fun unnoticed run _ _ hfailure =>
    (h.settled_or_noticed hfailure).resolve_right fun late => unnoticed run late.2.2
  notice := by
    intro place name run e hcall hfailure
    rw [step_leave hcall, callAt_put_self (lt_of_callAt hcall), Loader.leave_of_failure hfailure]
    exact ⟨rfl, rfl⟩
  shared := by
    intro place name run inside hcall later e hfailure load inside' hlater
    have hbound : s.Bound place name run := ⟨lt_of_callAt hcall, .inr (.inl ⟨inside, hcall⟩)⟩
    rcases (bound_run hbound later).2 with hnone | ⟨_, hwaiting⟩ | ⟨result, _, hended, hresult⟩
    · cases hnone.symm.trans hlater
    · cases hwaiting.symm.trans hlater
      exact .inl rfl
    · cases hended.symm.trans hlater
      cases hresult.symm.trans (Loader.result?_of_failure? hfailure)
      exact .inr rfl
  absent := fun name missing move => entry_step_of_none s missing move
  fresh := fun _ _ _ _ missing registered call => h.fresh missing registered call
  first := fun _ now _ _ _ _ _ call hr head => LoadTraffic.first opened now call hr head
  stale := fun _ _ _ _ call stale now => h.loader_step_of_stale call (h.not_loading stale) now
  unknown := by
    intro name unregistered
    refine ⟨?_, fun place load inside call asked => h.unknown unregistered call asked⟩
    rintro event hevent rfl
    obtain ⟨r, hr, hname⟩ := h.attributed event hevent
    have hregistered := h.truthful.accounted.registered event.run r hr
    rw [hname, unregistered] at hregistered
    cases hregistered

end Warned

/-- **Failed loads are forgotten once, and only by their own run**, whatever calls there are and however they
overlap. Of the warnings of a session `Session.exists_warned_once` says the same. -/
theorem failures_forgotten_once (registry : BundleRegistry) (debug : Bool) (plan : FetchPlan)
    (moves : List LoadMove) :
    ((start registry debug plan).run moves).FailuresForgotten
      ((start registry debug plan).settlements moves) := by
  have hrun := (warned_start registry debug plan).run moves
  rw [List.nil_append] at hrun
  have hnone : ∀ run r, (start registry debug plan).loader.runs[run]? = some r →
      (start registry debug plan).loader.Opened run r := by
    simp [start, Loader.start]
  exact hrun.failuresForgotten (opened_run (orderly_start registry debug plan) hnone moves)

end LoadTraffic

end AdminConsole
