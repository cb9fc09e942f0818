import AdminConsole.Proofs.Bundle.SingleFlight
import AdminConsole.Proofs.Session.Uses
import Mathlib.Data.List.Flatten

/-!
# The loads of a session

A session does nothing to its loader that traffic does not allow: each poll of a load is the call entering if
it has not, polling its run and leaving, and what a job does not wait for any more is dropped. So what holds of
the traffic of every loader holds of the loader of every session. Main statement: whatever is done with a
session is a number of moves at its loader, with one call for each load that some job waits for.
-/

set_option autoImplicit false

namespace AdminConsole

namespace LoadTraffic

/-- Whether these are the calls that were not dropped, with their places, and all of them rest. -/
structure Holds (s : LoadTraffic) (held : List (Nat × Load)) : Prop where
  places : (held.map (·.1)).Nodup
  calls : ∀ place call, s.callAt place = some call ↔ ∃ load, (place, load) ∈ held ∧ call = ⟨load, false⟩

namespace Holds

variable {s s' : LoadTraffic}

/-- A place stands once among those that are held. -/
theorem not_mem_of_split {before after : List (Nat × Load)} {place : Nat} {load : Load}
    (h : s.Holds (before ++ (place, load) :: after)) {other : Nat × Load}
    (hother : other ∈ before ++ after) : other.1 ≠ place := by
  have hnodup := h.places
  rw [List.map_append, List.map_cons, List.nodup_append, List.nodup_cons] at hnodup
  obtain ⟨_, ⟨hafter, _⟩, hbefore⟩ := hnodup
  rcases List.mem_append.mp hother with hmem | hmem
  · exact hbefore other.1 (List.mem_map_of_mem hmem) place List.mem_cons_self
  · rintro rfl
    exact hafter (List.mem_map.mpr ⟨other, hmem, rfl⟩)

/-- A call that is held stands at its place, and rests. -/
theorem callAt_of_split {before after : List (Nat × Load)} {place : Nat} {load : Load}
    (h : s.Holds (before ++ (place, load) :: after)) : s.callAt place = some ⟨load, false⟩ :=
  (h.calls place _).mpr ⟨load, by simp, rfl⟩

/-- When one call came on and the others did not, all calls are held still. -/
theorem replace {before after : List (Nat × Load)} {place : Nat} {load load' : Load}
    (h : s.Holds (before ++ (place, load) :: after))
    (own : s'.callAt place = some ⟨load', false⟩)
    (others : ∀ other, other ≠ place → s'.callAt other = s.callAt other) :
    s'.Holds (before ++ (place, load') :: after) where
  places := by
    have hplaces := h.places
    simpa using hplaces
  calls := by
    intro other call
    by_cases hother : other = place
    · subst hother
      rw [own, Option.some.injEq]
      constructor
      · rintro rfl
        exact ⟨load', by simp, rfl⟩
      · rintro ⟨found, hmem, rfl⟩
        rw [List.mem_append, List.mem_cons] at hmem
        rcases hmem with hmem | heq | hmem
        · exact absurd rfl (h.not_mem_of_split (List.mem_append_left _ hmem))
        · cases heq
          rfl
        · exact absurd rfl (h.not_mem_of_split (List.mem_append_right _ hmem))
    · rw [others other hother, h.calls other call]
      simp [hother]

/-- When one call was dropped the others are held. -/
theorem remove {before after : List (Nat × Load)} {place : Nat} {load : Load}
    (h : s.Holds (before ++ (place, load) :: after)) (own : s'.callAt place = none)
    (others : ∀ other, other ≠ place → s'.callAt other = s.callAt other) :
    s'.Holds (before ++ after) where
  places := h.places.sublist (((List.sublist_cons_self _ _).append_left before).map _)
  calls := by
    intro other call
    by_cases hother : other = place
    · subst hother
      rw [own]
      constructor
      · intro hnone
        cases hnone
      · rintro ⟨found, hmem, _⟩
        exact absurd rfl (h.not_mem_of_split hmem)
    · rw [others other hother, h.calls other call]
      simp [hother]

/-- A new call is held after the others. -/
theorem call {held : List (Nat × Load)} (h : s.Holds held) (name : String) :
    (s.step (.call name)).Holds (held ++ [(s.calls.length, .requested name)]) where
  places := by
    rw [List.map_append, List.nodup_append]
    refine ⟨h.places, by simp, ?_⟩
    intro place hplace last hlast
    obtain ⟨⟨_, load⟩, hmem, rfl⟩ := List.mem_map.mp hplace
    obtain rfl : last = s.calls.length := by simpa using hlast
    exact Nat.ne_of_lt (lt_of_callAt ((h.calls _ _).mpr ⟨load, hmem, rfl⟩))
  calls := by
    intro place call
    rw [callAt_call]
    by_cases hplace : place = s.calls.length
    · have hnew : ∀ load, (place, load) ∉ held := by
        intro load hmem
        have hlt := lt_of_callAt ((h.calls place _).mpr ⟨load, hmem, rfl⟩)
        omega
      rw [if_pos hplace]
      simp [hplace ▸ hnew, hplace, eq_comm]
    · rw [if_neg hplace, h.calls place call]
      simp [hplace]

end Holds

/-! ## Polling loads is traffic -/

/-- A call that waits polls its run and leaves. -/
theorem exists_run_await (s : LoadTraffic) (now : Nat) {place run : Nat} {name : String}
    {inside : Bool} (hcall : s.callAt place = some ⟨.waiting name run, inside⟩) :
    ∃ moves, (s.run moves).loader = (Loader.await now name run s.loader).2 ∧
      (s.run moves).callAt place = some ⟨(Loader.await now name run s.loader).1, false⟩ ∧
      ∀ other, other ≠ place → (s.run moves).callAt other = s.callAt other := by
  have hplace := lt_of_callAt hcall
  have hpoll := step_poll now hcall
  have hpolled : (s.step (.poll place now)).callAt place = some ⟨.waiting name run, true⟩ := by
    rw [hpoll, callAt_put_self hplace]
  have hleave : s.run [.poll place now, .leave place] =
      (s.step (.poll place now)).put place
        (some ⟨((s.loader.pollRun now run).leave name run).1, false⟩)
        ((s.loader.pollRun now run).leave name run).2 := by
    have hloader : (s.step (.poll place now)).loader = s.loader.pollRun now run := by
      rw [hpoll]
      rfl
    rw [← hloader, LoadTraffic.run, List.foldl_cons, List.foldl_cons, List.foldl_nil]
    exact step_leave hpolled
  refine ⟨[.poll place now, .leave place], by rw [hleave]; rfl, ?_, ?_⟩
  · rw [hleave, callAt_put_self (lt_of_callAt hpolled)]
    rfl
  · intro other hne
    rw [hleave, callAt_put_of_ne hne.symm, hpoll, callAt_put_of_ne hne.symm]

/-- A load that is polled first enters, and is polled on if it has to wait. -/
theorem poll_requested (l : Loader) (now : Nat) (name : String) :
    Loader.poll now (.requested name) l =
      match (l.enter name).1 with
      | .waiting name' run => (l.enter name).2.await now name' run
      | other => (other, (l.enter name).2) := by
  simp only [Loader.poll]
  rcases l.enter name with ⟨load, l'⟩
  cases load <;> rfl

/-- Polling a load is a number of moves of its call. -/
theorem exists_run_poll (s : LoadTraffic) (now : Nat) {place : Nat} {load : Load}
    (hcall : s.callAt place = some ⟨load, false⟩) :
    ∃ moves, (s.run moves).loader = (Loader.poll now load s.loader).2 ∧
      (s.run moves).callAt place = some ⟨(Loader.poll now load s.loader).1, false⟩ ∧
      ∀ other, other ≠ place → (s.run moves).callAt other = s.callAt other := by
  cases load with
  | requested name =>
    have henter : s.run [.enter place] =
        s.put place (some ⟨(s.loader.enter name).1, (s.loader.enter name).1.run?.isSome⟩)
          (s.loader.enter name).2 := by
      rw [LoadTraffic.run, List.foldl_cons, List.foldl_nil, step_enter hcall]
    have hentered := callAt_put_self (lt_of_callAt hcall)
      (some ⟨(s.loader.enter name).1, (s.loader.enter name).1.run?.isSome⟩) (s.loader.enter name).2
    have hothers : ∀ other, other ≠ place →
        (s.run [.enter place]).callAt other = s.callAt other := by
      intro other hne
      rw [henter, callAt_put_of_ne hne.symm]
    rw [← henter] at hentered
    have hloader : (s.run [.enter place]).loader = (s.loader.enter name).2 := by
      rw [henter]
      rfl
    rw [poll_requested, ← hloader]
    cases hload : (s.loader.enter name).1 with
    | waiting name' run =>
      rw [hload] at hentered
      obtain ⟨moves, hrun, hown, hrest⟩ := (s.run [.enter place]).exists_run_await now hentered
      refine ⟨[.enter place] ++ moves, ?_⟩
      rw [run_append]
      exact ⟨hrun, hown, fun other hne => (hrest other hne).trans (hothers other hne)⟩
    | requested name' =>
      rw [hload] at hentered
      exact ⟨[.enter place], rfl, hentered, hothers⟩
    | ended name' result =>
      rw [hload] at hentered
      exact ⟨[.enter place], rfl, hentered, hothers⟩
  | waiting name run => exact s.exists_run_await now hcall
  | ended name result => exact ⟨[], rfl, hcall, fun _ _ => rfl⟩

/-- Polling one of the loads that are held. -/
theorem exists_run_poll_held {s : LoadTraffic} (now : Nat) {before after : List (Nat × Load)}
    {place : Nat} {load : Load} (h : s.Holds (before ++ (place, load) :: after)) :
    ∃ moves, (s.run moves).loader = (Loader.poll now load s.loader).2 ∧
      (s.run moves).Holds (before ++ (place, (Loader.poll now load s.loader).1) :: after) := by
  obtain ⟨moves, hloader, hown, hothers⟩ := s.exists_run_poll now h.callAt_of_split
  exact ⟨moves, hloader, h.replace hown hothers⟩

/-- Polling some of the loads that are held together, each at its place. -/
theorem exists_run_pollAll {s : LoadTraffic} (now : Nat) {before held after : List (Nat × Load)}
    (h : s.Holds (before ++ held ++ after)) :
    ∃ moves held',
      (s.run moves).loader = (Loader.pollAll now (held.map (·.2)) s.loader).2 ∧
      (s.run moves).Holds (before ++ held' ++ after) ∧
      held'.map (·.2) = (Loader.pollAll now (held.map (·.2)) s.loader).1 ∧
      held'.map (·.1) = held.map (·.1) := by
  unfold Loader.pollAll
  apply Join.poll_induction (motive := fun loads loader => ∃ moves held',
    (s.run moves).loader = loader ∧ (s.run moves).Holds (before ++ held' ++ after) ∧
      held'.map (·.2) = loads ∧ held'.map (·.1) = held.map (·.1))
  · rintro first item last loader _ ⟨moves, held', rfl, hholds, hmap, hplaces⟩
    obtain ⟨heldFirst, rest, rfl, rfl, hrest⟩ := List.map_eq_append_iff.mp hmap
    obtain ⟨⟨place, load⟩, heldLast, rfl, rfl, rfl⟩ := List.map_eq_cons_iff.mp hrest
    have hsplit : (s.run moves).Holds
        ((before ++ heldFirst) ++ (place, load) :: (heldLast ++ after)) := by
      simpa using hholds
    obtain ⟨more, hloader, hheld⟩ := exists_run_poll_held now hsplit
    refine ⟨moves ++ more,
      heldFirst ++ (place, (Loader.poll now load (s.run moves).loader).1) :: heldLast, ?_, ?_, ?_, ?_⟩
    · rw [run_append]
      exact hloader
    · rw [run_append]
      simpa using hheld
    · simp
    · simpa using hplaces
  · exact ⟨[], held, rfl, h, rfl, rfl⟩

/-- Calls that nobody waits for any more can be dropped, and that changes nothing else. -/
theorem exists_run_drop (before : List (Nat × Load)) {kept held : List (Nat × Load)}
    (sub : kept.Sublist held) {s : LoadTraffic} (h : s.Holds (before ++ held)) :
    ∃ moves, (s.run moves).loader = s.loader ∧ (s.run moves).Holds (before ++ kept) := by
  induction sub generalizing s before with
  | slnil => exact ⟨[], rfl, h⟩
  | @cons kept held gone _ ih =>
    obtain ⟨place, load⟩ := gone
    have hcall := h.callAt_of_split
    have hdrop := step_drop hcall
    have hholds : (s.step (.drop place)).Holds (before ++ held) := by
      rw [hdrop]
      exact h.remove (callAt_put_self (lt_of_callAt hcall) _ _)
        fun other hne => callAt_put_of_ne hne.symm _ _
    obtain ⟨moves, hloader, hkept⟩ := ih _ hholds
    refine ⟨.drop place :: moves, ?_, hkept⟩
    rw [LoadTraffic.run, List.foldl_cons, hdrop] at *
    exact hloader
  | @cons_cons kept held stays _ ih =>
    have hmoved : s.Holds ((before ++ [stays]) ++ held) := by simpa using h
    obtain ⟨moves, hloader, hkept⟩ := ih _ hmoved
    exact ⟨moves, hloader, by simpa using hkept⟩

end LoadTraffic

/-! ## What sessions do -/

namespace Session

open LoadTraffic

/-- The loads that the jobs of a list wait for. -/
def loadsOf (jobs : List Job) : List Load :=
  jobs.flatMap fun job => job.state.loads

/-- Whether the traffic shows what the loader of the session went through, with one call for each load that
some job waits for. -/
def FollowsLoads (s : Session) (traffic : LoadTraffic) : Prop :=
  traffic.loader = s.loader ∧ ∃ held, traffic.Holds held ∧ held.map (·.2) = loadsOf s.jobs

/-- A job that was polled goes on to wait for its loads or has dropped them. -/
theorem exists_run_keep {traffic : LoadTraffic} {before held after : List (Nat × Load)}
    {loads kept : List Load} (h : traffic.Holds (before ++ held ++ after))
    (hloads : held.map (·.2) = loads) (hkept : kept = loads ∨ kept = []) :
    ∃ moves held', (traffic.run moves).loader = traffic.loader ∧
      (traffic.run moves).Holds (before ++ held' ++ after) ∧ held'.map (·.2) = kept := by
  rcases hkept with rfl | rfl
  · exact ⟨[], held, rfl, h, hloads⟩
  · rw [List.append_assoc] at h
    obtain ⟨moves, hloader, hholds⟩ := exists_run_drop before (List.sublist_append_right held after) h
    exact ⟨moves, [], hloader, by simpa using hholds, rfl⟩

/-- Polling a job polls its loads, and drops them if it ends. -/
theorem exists_run_pollJob (s : Session) (state : JobState) {traffic : LoadTraffic}
    {before held after : List (Nat × Load)} (same : traffic.loader = s.loader)
    (h : traffic.Holds (before ++ held ++ after)) (hloads : held.map (·.2) = state.loads) :
    ∃ moves held', (traffic.run moves).loader = (s.pollJob state).2.loader ∧
      (traffic.run moves).Holds (before ++ held' ++ after) ∧
      held'.map (·.2) = (s.pollJob state).1.loads := by
  obtain ⟨polled, hpolled, hstate⟩ : ∃ polled : List Load × Loader,
      (∃ moves held', (traffic.run moves).loader = polled.2 ∧
        (traffic.run moves).Holds (before ++ held' ++ after) ∧ held'.map (·.2) = polled.1) ∧
      (s.pollJob state).2.loader = polled.2 ∧
      ((s.pollJob state).1.loads = polled.1 ∨ (s.pollJob state).1.loads = []) := by
    cases state with
    | navigating ticket route loads =>
      obtain ⟨moves, held', hloader, hholds, hmap, _⟩ := exists_run_pollAll s.now h
      rw [hloads, same] at hloader hmap
      refine ⟨_, ⟨moves, held', hloader, hholds, hmap⟩, ?_⟩
      simp only [pollJob, JobState.loads]
      split <;> simp [withLoader, ended]
    | loading asked =>
      obtain ⟨⟨place, load⟩, rest, rfl, rfl, hrest⟩ := List.map_eq_cons_iff.mp hloads
      obtain rfl := List.map_eq_nil_iff.mp hrest
      rw [List.append_assoc] at h
      obtain ⟨moves, hloader, hholds⟩ := exists_run_poll_held s.now h
      rw [same] at hloader hholds
      refine ⟨([(Loader.poll s.now load s.loader).1], (Loader.poll s.now load s.loader).2),
        ⟨moves, [(place, (Loader.poll s.now load s.loader).1)], hloader, ?_, rfl⟩, ?_⟩
      · rw [List.append_assoc]
        exact hholds
      · simp only [pollJob]
        split <;> simp [withLoader, ended, JobState.loads]
    | loadingAll loads =>
      obtain ⟨moves, held', hloader, hholds, hmap, _⟩ := exists_run_pollAll s.now h
      rw [hloads, same] at hloader hmap
      refine ⟨_, ⟨moves, held', hloader, hholds, hmap⟩, ?_⟩
      simp only [pollJob, JobState.loads]
      split <;> simp [withLoader, ended]
    | ended instant result =>
      exact ⟨([], s.loader), ⟨[], held, same, h, hloads⟩, rfl, .inl rfl⟩
  obtain ⟨moves, held', hloader, hholds, hmap⟩ := hpolled
  obtain ⟨more, held'', hloader', hholds', hmap'⟩ := exists_run_keep hholds hmap hstate.2
  refine ⟨moves ++ more, held'', ?_, ?_, hmap'⟩
  · rw [run_append, hloader', hloader, hstate.1]
  · rw [run_append]
    exact hholds'

/-- Polling jobs in order. The loads of `before` belong to jobs that were polled already. -/
theorem exists_run_pollLoads (jobs : List Job) (before : List (Nat × Load)) {s : Session}
    {traffic : LoadTraffic} {held : List (Nat × Load)} (same : traffic.loader = s.loader)
    (h : traffic.Holds (before ++ held)) (hloads : held.map (·.2) = loadsOf jobs) :
    ∃ moves held', (traffic.run moves).loader = (pollJobs jobs s).2.loader ∧
      (traffic.run moves).Holds (before ++ held') ∧
      held'.map (·.2) = loadsOf (pollJobs jobs s).1 := by
  induction jobs generalizing s traffic before held with
  | nil => exact ⟨[], held, same, h, hloads⟩
  | cons job jobs ih =>
    simp only [loadsOf, List.flatMap_cons] at hloads
    obtain ⟨own, rest, rfl, hown, hrest⟩ := List.map_eq_append_iff.mp hloads
    rw [← List.append_assoc] at h
    obtain ⟨moves, own', hloader, hholds, hown'⟩ := s.exists_run_pollJob job.state same h hown
    obtain ⟨more, rest', hloader', hholds', hrest'⟩ := ih _ hloader hholds hrest
    refine ⟨moves ++ more, own' ++ rest', ?_, ?_, ?_⟩
    · rw [run_append]
      exact hloader'
    · rw [run_append, ← List.append_assoc]
      exact hholds'
    · simp only [pollJobs, loadsOf, List.flatMap_cons, List.map_append, hown', hrest']

/-- Whether the traffic of the loader of the first session goes on to be that of the second. -/
def ContinuesLoads (s after : Session) : Prop :=
  ∀ traffic, s.FollowsLoads traffic → ∃ moves, after.FollowsLoads (traffic.run moves)

/-- The traffic of a session's loader goes on to be its own without a move. -/
theorem ContinuesLoads.refl (s : Session) : s.ContinuesLoads s := fun _ h => ⟨[], h⟩

/-- Traffic of loaders that goes on twice goes on. -/
theorem ContinuesLoads.trans {s middle after : Session} (first : s.ContinuesLoads middle)
    (second : middle.ContinuesLoads after) : s.ContinuesLoads after := by
  intro traffic h
  obtain ⟨moves, h⟩ := first traffic h
  obtain ⟨more, h⟩ := second (traffic.run moves) h
  refine ⟨moves ++ more, ?_⟩
  rw [LoadTraffic.run_append]
  exact h

/-- What concerns neither the loader nor the loads is not seen in the traffic. -/
theorem ContinuesLoads.of_same {s after : Session} (loader : after.loader = s.loader)
    (loads : loadsOf after.jobs = loadsOf s.jobs) : s.ContinuesLoads after := by
  rintro traffic ⟨hloader, held, hholds, hmap⟩
  exact ⟨[], hloader.trans loader.symm, held, hholds, hmap.trans loads.symm⟩

/-- To drop a job is to drop its calls. -/
theorem continuesLoads_drop (s : Session) (name : JobName) :
    s.ContinuesLoads (s.drop name) := by
  rintro traffic ⟨hloader, held, hholds, hmap⟩
  have hsub : (loadsOf (s.drop name).jobs).Sublist (held.map (·.2)) := by
    rw [hmap, loadsOf, loadsOf]
    exact List.filter_sublist.flatMap _
  obtain ⟨kept, hkept, hloads⟩ := List.sublist_map_iff.mp hsub
  obtain ⟨moves, hsame, hholds'⟩ := exists_run_drop [] hkept hholds
  exact ⟨moves, hsame.trans hloader, kept, hholds', hloads.symm⟩

/-- A job that nobody waits for any more keeps its calls. -/
theorem loadsOf_detach (s : Session) (name : JobName) :
    loadsOf (s.detach name).jobs = loadsOf s.jobs := by
  simp only [loadsOf, detach, List.flatMap_map]
  congr 1
  funext job
  split <;> rfl

/-- Polling a session comes to moves of its calls. -/
theorem continuesLoads_poll (s : Session) : s.ContinuesLoads s.poll := by
  rintro traffic ⟨hloader, held, hholds, hmap⟩
  obtain ⟨moves, held', hloader', hholds', hmap'⟩ :=
    exists_run_pollLoads s.jobs [] hloader hholds hmap
  exact ⟨moves, hloader', held', hholds', hmap'⟩

/-- A job that begins calls for its bundles, in order. -/
theorem exists_run_call (names : List String) {traffic : LoadTraffic} {held : List (Nat × Load)}
    (h : traffic.Holds held) :
    ∃ moves held', (traffic.run moves).loader = traffic.loader ∧
      (traffic.run moves).Holds (held ++ held') ∧ held'.map (·.2) = names.map .requested := by
  induction names generalizing traffic held with
  | nil => exact ⟨[], [], rfl, by rw [List.append_nil]; exact h, rfl⟩
  | cons name names ih =>
    obtain ⟨moves, held', hloader, hholds, hmap⟩ := ih (h.call name)
    refine ⟨.call name :: moves, (traffic.calls.length, .requested name) :: held', hloader, ?_, ?_⟩
    · rw [List.append_assoc] at hholds
      exact hholds
    · simp [hmap]

/-- A job that begins asks for some bundles, and leaves the loader alone. -/
theorem exists_requested (s : Session) (request : JobRequest) :
    (s.beginJob request).2.loader = s.loader ∧ (s.beginJob request).2.jobs = s.jobs ∧
      ∃ names : List String, (s.beginJob request).1.loads = names.map .requested := by
  cases request with
  | load bundle => exact ⟨rfl, rfl, [bundle], rfl⟩
  | loadAll bundles => exact ⟨rfl, rfl, bundles, rfl⟩
  | navigate target =>
    cases hresolved : (s.navigator.begin target).1.resolved with
    | ok route =>
      simp only [beginJob, hresolved]
      exact ⟨trivial, trivial, route.dependencies, rfl⟩
    | error e =>
      simp only [beginJob, hresolved]
      exact ⟨trivial, trivial, [], rfl⟩

/-- To begin a job is to make its calls. -/
theorem continuesLoads_withJob (s : Session) (name : JobName) (request : JobRequest) :
    s.ContinuesLoads (s.withJob name request) := by
  rintro traffic ⟨hloader, held, hholds, hmap⟩
  obtain ⟨hsame, hjobs, names, hnames⟩ := s.exists_requested request
  obtain ⟨moves, held', hloader', hholds', hmap'⟩ := exists_run_call names hholds
  refine ⟨moves, ?_, held ++ held', hholds', ?_⟩
  · rw [hloader', hloader]
    exact hsame.symm
  · simp only [withJob, hjobs, loadsOf, List.flatMap_append, List.flatMap_cons, List.flatMap_nil,
      List.append_nil, hnames, List.map_append, hmap', hmap]

/-- Whatever is done with a session, the traffic of its loader goes on. -/
theorem kept_continuesLoads : Kept ContinuesLoads where
  refl := ContinuesLoads.refl
  trans := ContinuesLoads.trans
  detach := fun s name => ContinuesLoads.of_same rfl (loadsOf_detach s name)
  withJob := continuesLoads_withJob
  poll := continuesLoads_poll
  drop := continuesLoads_drop
  clock := fun s now => ContinuesLoads.of_same rfl rfl
  watchdog := by
    intro s change
    unfold changeWatchdog
    split
    · exact ContinuesLoads.refl s
    · exact ContinuesLoads.of_same rfl rfl
  serve := fun s services => ContinuesLoads.of_same rfl rfl

/-- **The loader of a session goes through traffic**, whatever is done with the session, so that loads are
single-flight. -/
theorem exists_loadTraffic (registry : BundleRegistry) (debug : Bool) (plan : FetchPlan)
    (navigator : Navigator) (watchdog : Option Watchdog) (uses : List SessionUse) :
    ∃ moves, (uses.foldl apply
        (Session.start navigator (Loader.start registry debug plan) watchdog)).FollowsLoads
          ((LoadTraffic.start registry debug plan).run moves) ∧
      ((LoadTraffic.start registry debug plan).run moves).SingleFlight := by
  have hstart : (Session.start navigator (Loader.start registry debug plan) watchdog).FollowsLoads
      (LoadTraffic.start registry debug plan) :=
    ⟨rfl, [], ⟨List.nodup_nil, by simp [LoadTraffic.start, callAt]⟩, rfl⟩
  obtain ⟨moves, h⟩ := kept_continuesLoads.uses uses _ _ hstart
  exact ⟨moves, h, ((orderly_start registry debug plan).run moves).singleFlight⟩

/-- Between two uses of a session no call is being advanced. -/
theorem FollowsLoads.not_noticed {s : Session} {traffic : LoadTraffic} (h : s.FollowsLoads traffic) (run : Nat) :
    ¬ traffic.Noticed run := by
  rintro ⟨place, name, hcall⟩
  obtain ⟨_, held, hholds, _⟩ := h
  obtain ⟨load, _, heq⟩ := (hholds.calls place _).mp hcall
  cases heq

/-- Whether each bundle of which a run has succeeded is loaded, and stays so whatever is done with the session. -/
def KeepsLoads (s : Session) : Prop :=
  ∀ (run : Nat) r, s.loader.runs[run]? = some r → r.status = .succeeded →
    ∀ more : List SessionUse, (more.foldl apply s).loader.isLoaded r.definition.name = true

/-- A session whose loader goes through traffic keeps its loads. -/
theorem FollowsLoads.keepsLoads {s : Session} {traffic : LoadTraffic} (h : s.FollowsLoads traffic)
    (orderly : traffic.Orderly) : s.KeepsLoads := by
  intro run r hr hsucceeded more
  rw [← h.1] at hr
  have hloaded := (orderly.loaded_or_noticed hr hsucceeded).resolve_right (h.not_noticed run)
  obtain ⟨moves, hfollows⟩ := kept_continuesLoads.uses more s traffic h
  rw [← hfollows.1]
  exact (traffic.grows_run moves).loaded _ hloaded

end Session

/-- **Loads are single-flight**, whatever calls there are and however they overlap, and whatever is done with a
session, each bundle of which a run has succeeded is loaded from then on. -/
theorem LoadTraffic.single_flight (registry : BundleRegistry) (debug : Bool) (plan : FetchPlan) :
    (∀ moves, ((LoadTraffic.start registry debug plan).run moves).SingleFlight) ∧
      ∀ (navigator : Navigator) (watchdog : Option Watchdog) (uses : List SessionUse),
        (uses.foldl Session.apply
          (Session.start navigator (Loader.start registry debug plan) watchdog)).KeepsLoads := by
  refine ⟨fun moves => ((orderly_start registry debug plan).run moves).singleFlight, ?_⟩
  intro navigator watchdog uses
  obtain ⟨moves, hfollows, _⟩ := Session.exists_loadTraffic registry debug plan navigator watchdog uses
  exact hfollows.keepsLoads ((orderly_start registry debug plan).run moves)

end AdminConsole
