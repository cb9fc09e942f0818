import AdminConsole.Proofs.Navigation.JointTraffic
import AdminConsole.Proofs.Session.LoadTraffic
import AdminConsole.Proofs.Session.NavigationTraffic

/-!
# Polling the jobs of a session

A job of a session that navigates waits for calls at its own places. When it is polled these are advanced, and
then it looks what they have come to; if it ends they are dropped. Other jobs only advance their calls. So a
session that polls its jobs does nothing that joint traffic does not allow. Main statement:
`Session.exists_run_pollJointly`.

The traffic of the navigator and that of the loader alone have been found in sessions before. What is new here is
that both are found together, with the calls of each navigation at its own places (`Session.Aligned`).
-/

set_option autoImplicit false

namespace AdminConsole

/-- Two lists of computations that are in the same state come to the same. -/
theorem Join.outcome_congr {α β γ ε : Type} {status : α → Progress ε} {status' : β → Progress ε}
    {f : γ → α} {g : γ → β} (mode : JoinMode) {items : List γ}
    (h : ∀ item ∈ items, status (f item) = status' (g item)) :
    Join.outcome mode status (items.map f) = Join.outcome mode status' (items.map g) := by
  induction items with
  | nil => rfl
  | cons item items ih =>
    obtain ⟨hfirst, hrest⟩ := List.forall_mem_cons.mp h
    simp only [List.map_cons, Join.outcome, hfirst, ih hrest]

namespace LoadTraffic

/-- Calls that are held come to the same at their places and as loads. -/
theorem Holds.statusOf_eq {s : LoadTraffic} {before own after : List (Nat × Load)}
    (h : s.Holds (before ++ own ++ after)) :
    s.statusOf (own.map (·.1)) = Loader.statusAll (own.map (·.2)) := by
  unfold statusOf Loader.statusAll
  rw [List.length_map, List.length_map]
  apply Join.outcome_congr
  rintro ⟨place, load⟩ hmem
  have hcall : s.callAt place = some ⟨load, false⟩ :=
    (h.calls place _).mpr ⟨load, by simp [hmem], rfl⟩
  simp only [statusAt, hcall]

/-- Calls for some bundles at the places from `first` on. -/
def asked (first : Nat) (names : List String) : List (Nat × Load) :=
  (List.range' first names.length).zip (names.map .requested)

/-- The calls for some bundles have only been made. -/
theorem map_snd_asked (first : Nat) (names : List String) :
    (asked first names).map (·.2) = names.map .requested := by
  simp [asked, List.map_snd_zip]

/-- The calls for some bundles have places in a row. -/
theorem map_fst_asked (first : Nat) (names : List String) :
    (asked first names).map (·.1) = List.range' first names.length := by
  simp [asked, List.map_fst_zip]

/-- Calls that are made together are held after the others. -/
theorem Holds.callAll {s : LoadTraffic} {held : List (Nat × Load)} (h : s.Holds held)
    (names : List String) : (s.callAll names).Holds (held ++ asked s.calls.length names) := by
  induction names generalizing s held with
  | nil => simpa [LoadTraffic.callAll, LoadTraffic.run, asked] using h
  | cons name names ih =>
    have hlength : (s.step (.call name)).calls.length = s.calls.length + 1 := by simp [step]
    have hrest := ih (h.call name)
    rw [hlength, List.append_assoc] at hrest
    exact hrest

end LoadTraffic

namespace JointTraffic

/-- Moves at the loader are events. -/
theorem run_load (s : JointTraffic) (moves : List LoadMove) :
    s.run (moves.map .load) = { s with loads := s.loads.run moves } := by
  induction moves generalizing s with
  | nil => rfl
  | cons move moves ih => exact ih (s.step (.load move))

end JointTraffic

namespace Session

open LoadTraffic

/-- Whether calls are those that the jobs wait for, with the calls of each navigation at its own places. -/
def Aligned (placesOf : Navigation → List Nat) : List Job → List (Nat × Load) → Prop
  | [], held => held = []
  | job :: jobs, held => ∃ own rest, held = own ++ rest ∧ own.map (·.2) = job.state.loads ∧
      (∀ navigation, job.state.navigation? = some navigation →
        own.map (·.1) = placesOf navigation) ∧ Aligned placesOf jobs rest

/-- Whether joint traffic shows what the navigator and the loader of a session went through, where these are the
jobs that follow those whose navigations are `navigations` and whose calls are `before`. -/
structure ShowsJobs (s : Session) (jobs : List Job) (joint : JointTraffic)
    (navigations : List Navigation) (before : List (Nat × Load)) : Prop where
  orderly : joint.visits.Orderly
  navigator : joint.visits.navigator = s.navigator
  loader : joint.loads.loader = s.loader
  underway : (navigations ++ navigationsOf jobs).Sublist joint.visits.underway
  held : ∃ held, joint.loads.Holds (before ++ held) ∧ Aligned joint.placesOf jobs held

/-- Whether joint traffic shows what the navigator and the loader of the session went through. -/
def FollowsJointly (s : Session) (joint : JointTraffic) : Prop :=
  s.ShowsJobs s.jobs joint [] []

/-! ## Polling jobs -/

/-- What polling a job comes to in joint traffic: its calls are advanced, and its navigation goes on or ends. -/
structure PolledJob (s : Session) (state : JobState) (joint joint' : JointTraffic)
    (before own' after : List (Nat × Load)) : Prop where
  loader : joint'.loads.loader = (s.pollJob state).2.loader
  firstCall : joint'.firstCall = joint.firstCall
  holds : joint'.loads.Holds (before ++ own' ++ after)
  loads : own'.map (·.2) = (s.pollJob state).1.loads
  places : ∀ navigation, (s.pollJob state).1.navigation? = some navigation →
    own'.map (·.1) = joint.placesOf navigation
  visits : (s.pollJob state).1.navigation? = state.navigation? ∧ joint'.visits = joint.visits ∧
      (s.pollJob state).2.navigator = s.navigator ∨
    ∃ navigation loads, state.navigation? = some navigation ∧
      (s.pollJob state).1.navigation? = none ∧ joint'.visits = joint.visits.leave navigation loads ∧
      (s.pollJob state).2.navigator = (s.navigator.conclude navigation loads).2

/-- Polling a job that does not navigate comes to events of the joint traffic: moves of its calls. -/
theorem exists_polled_other (s : Session) {state : JobState} (other : state.navigation? = none)
    {joint : JointTraffic} {before own after : List (Nat × Load)}
    (same : joint.loads.loader = s.loader) (h : joint.loads.Holds (before ++ own ++ after))
    (hloads : own.map (·.2) = state.loads) :
    ∃ events own', PolledJob s state joint (joint.run events) before own' after := by
  obtain ⟨moves, own', hloader, hholds, hmap⟩ := s.exists_run_pollJob state same h hloads
  obtain ⟨hstate, hnavigator⟩ : (s.pollJob state).1.navigation? = state.navigation? ∧
      (s.pollJob state).2.navigator = s.navigator := by
    rcases pollJob_navigator s state with ⟨navigation, loads, hsome, _⟩ | hsame
    · rw [other] at hsome
      cases hsome
    · exact hsame
  refine ⟨moves.map .load, own', ?_⟩
  rw [JointTraffic.run_load]
  refine ⟨hloader, rfl, hholds, hmap, ?_, .inl ⟨hstate, rfl, hnavigator⟩⟩
  intro navigation hnavigation
  rw [hstate, other] at hnavigation
  cases hnavigation

/-- **Polling a navigation** advances its calls and lets it look; if it ends its calls are dropped. -/
theorem exists_polled_navigating (s : Session) {ticket : Nat} {route : ResolvedRoute}
    {loads : List Load} {joint : JointTraffic} {before own after : List (Nat × Load)}
    (orderly : joint.visits.Orderly) (underway : ⟨ticket, .ok route⟩ ∈ joint.visits.underway)
    (same : joint.loads.loader = s.loader) (h : joint.loads.Holds (before ++ own ++ after))
    (hloads : own.map (·.2) = loads) (hplaces : own.map (·.1) = joint.placesOf ⟨ticket, .ok route⟩) :
    ∃ events own',
      PolledJob s (.navigating ticket route loads) joint (joint.run events) before own' after := by
  obtain ⟨moves, polled, hloader, hholds, hmap, hstay⟩ := exists_run_pollAll s.now h
  rw [hloads, same] at hloader hmap
  have hrun := joint.run_load moves
  have hprogress : (joint.run (moves.map .load)).progress ⟨ticket, .ok route⟩ =
      Loader.statusAll (Loader.pollAll s.now loads s.loader).1 := by
    rw [← hmap, ← hholds.statusOf_eq, hstay, hplaces, hrun]
    rfl
  cases hsettled : loadResult? (Loader.statusAll (Loader.pollAll s.now loads s.loader).1) with
  | none =>
    have hpoll : s.pollJob (.navigating ticket route loads) =
        (.navigating ticket route (Loader.pollAll s.now loads s.loader).1,
          s.withLoader (Loader.pollAll s.now loads s.loader).2) := by
      simp only [pollJob, hsettled]
    refine ⟨moves.map .load, polled, ?_⟩
    rw [hrun]
    constructor
    case loader => rw [hpoll]; exact hloader
    case firstCall => rfl
    case holds => exact hholds
    case loads => rw [hpoll]; exact hmap
    case places =>
      rw [hpoll]
      rintro navigation ⟨⟩
      rw [hstay, hplaces]
    case visits =>
      rw [hpoll]
      exact .inl ⟨rfl, rfl, rfl⟩
  | some result =>
    -- The calls have ended, so the navigation that looks ends too and lets go of them.
    have hpoll : s.pollJob (.navigating ticket route loads) =
        (s.ended (.navigated (s.navigator.finish ticket route result).1),
          { s.withLoader (Loader.pollAll s.now loads s.loader).2 with
            navigator := (s.navigator.finish ticket route result).2 }) := by
      simp only [pollJob, hsettled]
      rfl
    rw [List.append_assoc] at hholds
    obtain ⟨drops, hdropped, hrest⟩ :=
      exists_run_drop before (List.sublist_append_right polled after) hholds
    have horderly : (joint.run (moves.map .load)).visits.Orderly := by
      rw [hrun]
      exact orderly
    have hmem : ⟨ticket, .ok route⟩ ∈ (joint.run (moves.map .load)).visits.underway := by
      rw [hrun]
      exact underway
    have hlook := JointTraffic.step_look horderly hmem (hprogress ▸ hsettled)
    refine ⟨moves.map .load ++ (.look ticket :: drops.map .load), [], ?_⟩
    rw [JointTraffic.run_append, JointTraffic.run, List.foldl_cons, hlook, hrun]
    have hdrop := JointTraffic.run_load
      { joint with loads := joint.loads.run moves,
                   visits := joint.visits.leave ⟨ticket, .ok route⟩ result } drops
    rw [JointTraffic.run] at hdrop
    rw [hdrop]
    constructor
    case loader => rw [hpoll]; exact hdropped.trans hloader
    case firstCall => rfl
    case holds => simpa using hrest
    case loads => rw [hpoll]; rfl
    case places =>
      rw [hpoll]
      rintro navigation ⟨⟩
    case visits =>
      rw [hpoll]
      exact .inr ⟨⟨ticket, .ok route⟩, result, rfl, rfl, rfl, rfl⟩

/-- Polling any job comes to events of the joint traffic. -/
theorem exists_polledJob (s : Session) {state : JobState} {joint : JointTraffic}
    {before own after : List (Nat × Load)} (orderly : joint.visits.Orderly)
    (underway : ∀ navigation, state.navigation? = some navigation →
      navigation ∈ joint.visits.underway)
    (same : joint.loads.loader = s.loader) (h : joint.loads.Holds (before ++ own ++ after))
    (hloads : own.map (·.2) = state.loads)
    (hplaces : ∀ navigation, state.navigation? = some navigation →
      own.map (·.1) = joint.placesOf navigation) :
    ∃ events own', PolledJob s state joint (joint.run events) before own' after := by
  cases state with
  | navigating ticket route loads =>
    exact s.exists_polled_navigating orderly (underway _ rfl) same h hloads (hplaces _ rfl)
  | loading load => exact s.exists_polled_other rfl same h hloads
  | loadingAll loads => exact s.exists_polled_other rfl same h hloads
  | ended instant result => exact s.exists_polled_other rfl same h hloads

/-- The navigations of some jobs are that of the first one, if it has one, and those of the others. -/
theorem navigationsOf_cons (job : Job) (jobs : List Job) :
    navigationsOf (job :: jobs) = job.state.navigation?.toList ++ navigationsOf jobs := by
  simp only [navigationsOf, List.filterMap_cons]
  cases job.state.navigation? <;> rfl

/-- After a job was polled, what follows it is shown as before. -/
theorem PolledJob.shows {s : Session} {job : Job} {jobs : List Job} {joint joint' : JointTraffic}
    {before own' rest : List (Nat × Load)} {navigations : List Navigation}
    (h : PolledJob s job.state joint joint' before own' rest) (orderly : joint.visits.Orderly)
    (navigator : joint.visits.navigator = s.navigator)
    (underway : (navigations ++ navigationsOf (job :: jobs)).Sublist joint.visits.underway)
    (aligned : Aligned joint.placesOf jobs rest) :
    (s.pollJob job.state).2.ShowsJobs jobs joint'
      (navigations ++ (s.pollJob job.state).1.navigation?.toList) (before ++ own') := by
  have hplaces : joint'.placesOf = joint.placesOf := by
    funext navigation
    rw [JointTraffic.placesOf, h.firstCall, JointTraffic.placesOf]
  have hheld : ∃ held, joint'.loads.Holds (before ++ own' ++ held) ∧
      Aligned joint'.placesOf jobs held := by
    rw [hplaces]
    exact ⟨rest, h.holds, aligned⟩
  rw [navigationsOf_cons] at underway
  rcases h.visits with ⟨hstate, hvisits, hnavigator⟩ |
    ⟨navigation, loads, hstate, hended, hvisits, hnavigator⟩
  · refine ⟨hvisits ▸ orderly, ?_, h.loader, ?_, hheld⟩
    · rw [hvisits, navigator, hnavigator]
    · rw [hstate, hvisits, List.append_assoc]
      exact underway
  · -- The navigation of the job has ended, and the others are still under way.
    rw [hstate] at underway
    have hmem : navigation ∈ joint.visits.underway := underway.subset (by simp)
    refine ⟨hvisits ▸ orderly.leave hmem loads, ?_, h.loader, ?_, hheld⟩
    · rw [hvisits, hnavigator, ← navigator]
      rfl
    · rw [hvisits, hended, Option.toList_none, List.append_nil]
      exact sublist_leave orderly underway loads

/-- **Polling jobs in order** is a number of events, and calls that were made stay where they are. -/
theorem exists_run_pollJointly {jobs : List Job} {s : Session} {joint : JointTraffic}
    {navigations : List Navigation} {before : List (Nat × Load)}
    (h : s.ShowsJobs jobs joint navigations before) :
    ∃ events, (joint.run events).firstCall = joint.firstCall ∧
      (pollJobs jobs s).2.ShowsJobs (pollJobs jobs s).1 (joint.run events) navigations before := by
  induction jobs generalizing s joint navigations before with
  | nil => exact ⟨[], rfl, h⟩
  | cons job jobs ih =>
    obtain ⟨orderly, navigator, loader, underway, held, hholds, own, rest, rfl, hown, hplaces,
      hrest⟩ := h
    have hmem : ∀ navigation, job.state.navigation? = some navigation →
        navigation ∈ joint.visits.underway := by
      intro navigation hnavigation
      rw [navigationsOf_cons, hnavigation] at underway
      exact underway.subset (by simp)
    rw [← List.append_assoc] at hholds
    obtain ⟨events, own', hpolled⟩ :=
      s.exists_polledJob orderly hmem loader hholds hown hplaces
    obtain ⟨more, hfirst, hshows⟩ := ih (hpolled.shows orderly navigator underway hrest)
    obtain ⟨orderly', navigator', loader', underway', rest', hholds', hrest'⟩ := hshows
    have hcalls : (joint.run (events ++ more)).firstCall = joint.firstCall := by
      rw [JointTraffic.run_append, hfirst, hpolled.firstCall]
    refine ⟨events ++ more, hcalls, ?_⟩
    rw [JointTraffic.run_append] at hcalls ⊢
    simp only [pollJobs]
    refine ⟨orderly', navigator', loader', ?_, own' ++ rest', ?_, own', rest', rfl, hpolled.loads, ?_,
      hrest'⟩
    · rw [navigationsOf_cons, ← List.append_assoc]
      exact underway'
    · rw [← List.append_assoc]
      exact hholds'
    · intro navigation hnavigation
      rw [hpolled.places navigation hnavigation, JointTraffic.placesOf, JointTraffic.placesOf, hcalls]

end Session

end AdminConsole
