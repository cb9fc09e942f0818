import AdminConsole.Proofs.Navigation.LatestWins
import AdminConsole.Proofs.Session.Uses

/-!
# The navigations of a session

A session does nothing to its navigator that traffic does not allow: a navigation job takes its ticket when
it is launched and ends at one of the polls, and otherwise only the services change. So what holds of the
traffic of every navigator holds of the navigator of every session. Main statement: each thing that can be
done with a session is a number of events for its navigator.
-/

set_option autoImplicit false

namespace AdminConsole

/-- The navigation of a job that has not ended. -/
def JobState.navigation? : JobState → Option Navigation
  | .navigating ticket route _ => some ⟨ticket, .ok route⟩
  | _ => none

namespace Session

/-- The navigations of the jobs of a list. -/
def navigationsOf (jobs : List Job) : List Navigation :=
  jobs.filterMap fun job => job.state.navigation?

/-- The navigation of the last job comes after those of the others. -/
theorem navigationsOf_concat (jobs : List Job) (job : Job) :
    navigationsOf (jobs ++ [job]) = navigationsOf jobs ++ job.state.navigation?.toList := by
  rw [navigationsOf, List.filterMap_append]
  cases hjob : job.state.navigation? <;> simp [navigationsOf, hjob]

/-- Whether the traffic shows what the navigator of the session went through. -/
structure Follows (s : Session) (traffic : Traffic) : Prop where
  orderly : traffic.Orderly
  navigator : traffic.navigator = s.navigator
  jobs : (navigationsOf s.jobs).Sublist traffic.underway

/-- Polling a job either ends its navigation or leaves the navigator alone. -/
theorem pollJob_navigator (s : Session) (state : JobState) :
    (∃ navigation loads, state.navigation? = some navigation ∧
      (s.pollJob state).1.navigation? = none ∧
      (s.pollJob state).2.navigator = (s.navigator.conclude navigation loads).2) ∨
    ((s.pollJob state).1.navigation? = state.navigation? ∧
      (s.pollJob state).2.navigator = s.navigator) := by
  cases state with
  | navigating ticket route loads =>
    simp only [pollJob]
    split
    · exact .inr ⟨rfl, rfl⟩
    · rename_i result _
      exact .inl ⟨⟨ticket, .ok route⟩, result, rfl, rfl, rfl⟩
  | loading load =>
    simp only [pollJob]
    split <;> exact .inr ⟨rfl, rfl⟩
  | loadingAll loads =>
    simp only [pollJob]
    split <;> exact .inr ⟨rfl, rfl⟩
  | ended instant result => exact .inr ⟨rfl, rfl⟩

/-- Navigations that stand among those under way stand there also after another one has ended. -/
theorem sublist_leave {traffic : Traffic} (h : traffic.Orderly)
    {before after : List Navigation} {navigation : Navigation}
    (hjobs : (before ++ navigation :: after).Sublist traffic.underway)
    (loads : Except BundleError Unit) :
    (before ++ after).Sublist (traffic.leave navigation loads).underway := by
  have horder := h.order.sublist (hjobs.map (·.ticket))
  rw [List.map_append, List.map_cons, List.pairwise_append, List.pairwise_cons] at horder
  obtain ⟨_, ⟨hafter, _⟩, hbefore⟩ := horder
  have hfilter : (before ++ navigation :: after).filter
      (fun other => other.ticket != navigation.ticket) = before ++ after := by
    rw [List.filter_append, List.filter_cons_of_neg (by simp)]
    congr 1
    · rw [List.filter_eq_self]
      intro other hmem
      have hlt := hbefore other.ticket (List.mem_map_of_mem hmem) navigation.ticket
        List.mem_cons_self
      simpa using Nat.ne_of_lt hlt
    · rw [List.filter_eq_self]
      intro other hmem
      have hlt := hafter other.ticket (List.mem_map_of_mem hmem)
      simpa using Nat.ne_of_gt hlt
  rw [← hfilter]
  exact hjobs.filter _

/-- Polling jobs in order ends some of their navigations. Those of `before` belong to jobs that were polled
already. -/
theorem exists_run_pollJobs (jobs : List Job) (before : List Navigation) {s : Session}
    {traffic : Traffic} (orderly : traffic.Orderly) (same : traffic.navigator = s.navigator)
    (hjobs : (before ++ navigationsOf jobs).Sublist traffic.underway) :
    ∃ events, (traffic.run events).navigator = (pollJobs jobs s).2.navigator ∧
      (before ++ navigationsOf (pollJobs jobs s).1).Sublist (traffic.run events).underway := by
  induction jobs generalizing s traffic before with
  | nil => exact ⟨[], same, hjobs⟩
  | cons job jobs ih =>
    simp only [pollJobs, navigationsOf, List.filterMap_cons] at hjobs ⊢
    rcases pollJob_navigator s job.state with
      ⟨navigation, loads, hstate, hended, hnavigator⟩ | ⟨hstate, hnavigator⟩
    · rw [hstate] at hjobs
      have hmem : navigation ∈ traffic.underway := hjobs.subset (by simp)
      have hstep : traffic.step (.finish navigation.ticket loads) =
          traffic.leave navigation loads := by
        simp only [Traffic.step, orderly.find?_underway hmem]
      have hsame : (traffic.leave navigation loads).navigator = (s.pollJob job.state).2.navigator := by
        rw [hnavigator, ← same]
        rfl
      obtain ⟨events, hrun, hsub⟩ :=
        ih _ (orderly.leave hmem loads) hsame (sublist_leave orderly hjobs loads)
      refine ⟨.finish navigation.ticket loads :: events, ?_, ?_⟩
      · rw [Traffic.run, List.foldl_cons, hstep]
        exact hrun
      · rw [Traffic.run, List.foldl_cons, hstep, hended]
        exact hsub
    · rw [hstate]
      cases hnavigation : job.state.navigation? with
      | none =>
        rw [hnavigation] at hjobs
        exact ih _ orderly (same.trans hnavigator.symm) hjobs
      | some navigation =>
        rw [hnavigation] at hjobs
        have hmoved : (before ++ [navigation] ++ navigationsOf jobs).Sublist traffic.underway := by
          rw [List.append_assoc]
          exact hjobs
        obtain ⟨events, hrun, hsub⟩ := ih _ orderly (same.trans hnavigator.symm) hmoved
        rw [List.append_assoc] at hsub
        exact ⟨events, hrun, hsub⟩

/-! ## What can be done with a session -/

/-- Whether the traffic of the first session goes on to be traffic of the second. -/
def Continues (s after : Session) : Prop :=
  ∀ traffic, s.Follows traffic → ∃ events, after.Follows (traffic.run events)

/-- The traffic of a session goes on to be its own without an event. -/
theorem Continues.refl (s : Session) : s.Continues s := fun _ h => ⟨[], h⟩

/-- Traffic of sessions that goes on twice goes on. -/
theorem Continues.trans {s middle after : Session} (first : s.Continues middle)
    (second : middle.Continues after) : s.Continues after := by
  intro traffic h
  obtain ⟨events, h⟩ := first traffic h
  obtain ⟨more, h⟩ := second (traffic.run events) h
  refine ⟨events ++ more, ?_⟩
  rw [Traffic.run_append]
  exact h

/-- What concerns neither the navigator nor the navigations is not seen in the traffic. -/
theorem Continues.of_same {s after : Session} (navigator : after.navigator = s.navigator)
    (jobs : (navigationsOf after.jobs).Sublist (navigationsOf s.jobs)) : s.Continues after :=
  fun _ h => ⟨[], h.orderly, h.navigator.trans navigator.symm, jobs.trans h.jobs⟩

/-- Services may be changed at any time. -/
theorem Continues.of_services {s after : Session} {services : GuardServices}
    (navigator : after.navigator = { s.navigator with services })
    (jobs : after.jobs = s.jobs) : s.Continues after := by
  intro traffic h
  refine ⟨[.serve services], h.orderly.serve services, ?_, ?_⟩
  · simp only [Traffic.run, List.foldl_cons, List.foldl_nil, Traffic.step, h.navigator, navigator]
  · rw [jobs]
    exact h.jobs

/-- A job that nobody waits for any more goes on navigating. -/
theorem navigationsOf_detach (s : Session) (name : JobName) :
    navigationsOf (s.detach name).jobs = navigationsOf s.jobs := by
  simp only [navigationsOf, detach, List.filterMap_map]
  congr 1
  funext job
  simp only [Function.comp_apply]
  split <;> rfl

/-- Polling a session comes to events of its traffic. -/
theorem continues_poll (s : Session) : s.Continues s.poll := by
  intro traffic h
  obtain ⟨events, hrun, hsub⟩ :=
    exists_run_pollJobs s.jobs [] h.orderly h.navigator h.jobs
  exact ⟨events, h.orderly.run events, hrun, hsub⟩

/-- A job begins its navigation, if it has one, when it is launched. -/
theorem continues_withJob (s : Session) (name : JobName) (request : JobRequest) :
    s.Continues (s.withJob name request) := by
  cases request with
  | load bundle =>
    exact Continues.of_same rfl
      (by simp [withJob, beginJob, navigationsOf_concat, JobState.navigation?])
  | loadAll bundles =>
    exact Continues.of_same rfl
      (by simp [withJob, beginJob, navigationsOf_concat, JobState.navigation?])
  | navigate target =>
    intro traffic h
    have hlater := h.orderly.enter target
    cases hresolved : (s.navigator.begin target).1.resolved with
    | ok route =>
      refine ⟨[.begin target], hlater, ?_, ?_⟩
      · simp [withJob, beginJob, hresolved, Traffic.run, Traffic.step, Traffic.enter, h.navigator]
      · have hnavigation : (s.navigator.begin target).1 =
            ⟨(s.navigator.begin target).1.ticket, .ok route⟩ := by rw [← hresolved]
        simp only [withJob, navigationsOf_concat, beginJob, hresolved, JobState.navigation?,
          Option.toList_some, Traffic.run, List.foldl_cons, List.foldl_nil, Traffic.step,
          Traffic.enter, h.navigator]
        rw [← hnavigation]
        exact h.jobs.append (List.Sublist.refl _)
    | error e =>
      -- The target is not resolved, so the navigation ends at once.
      have hunderway : (traffic.enter target).underway =
          traffic.underway ++ (s.navigator.begin target).1 :: [] := by
        simp [Traffic.enter, h.navigator]
      have hmem : (s.navigator.begin target).1 ∈ (traffic.enter target).underway := by
        simp [hunderway]
      have hfinish : (traffic.enter target).step
          (.finish (s.navigator.begin target).1.ticket (.ok ())) =
            (traffic.enter target).leave (s.navigator.begin target).1 (.ok ()) := by
        simp only [Traffic.step, hlater.find?_underway hmem]
      have hjobs : (navigationsOf s.jobs ++ (s.navigator.begin target).1 :: []).Sublist
          (traffic.enter target).underway := by
        rw [hunderway]
        exact h.jobs.append (List.Sublist.refl _)
      refine ⟨[.begin target, .finish (s.navigator.begin target).1.ticket (.ok ())],
        h.orderly.run _, ?_, ?_⟩
      · rw [Traffic.run, List.foldl_cons, List.foldl_cons, List.foldl_nil, Traffic.step, hfinish]
        simp [Traffic.leave, Navigator.conclude, hresolved, Traffic.enter, withJob, beginJob,
          h.navigator]
      · rw [Traffic.run, List.foldl_cons, List.foldl_cons, List.foldl_nil, Traffic.step, hfinish]
        simpa [withJob, beginJob, hresolved, ended, navigationsOf_concat,
          JobState.navigation?] using sublist_leave hlater hjobs (.ok ())

/-- Whatever is done with a session, its traffic goes on. -/
theorem kept_continues : Kept Continues where
  refl := Continues.refl
  trans := Continues.trans
  detach := fun s name => Continues.of_same rfl (by rw [navigationsOf_detach])
  withJob := continues_withJob
  poll := continues_poll
  drop := fun s name => Continues.of_same rfl (List.filter_sublist.filterMap _)
  clock := fun s now => Continues.of_same rfl (List.Sublist.refl _)
  watchdog := by
    intro s change
    unfold changeWatchdog
    split
    · exact Continues.refl s
    · exact Continues.of_services rfl rfl
  serve := fun s services => Continues.of_services rfl rfl

/-- **The navigator of a session goes through traffic**, whatever is done with the session, so that the
latest navigation wins. -/
theorem exists_traffic (table : RouteTable) (mode : LocationMode) (services : GuardServices)
    (loader : Loader) (watchdog : Option Watchdog) (uses : List SessionUse) :
    ∃ events, (uses.foldl apply (start (Navigator.start table mode services) loader watchdog)).Follows
        ((Traffic.start table mode services).run events) ∧
      ((Traffic.start table mode services).run events).LatestWins := by
  have hstart : (start (Navigator.start table mode services) loader watchdog).Follows
      (Traffic.start table mode services) :=
    ⟨Traffic.orderly_start table mode services, rfl, List.Sublist.slnil⟩
  obtain ⟨events, h⟩ := kept_continues.uses uses _ _ hstart
  exact ⟨events, h, h.orderly.latestWins⟩

end Session

end AdminConsole
