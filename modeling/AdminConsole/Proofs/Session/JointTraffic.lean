import AdminConsole.Proofs.Navigation.Equipped
import AdminConsole.Proofs.Session.JointPolling

/-!
# Navigations and loads of a session

The navigator of a session and its loader go through joint traffic: a job that navigates begins a navigation and
calls for the bundles of its route, polls let it go on or end, and its calls are dropped with it. So what holds of
joint traffic holds of sessions. Main statements: whatever is done with a session is a number of events of joint
traffic, and the active route of a session has its bundles.
-/

set_option autoImplicit false

namespace AdminConsole

namespace Session

open LoadTraffic

/-! ## What can be done with a session -/

/-- Whether the joint traffic of the first session goes on to be that of the second. -/
def ContinuesJointly (s after : Session) : Prop :=
  ∀ joint, s.FollowsJointly joint → ∃ events, after.FollowsJointly (joint.run events)

/-- The joint traffic of a session goes on to be its own without an event. -/
theorem ContinuesJointly.refl (s : Session) : s.ContinuesJointly s := fun _ h => ⟨[], h⟩

/-- Joint traffic that goes on twice goes on. -/
theorem ContinuesJointly.trans {s middle after : Session} (first : s.ContinuesJointly middle)
    (second : middle.ContinuesJointly after) : s.ContinuesJointly after := by
  intro joint h
  obtain ⟨events, h⟩ := first joint h
  obtain ⟨more, h⟩ := second (joint.run events) h
  refine ⟨events ++ more, ?_⟩
  rw [JointTraffic.run_append]
  exact h

/-- Polling a session comes to events of its joint traffic. -/
theorem continuesJointly_poll (s : Session) : s.ContinuesJointly s.poll := by
  intro joint h
  obtain ⟨events, _, orderly, navigator, loader, underway, hheld⟩ := exists_run_pollJointly h
  exact ⟨events, orderly, navigator, loader, underway, hheld⟩

/-- Services may be changed at any time. -/
theorem ContinuesJointly.of_services {s after : Session} {services : GuardServices}
    (navigator : after.navigator = { s.navigator with services })
    (loader : after.loader = s.loader) (jobs : after.jobs = s.jobs) : s.ContinuesJointly after := by
  rintro joint ⟨orderly, hnavigator, hloader, underway, hheld⟩
  refine ⟨[.serve fun _ => services], ?_⟩
  unfold FollowsJointly
  rw [jobs]
  refine ⟨orderly.serve services, ?_, hloader.trans loader.symm, underway, hheld⟩
  rw [navigator, ← hnavigator]
  rfl

/-- Calls stay aligned when jobs change and keep their states. -/
theorem aligned_map {placesOf : Navigation → List Nat} {change : Job → Job}
    (keeps : ∀ job, (change job).state = job.state) {jobs : List Job} {held : List (Nat × Load)}
    (h : Aligned placesOf jobs held) : Aligned placesOf (jobs.map change) held := by
  induction jobs generalizing held with
  | nil => exact h
  | cons job jobs ih =>
    obtain ⟨own, rest, hheld, hown, hplaces, hrest⟩ := h
    rw [← keeps job] at hown hplaces
    exact ⟨own, rest, hheld, hown, hplaces, ih hrest⟩

/-- A job that nobody waits for any more goes on in the same joint traffic. -/
theorem continuesJointly_detach (s : Session) (name : JobName) :
    s.ContinuesJointly (s.detach name) := by
  rintro joint ⟨orderly, navigator, loader, underway, held, hholds, haligned⟩
  refine ⟨[], orderly, navigator, loader, ?_, held, hholds, aligned_map ?_ haligned⟩
  · rw [navigationsOf_detach]
    exact underway
  · intro job
    split <;> rfl

/-- The calls of the jobs that stay stand among those of all jobs. -/
theorem exists_aligned_filter {placesOf : Navigation → List Nat} (stays : Job → Bool)
    {jobs : List Job} {held : List (Nat × Load)} (h : Aligned placesOf jobs held) :
    ∃ kept, kept.Sublist held ∧ Aligned placesOf (jobs.filter stays) kept := by
  induction jobs generalizing held with
  | nil => exact ⟨held, List.Sublist.refl held, h⟩
  | cons job jobs ih =>
    obtain ⟨own, rest, rfl, hown, hplaces, hrest⟩ := h
    obtain ⟨kept, hsub, hkept⟩ := ih hrest
    cases hstays : stays job with
    | true =>
      rw [List.filter_cons_of_pos hstays]
      exact ⟨own ++ kept, hsub.append_left own, own, kept, rfl, hown, hplaces, hkept⟩
    | false =>
      rw [List.filter_cons_of_neg (by simp [hstays])]
      exact ⟨kept, hsub.trans (List.sublist_append_right own rest), hkept⟩

/-- To drop a job is to drop its calls. -/
theorem continuesJointly_drop (s : Session) (name : JobName) :
    s.ContinuesJointly (s.drop name) := by
  rintro joint ⟨orderly, navigator, loader, underway, held, hholds, haligned⟩
  obtain ⟨kept, hsub, hkept⟩ := exists_aligned_filter (fun job => job.name != name) haligned
  obtain ⟨moves, hloader, hholds'⟩ := exists_run_drop [] hsub hholds
  refine ⟨moves.map .load, ?_⟩
  rw [JointTraffic.run_load]
  refine ⟨orderly, navigator, hloader.trans loader, ?_, kept, hholds', hkept⟩
  exact (List.filter_sublist.filterMap _).trans underway

/-! ## Jobs that begin -/

/-- Calls fit the jobs as long as the navigations of these have the same places. -/
theorem aligned_congr {placesOf placesOf' : Navigation → List Nat} {jobs : List Job}
    {held : List (Nat × Load)} (h : Aligned placesOf jobs held)
    (same : ∀ navigation ∈ navigationsOf jobs, placesOf' navigation = placesOf navigation) :
    Aligned placesOf' jobs held := by
  induction jobs generalizing held with
  | nil => exact h
  | cons job jobs ih =>
    obtain ⟨own, rest, hheld, hown, hplaces, hrest⟩ := h
    rw [navigationsOf_cons] at same
    refine ⟨own, rest, hheld, hown, ?_, ih hrest fun navigation hmem => same navigation (by simp [hmem])⟩
    intro navigation hnavigation
    rw [same navigation (by simp [hnavigation])]
    exact hplaces navigation hnavigation

/-- The calls of a job that begins come after all others. -/
theorem aligned_concat {placesOf : Navigation → List Nat} {jobs : List Job} {job : Job}
    {held own : List (Nat × Load)} (h : Aligned placesOf jobs held)
    (hown : own.map (·.2) = job.state.loads)
    (hplaces : ∀ navigation, job.state.navigation? = some navigation →
      own.map (·.1) = placesOf navigation) :
    Aligned placesOf (jobs ++ [job]) (held ++ own) := by
  induction jobs generalizing held with
  | nil =>
    obtain rfl : held = [] := h
    exact ⟨own, [], by simp, hown, hplaces, rfl⟩
  | cons first jobs ih =>
    obtain ⟨firstOwn, rest, rfl, hfirst, hfirstPlaces, hrest⟩ := h
    exact ⟨firstOwn, rest ++ own, by simp, hfirst, hfirstPlaces, ih hrest⟩

/-- A job that only loads calls for its bundles. -/
theorem exists_begun_loads (s : Session) (name : JobName) (names : List String) {state : JobState}
    (loads : state.loads = names.map .requested) (other : state.navigation? = none) :
    s.ContinuesJointly { s with jobs := s.jobs ++ [⟨name, state⟩] } := by
  rintro joint ⟨orderly, navigator, loader, underway, held, hholds, haligned⟩
  refine ⟨(names.map LoadMove.call).map .load, ?_⟩
  rw [JointTraffic.run_load]
  refine ⟨orderly, navigator, ?_, ?_, held ++ asked joint.loads.calls.length names,
    hholds.callAll names, aligned_concat haligned ?_ ?_⟩
  · exact (joint.loads.loader_callAll names).trans loader
  · rw [navigationsOf_concat, other, Option.toList_none, List.append_nil]
    exact underway
  · rw [map_snd_asked, loads]
  · intro navigation hnavigation
    cases other.symm.trans hnavigation

/-- What a navigation that begins does to joint traffic. -/
theorem ShowsJobs.enter {s : Session} {joint : JointTraffic} (h : s.FollowsJointly joint)
    (target : NavigationTarget) :
    (joint.enter target).visits.navigator = (s.navigator.begin target).2.2 ∧
      (joint.enter target).loads.loader = s.loader ∧
      (navigationsOf s.jobs ++ [(s.navigator.begin target).1]).Sublist
        (joint.enter target).visits.underway ∧
      ∃ held own, (joint.enter target).loads.Holds (held ++ own) ∧
        Aligned (joint.enter target).placesOf s.jobs held ∧
        own.map (·.2) = (s.navigator.begin target).1.dependencies.map .requested ∧
        own.map (·.1) = (joint.enter target).placesOf (s.navigator.begin target).1 := by
  obtain ⟨orderly, navigator, loader, underway, held, hholds, haligned⟩ := h
  rw [← navigator]
  refine ⟨rfl, (joint.loads.loader_callAll _).trans loader, underway.append (List.Sublist.refl _),
    held, asked joint.loads.calls.length (joint.visits.navigator.begin target).1.dependencies,
    hholds.callAll _, ?_, map_snd_asked _ _, ?_⟩
  · -- The new ticket is none of those given out before, so the other calls stay where they are.
    apply aligned_congr haligned
    intro navigation hmem
    have hbegun := orderly.ticket_le (orderly.pending navigation (underway.subset hmem))
    have hne : navigation.ticket ≠ (joint.visits.navigator.begin target).1.ticket := by
      simp only [Navigator.begin]
      omega
    rw [JointTraffic.placesOf, joint.firstCall_enter_of_ne hne, JointTraffic.placesOf]
  · rw [map_fst_asked, JointTraffic.placesOf, joint.firstCall_enter_self]

/-- A navigation job begins its navigation and calls for its bundles when it is launched. If its target was
refused it looks at once. -/
theorem continuesJointly_navigate (s : Session) (name : JobName) (target : NavigationTarget) :
    s.ContinuesJointly (s.withJob name (.navigate target)) := by
  intro joint h
  have horderly := h.orderly.enter target
  obtain ⟨hnavigator, hloader, hunderway, held, own, hholds, haligned, hown, hplaces⟩ :=
    ShowsJobs.enter h target
  cases hresolved : (s.navigator.begin target).1.resolved with
  | ok route =>
    have hnavigation : (s.navigator.begin target).1 =
        ⟨(s.navigator.begin target).1.ticket, .ok route⟩ := by rw [← hresolved]
    have hafter : s.withJob name (.navigate target) =
        { s with
          navigator := (s.navigator.begin target).2.2
          warnings := s.warnings ++ (s.navigator.begin target).2.1.map .ambiguous
          jobs := s.jobs ++ [⟨name, .navigating (s.navigator.begin target).1.ticket route
            (route.dependencies.map .requested)⟩] } := by
      simp only [withJob, beginJob, hresolved]
    rw [hafter]
    rw [hnavigation] at hunderway hown hplaces
    refine ⟨[.begin target], horderly, hnavigator, hloader, ?_, held ++ own, hholds,
      aligned_concat haligned hown ?_⟩
    · rw [navigationsOf_concat]
      exact hunderway
    · rintro navigation ⟨⟩
      exact hplaces
  | error e =>
    -- A refused target has no bundles, so the navigation ends with its first look.
    have hafter : s.withJob name (.navigate target) =
        { s with
          navigator := ((s.navigator.begin target).2.2.conclude (s.navigator.begin target).1
            (.ok ())).2
          warnings := s.warnings ++ (s.navigator.begin target).2.1.map .ambiguous
          jobs := s.jobs ++ [⟨name, s.ended (.navigated (.error e))⟩] } := by
      simp only [withJob, beginJob, hresolved, Navigator.conclude]
      rfl
    have hmem : (s.navigator.begin target).1 ∈ (joint.enter target).visits.underway :=
      hunderway.subset (by simp)
    have hlook := JointTraffic.step_look (s := joint.enter target) horderly hmem
      ((joint.enter target).loadResult?_of_refused hresolved)
    obtain rfl : own = [] := by
      rw [Navigation.dependencies, hresolved] at hown
      exact List.map_eq_nil_iff.mp hown
    rw [hafter]
    refine ⟨[.begin target, .look (s.navigator.begin target).1.ticket], ?_⟩
    rw [JointTraffic.run, List.foldl_cons, List.foldl_cons, List.foldl_nil, JointTraffic.step, hlook]
    refine ⟨horderly.leave hmem _, ?_, hloader, ?_, held ++ [], hholds,
      aligned_concat haligned rfl ?_⟩
    · rw [← hnavigator]
      rfl
    · rw [navigationsOf_concat]
      exact sublist_leave horderly hunderway _
    · rintro navigation ⟨⟩

/-- To begin a job is to begin its navigation, or to make its calls. -/
theorem continuesJointly_withJob (s : Session) (name : JobName) (request : JobRequest) :
    s.ContinuesJointly (s.withJob name request) := by
  cases request with
  | navigate target => exact s.continuesJointly_navigate name target
  | load bundle => exact s.exists_begun_loads name [bundle] rfl rfl
  | loadAll bundles => exact s.exists_begun_loads name bundles rfl rfl

/-- Whatever is done with a session, its joint traffic goes on. -/
theorem kept_continuesJointly : Kept ContinuesJointly where
  refl := ContinuesJointly.refl
  trans := ContinuesJointly.trans
  detach := continuesJointly_detach
  withJob := continuesJointly_withJob
  poll := continuesJointly_poll
  drop := continuesJointly_drop
  clock := fun _ _ _ ⟨orderly, navigator, loader, underway, hheld⟩ =>
    ⟨[], orderly, navigator, loader, underway, hheld⟩
  watchdog := by
    intro s change
    unfold changeWatchdog
    split
    · exact ContinuesJointly.refl s
    · exact ContinuesJointly.of_services rfl rfl rfl
  serve := fun _ _ => ContinuesJointly.of_services rfl rfl rfl

/-- **Navigator and loader of a session go through joint traffic**, whatever is done with the session. -/
theorem exists_jointTraffic (table : RouteTable) (mode : LocationMode) (services : GuardServices)
    (registry : BundleRegistry) (debug : Bool) (plan : FetchPlan) (watchdog : Option Watchdog)
    (uses : List SessionUse) :
    ∃ events, (uses.foldl apply (Session.start (Navigator.start table mode services)
        (Loader.start registry debug plan) watchdog)).FollowsJointly
          ((JointTraffic.start table mode services registry debug plan).run events) := by
  have hstart : (Session.start (Navigator.start table mode services)
      (Loader.start registry debug plan) watchdog).FollowsJointly
        (JointTraffic.start table mode services registry debug plan) :=
    ⟨Traffic.orderly_start table mode services, rfl, rfl, List.Sublist.slnil, [],
      ⟨List.nodup_nil, by simp [JointTraffic.start, LoadTraffic.start, callAt]⟩, rfl⟩
  exact kept_continuesJointly.uses uses _ _ hstart

/-- **The active route of a session has its bundles**, each fetched as a whole by one of its runs. -/
theorem bundles_of_active (table : RouteTable) (mode : LocationMode) (services : GuardServices)
    (registry : BundleRegistry) (debug : Bool) (plan : FetchPlan) (watchdog : Option Watchdog)
    (uses : List SessionUse) {after : Session}
    (hafter : after = uses.foldl apply (Session.start (Navigator.start table mode services)
      (Loader.start registry debug plan) watchdog))
    {route : ResolvedRoute} (active : after.navigator.active = some route) {name : String}
    (needed : name ∈ route.dependencies) :
    after.loader.isLoaded name = true ∧ after.loader.FetchedWhole name := by
  obtain ⟨events, hfollows⟩ :=
    exists_jointTraffic table mode services registry debug plan watchdog uses
  rw [← hafter] at hfollows
  have hsound :=
    (JointTraffic.sound_start table mode services registry debug plan).run events
  rw [← hfollows.navigator] at active
  have hequipped := hsound.equipped_of_active active
  rw [← hfollows.loader]
  exact ⟨hequipped.loaded name needed, hequipped.whole name needed⟩

end Session

end AdminConsole
