import AdminConsole.Proofs.Navigation.Traffic
import AdminConsole.Proofs.Route.Outcomes

/-!
# What navigations owe to their resolutions

A navigator changes its services in three ways only: its resolutions run guards, a navigation that fails is
reported, and somebody else works on them. So what all of these keep holds of the services at any time, and what
all resolutions come to under it is what all navigations have come to, however they overlap. The active route is
one of theirs. Main statements: `Traffic.Within` is kept when a navigation begins, when it ends, and when somebody works
on the services.
-/

set_option autoImplicit false

namespace AdminConsole

namespace Navigator

/-- Every target is resolved by the table, from one destination or another. -/
theorem exists_destination (n : Navigator) (target : NavigationTarget) :
    ∃ destination, n.resolve target = n.table.resolve destination n.services := by
  cases target with
  | path path query => exact ⟨.path path query, rfl⟩
  | url url => exact ⟨.path (RouteUrl.split url).1 (RouteUrl.split url).2, rfl⟩
  | location location =>
    exact ⟨.path (RouteUrl.split (n.mode.routeUrl location)).1
      (RouteUrl.split (n.mode.routeUrl location)).2, rfl⟩
  | route name params => exact ⟨.route name params, rfl⟩

/-- How the end of a navigation comes about: it fails, and the error is reported; it was overtaken, and
nothing happens; or it makes its route the active one. -/
inductive Concluded (n : Navigator) (navigation : Navigation) (loads : Except BundleError Unit) :
    Except RouterError NavigationOutcome × Navigator → Prop where
  | refused (e : RouterError) (resolved : navigation.resolved = .error e) :
      Concluded n navigation loads (.error e, n.report e)
  | failed (route : ResolvedRoute) (e : BundleError) (resolved : navigation.resolved = .ok route)
      (failure : loads = .error e) (latest : navigation.ticket = n.lastTicket) :
      Concluded n navigation loads
        (.error (.dependencyLoad route.name e), n.report (.dependencyLoad route.name e))
  | superseded (route : ResolvedRoute) (resolved : navigation.resolved = .ok route)
      (overtaken : navigation.ticket ≠ n.lastTicket) :
      Concluded n navigation loads (.ok .superseded, n)
  | activated (route : ResolvedRoute) (resolved : navigation.resolved = .ok route)
      (success : loads = .ok ()) (latest : navigation.ticket = n.lastTicket) :
      Concluded n navigation loads (.ok (.activated route), { n with active := some route })

/-- Every navigation ends in one of these ways. -/
theorem concluded (n : Navigator) (navigation : Navigation) (loads : Except BundleError Unit) :
    Concluded n navigation loads (n.conclude navigation loads) := by
  cases hresolved : navigation.resolved with
  | error e =>
    have hconclude : n.conclude navigation loads = (.error e, n.report e) := by
      simp only [conclude, hresolved, fail]
    rw [hconclude]
    exact .refused e hresolved
  | ok route =>
    have hconclude : n.conclude navigation loads = n.finish navigation.ticket route loads := by
      simp only [conclude, hresolved]
    rw [hconclude]
    by_cases hlast : navigation.ticket = n.lastTicket
    · have hfresh : n.isStale navigation.ticket = false := by simp [isStale, hlast]
      unfold finish
      rw [hfresh]
      cases loads with
      | error e => exact .failed route e hresolved rfl hlast
      | ok _ => exact .activated route hresolved rfl hlast
    · have hstale : n.isStale navigation.ticket = true := by
        rw [isStale, bne_iff_ne]
        exact fun e => hlast e.symm
      unfold finish
      rw [hstale]
      exact .superseded route hresolved hlast

end Navigator

namespace Traffic

/-- Whether the services have a property, and all navigations were resolved to results of some kind. -/
structure Within (t : RouteTable) (Holds : GuardServices → Prop)
    (Good : Except RouterError ResolvedRoute → Prop) (s : Traffic) : Prop where
  table : s.navigator.table = t
  services : Holds s.navigator.services
  underway : ∀ navigation ∈ s.underway, Good navigation.resolved
  ended : ∀ navigation loads result, .ended navigation loads result ∈ s.history →
    Good navigation.resolved
  active : ∀ route, s.navigator.active = some route → Good (.ok route)

/-- Before anybody navigates, the services have the property, and nothing was resolved. -/
theorem within_start (t : RouteTable) (mode : LocationMode) {services : GuardServices}
    {Holds : GuardServices → Prop} (Good : Except RouterError ResolvedRoute → Prop)
    (holds : Holds services) : (start t mode services).Within t Holds Good where
  table := rfl
  services := holds
  underway := by simp [start]
  ended := by simp [start]
  active := by simp [start, Navigator.start]

namespace Within

variable {t : RouteTable} {Holds : GuardServices → Prop}
  {Good : Except RouterError ResolvedRoute → Prop} {s : Traffic}

/-- The property is kept when a navigation begins, as its resolution keeps it. -/
theorem enter (h : s.Within t Holds Good) (keeps : t.Keeps Holds Good)
    (target : NavigationTarget) : (s.enter target).Within t Holds Good := by
  obtain ⟨destination, hdestination⟩ := s.navigator.exists_destination target
  rw [h.table] at hdestination
  obtain ⟨hservices, hresult⟩ := keeps destination s.navigator.services h.services
  rw [← hdestination] at hservices hresult
  refine ⟨h.table, hservices, ?_, ?_, h.active⟩
  · intro navigation hmem
    rcases List.mem_append.mp hmem with hmem | hmem
    · exact h.underway navigation hmem
    · rw [List.mem_singleton.mp hmem]
      exact hresult
  · intro navigation loads result hmem
    rcases List.mem_append.mp hmem with hmem | hmem
    · exact h.ended navigation loads result hmem
    · cases List.mem_singleton.mp hmem

/-- What the end of a navigation leaves of the navigator. -/
theorem conclude (h : s.Within t Holds Good)
    (reports : ∀ services message, Holds services →
      Holds (services.report .error Navigator.failureMessage message))
    {navigation : Navigation} (good : Good navigation.resolved) (loads : Except BundleError Unit) :
    (s.navigator.conclude navigation loads).2.table = t ∧
      Holds (s.navigator.conclude navigation loads).2.services ∧
      ∀ route, (s.navigator.conclude navigation loads).2.active = some route → Good (.ok route) := by
  have hconcluded := s.navigator.concluded navigation loads
  generalize s.navigator.conclude navigation loads = after at hconcluded
  cases hconcluded with
  | refused e resolved => exact ⟨h.table, reports _ _ h.services, h.active⟩
  | failed route e resolved failure latest => exact ⟨h.table, reports _ _ h.services, h.active⟩
  | superseded route resolved overtaken => exact ⟨h.table, h.services, h.active⟩
  | activated route resolved success latest =>
    refine ⟨h.table, h.services, ?_⟩
    intro active hactive
    cases hactive
    rw [← resolved]
    exact good

/-- The property is kept when a navigation ends, as a report keeps it. -/
theorem leave (h : s.Within t Holds Good)
    (reports : ∀ services message, Holds services →
      Holds (services.report .error Navigator.failureMessage message))
    {navigation : Navigation} (hmem : navigation ∈ s.underway) (loads : Except BundleError Unit) :
    (s.leave navigation loads).Within t Holds Good := by
  have hgood := h.underway navigation hmem
  obtain ⟨htable, hservices, hactive⟩ := h.conclude reports hgood loads
  refine ⟨htable, hservices, ?_, ?_, hactive⟩
  · intro other hother
    exact h.underway other (List.mem_filter.mp hother).1
  · intro other loads' result hother
    rcases List.mem_append.mp hother with hother | hother
    · exact h.ended other loads' result hother
    · cases List.mem_singleton.mp hother
      exact hgood

/-- The property is kept when somebody leaves services that have it. -/
theorem serve (h : s.Within t Holds Good) {services : GuardServices} (holds : Holds services) :
    (s.step (.serve services)).Within t Holds Good :=
  ⟨h.table, holds, h.underway, h.ended, h.active⟩

end Within

end Traffic

end AdminConsole
