import AdminConsole.Proofs.Navigation.JointTraffic
import AdminConsole.Proofs.Route.Outcomes

/-!
# An active route has its bundles

Whatever happens to a navigator and its loader, each route that ever became active has all bundles that it and
its registered ancestors need: they are marked as loaded, each was fetched as a whole by one of its runs, and
the marks stay. A route that needs a bundle nobody registered is never activated. What carries this is
`JointTraffic.Sound`: a navigation activates its route only when all its calls have returned without an error,
and such a call was for a bundle that is loaded. The active route of a session has its bundles for the same reason
(`Session.bundles_of_active`).
-/

set_option autoImplicit false

namespace AdminConsole

namespace JointTraffic

/-- Whether a route has the bundles it needs, now and for all that may follow. -/
structure Equipped (s : JointTraffic) (route : ResolvedRoute) : Prop where
  loaded : ∀ name ∈ route.dependencies, s.loads.loader.isLoaded name = true
  /-- One single run of each bundle has fetched all its files. -/
  whole : ∀ name ∈ route.dependencies, s.loads.loader.FetchedWhole name
  /-- The marks are never taken away. -/
  kept : ∀ name ∈ route.dependencies, ∀ events, (s.run events).loads.loader.isLoaded name = true

namespace Sound

variable {registry : BundleRegistry} {s : JointTraffic}

/-- A route whose dependencies are loaded has all it needs. -/
theorem equipped (h : s.Sound registry) {route : ResolvedRoute}
    (loaded : ∀ name ∈ route.dependencies, s.loads.loader.isLoaded name = true) :
    s.Equipped route where
  loaded := loaded
  whole := fun name hname => h.truthful.accounted.fetchedWhole h.loads.coherent (loaded name hname)
  kept := fun name hname events => (s.grows_run events).loaded name (loaded name hname)

/-- The active route is that of the last activation, so it has its bundles. -/
theorem equipped_of_active (h : s.Sound registry) {route : ResolvedRoute}
    (active : s.visits.navigator.active = some route) : s.Equipped route := by
  rw [h.visits.active, Option.map_eq_some_iff] at active
  obtain ⟨activation, hlast, rfl⟩ := active
  obtain ⟨navigation, loads, hended, _⟩ :=
    NavigationHistory.ended_of_mem_activations (List.mem_of_getLast? hlast)
  exact h.equipped (h.activated navigation loads activation.2 hended).2

/-- A bundle that was fetched whole is registered. -/
theorem registered (h : s.Sound registry) {name : String}
    (whole : s.loads.loader.FetchedWhole name) : registry.get? name ≠ none := by
  obtain ⟨definition, _, hregistered, _⟩ := whole
  rw [h.registry] at hregistered
  rw [hregistered]
  exact Option.some_ne_none definition

end Sound

/-- What it means that routes become active with their bundles only. -/
structure Provided (definitions : List RouteDefinition) (registry : BundleRegistry)
    (s : JointTraffic) : Prop where
  /-- Each route that a navigation has activated has its bundles. -/
  activated : ∀ navigation loads route,
    .ended navigation loads (.ok (.activated route)) ∈ s.visits.history → s.Equipped route
  active : ∀ route, s.visits.navigator.active = some route → s.Equipped route
  /-- The bundles of a route that a navigation was resolved to are its own and those of its registered
  ancestors. -/
  needed : ∀ navigation loads result route name, .ended navigation loads result ∈ s.visits.history →
    navigation.resolved = .ok route →
      (name ∈ route.dependencies ↔ route.definition.Needs definitions name)
  /-- What is loaded stays loaded. -/
  kept : ∀ name, s.loads.loader.isLoaded name = true →
    ∀ events, (s.run events).loads.loader.isLoaded name = true
  /-- A navigation to a route that needs a bundle nobody registered activates nothing. -/
  unregistered : ∀ navigation loads result route name,
    .ended navigation loads result ∈ s.visits.history → navigation.resolved = .ok route →
      route.definition.Needs definitions name → registry.get? name = none →
        ∀ other, result ≠ .ok (.activated other)

/-- **A route becomes active with its bundles only**, however navigations, loads and fetches overlap. -/
theorem provided {definitions : List RouteDefinition} {defaultPath : String} {t : RouteTable}
    (built : RouteTable.build definitions defaultPath = .ok t) (mode : LocationMode)
    (services : GuardServices) (registry : BundleRegistry) (debug : Bool) (plan : FetchPlan)
    (events : List JointEvent) :
    ((start t mode services registry debug plan).run events).Provided definitions registry := by
  obtain ⟨wf, _⟩ := RouteTable.of_build built
  have hsound := (sound_start t mode services registry debug plan).run events
  have hkeeps : t.Keeps (fun _ => True) fun resolved => ∀ route, resolved = .ok route →
      ∀ name, name ∈ route.dependencies ↔ route.definition.Needs definitions name := by
    intro destination found _
    exact ⟨trivial, fun route hroute => wf.mem_dependencies_iff hroute⟩
  have hwithin := within_run (s := start t mode services registry debug plan)
    (Traffic.within_start t mode _ trivial) hkeeps (fun _ _ _ => trivial) events
    fun _ _ _ _ => trivial
  generalize (start t mode services registry debug plan).run events = s at hsound hwithin
  refine ⟨?_, fun route hactive => hsound.equipped_of_active hactive, ?_,
    fun name hname more => (s.grows_run more).loaded name hname, ?_⟩
  · intro navigation loads route hended
    exact hsound.equipped (hsound.activated navigation loads route hended).2
  · intro navigation loads result route name hended hresolved
    exact hwithin.ended navigation loads result hended route hresolved name
  · rintro navigation loads result route name hended hresolved hneeds hnone other rfl
    obtain ⟨hroute, hloaded⟩ := hsound.activated navigation loads other hended
    obtain rfl : other = route := Except.ok.inj (hroute.symm.trans hresolved)
    have hname := (hwithin.ended navigation loads _ hended other hresolved name).mpr hneeds
    have hwhole := (hsound.equipped hloaded).whole name hname
    exact hsound.registered hwhole hnone

/-- A page that needs a bundle, below a layout that needs another one. -/
def chartRoutes : List RouteDefinition :=
  [(RouteDefinition.named "home").withUrl "/",
    ((RouteDefinition.named "admin").withUrl "/admin").asLayout.withDependency "tables",
    ((RouteDefinition.named "admin.charts").withUrl "/charts").withDependency "charts"]

/-- The bundles of the page. -/
def chartBundles : BundleRegistry :=
  BundleRegistry.ofList [⟨"tables", true, ["tables.js"]⟩, ⟨"charts", false, ["charts.js", "charts.css"]⟩]

/-- The page is activated after its two calls have gone through their moments. -/
def chartEvents : List JointEvent :=
  [.begin (.url "/admin/charts"), .load (.enter 0), .load (.enter 1), .load (.poll 1 0), .load (.leave 1),
    .look 1, .load (.poll 0 0), .load (.leave 0), .look 1]

/-- A page that needs two bundles becomes active when both have been loaded. -/
theorem provided_charts :
    ∃ t route, RouteTable.build chartRoutes "/" = .ok t ∧
      ((start t .hash RouteTable.signedInServices chartBundles false fun _ _ => ⟨0, none⟩).run
        chartEvents).visits.navigator.active = some route ∧
      route.name = "admin.charts" ∧ route.dependencies = ["tables", "charts"] ∧
      ((start t .hash RouteTable.signedInServices chartBundles false fun _ _ => ⟨0, none⟩).run
        chartEvents).Provided chartRoutes chartBundles := by
  have hcheck : (RouteTable.build chartRoutes "/").toOption.map (fun t =>
      ((start t .hash RouteTable.signedInServices chartBundles false fun _ _ => ⟨0, none⟩).run
        chartEvents).visits.navigator.active.map fun route => (route.name, route.dependencies)) =
        some (some ("admin.charts", ["tables", "charts"])) := by
    decide +kernel
  obtain ⟨t, htable, hresult⟩ := Option.map_eq_some_iff.mp hcheck
  obtain ⟨route, hroute, hfacts⟩ := Option.map_eq_some_iff.mp hresult
  have hbuild := Result.ok_of_toOption htable
  obtain ⟨hname, hdependencies⟩ := Prod.mk.inj hfacts
  exact ⟨t, route, hbuild, hroute, hname, hdependencies,
    provided hbuild .hash RouteTable.signedInServices chartBundles false (fun _ _ => ⟨0, none⟩)
      chartEvents⟩

end JointTraffic

end AdminConsole
