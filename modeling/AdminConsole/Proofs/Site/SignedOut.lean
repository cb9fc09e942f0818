import AdminConsole.Proofs.Navigation.JointTraffic
import AdminConsole.Site.Routes

/-!
# What users see who are not signed in

Every page of the console but the login and logout pages stands below the layout `pages`, whose guard sends users
who are not signed in to the login page before any other guard runs. So whatever such a user tries, no page but
these two becomes active, nothing is fetched and nothing is opened outside the console. What has to be looked at
for that are the names of the routes alone, which is done once for the whole list.
-/

set_option autoImplicit false

namespace AdminConsole

open RouteDefinition

namespace Site

/-! ## The console's table -/

/-- The name of the layout around all pages. -/
def layoutName : String := "pages"

/-- The pages that are shown to everybody. -/
def openPages : List String := ["login", "logout"]

/-- Whether a route stands below the layout. -/
def isInside (d : RouteDefinition) : Bool :=
  (ancestorNames d.name).head? == some layoutName

/-- Whether a route is a page that is shown to everybody, and neither runs a guard nor needs a bundle. -/
def isOpen (d : RouteDefinition) : Bool :=
  openPages.contains d.name && (ancestorNames d.name).isEmpty && d.guard.isNone &&
    d.dependencies.isEmpty

/-- Every route that can be activated stands below the layout or is shown to everybody. -/
theorem isInside_or_isOpen :
    (routes.all fun d => d.isLayout || isInside d || isOpen d) = true := by
  decide +kernel

/-- The layout requires a signed-in user. -/
theorem guard_layout : (find? routes layoutName).bind (·.guard) = some requireLogin := rfl

/-- The first guard of a route below the layout is the one that requires a signed-in user. -/
theorem guards_of_isInside {d : RouteDefinition} (h : isInside d = true) :
    ∃ others, (d.chain routes).filterMap (·.guard) = requireLogin :: others := by
  have hhead : (ancestorNames d.name).head? = some layoutName := by simpa [isInside] using h
  obtain ⟨others, hnames⟩ := List.head?_eq_some_iff.mp hhead
  obtain ⟨layout, hlayout, hguard⟩ := Option.bind_eq_some_iff.mp guard_layout
  refine ⟨(others.filterMap (find? routes) ++ [d]).filterMap (·.guard), ?_⟩
  rw [chain, hnames, List.filterMap_cons_some hlayout, List.cons_append,
    List.filterMap_cons_some hguard]

/-- A page that is shown to everybody is one of the two, stands alone, and has neither a guard nor dependencies. -/
theorem of_isOpen {d : RouteDefinition} (h : isOpen d = true) :
    d.name ∈ openPages ∧ d.chain routes = [d] ∧ d.guard = none ∧ d.dependencies = [] := by
  simp only [isOpen, Bool.and_eq_true, List.contains_iff_mem, List.isEmpty_iff,
    Option.isNone_iff_eq_none] at h
  obtain ⟨⟨⟨hname, hnames⟩, hguard⟩, hdependencies⟩ := h
  exact ⟨hname, by rw [chain, hnames]; rfl, hguard, hdependencies⟩

/-- No guard runs before a page that is shown to everybody. -/
theorem guards_of_isOpen {t : RouteTable} (wf : t.Built routes) {r : CompiledRoute} (hr : r ∈ t.routes)
    (h : isOpen r.definition = true) : r.guards = [] := by
  obtain ⟨_, hself, hguard, _⟩ := of_isOpen h
  simp [CompiledRoute.guards, (wf.compiled r hr).chain, hself, hguard]

/-- **What an activation comes to** for a user who is not signed in: it is sent to the login page, or it is one
of a page that is shown to everybody. -/
theorem activateWith_of_signedOut {t : RouteTable} (wf : t.Built routes) {r : CompiledRoute}
    (hr : r ∈ t.routes) (concrete : r.definition.isLayout = false) (params : RouteParams)
    {services : GuardServices} (signedOut : services.signedIn = false) :
    r.activateWith params services = (.redirect r.name (toRoute "login"), services) ∨
      ∃ route : ResolvedRoute, r.activateWith params services = (.resolved route, services) ∧
        route.name ∈ openPages ∧ route.dependencies = [] := by
  have hchain := (wf.compiled r hr).chain
  have hdependencies := (wf.compiled r hr).dependencies
  have hshape := List.all_eq_true.mp isInside_or_isOpen r.definition (wf.definition_mem hr)
  rw [concrete, Bool.false_or, Bool.or_eq_true] at hshape
  rcases hshape with hinside | hopen
  · obtain ⟨others, hguards⟩ := guards_of_isInside hinside
    have hfirst : r.guards = requireLogin :: others := by
      rw [CompiledRoute.guards, hchain]
      exact hguards
    left
    simp [CompiledRoute.activateWith, hfirst, Guard.runAll, requireLogin, signedOut,
      Guard.redirectTo]
  · obtain ⟨hname, hself, _, hneeds⟩ := of_isOpen hopen
    rw [hself] at hchain
    have hnone := guards_of_isOpen wf hr hopen
    have hnothing : r.dependencies = [] := by simp [hdependencies, hchain, hneeds]
    refine .inr ⟨{
      definition := r.definition
      params
      metadata := r.metadata
      dependencies := r.dependencies
      redirects := [] }, ?_, hname, hnothing⟩
    simp only [CompiledRoute.activateWith, hnone, Guard.runAll, Guard.proceed]

/-! ## Resolutions -/

/-- Whether nobody is signed in, and these pages were opened outside the console. -/
def SignedOut (opened : List (String × String)) (services : GuardServices) : Prop :=
  services.signedIn = false ∧ services.opened = opened

/-- Whether a resolution comes to nothing but a page that is shown to everybody. -/
def ShownToAll (resolved : Except RouterError ResolvedRoute) : Prop :=
  ∀ route, resolved = .ok route → route.name ∈ openPages ∧ route.dependencies = []

/-- **A resolution for a user who is not signed in** comes to nothing but the login and logout pages, and opens
nothing. -/
theorem keeps_signedOut {t : RouteTable} (wf : t.Built routes) (opened : List (String × String)) :
    t.Keeps (SignedOut opened) ShownToAll := by
  have hstep : ∀ destination services found after, SignedOut opened services →
      t.step destination services = .ok (found, after) → after = services ∧
        ∀ route, found = .resolved route → route.name ∈ openPages ∧ route.dependencies = [] := by
    intro destination services found after hsigned h
    rw [RouteTable.step_eq_arrival] at h
    obtain ⟨⟨r, params⟩, harrival, hactivated⟩ := Result.ok_of_map h
    obtain ⟨hr, hconcrete⟩ := wf.of_arrival harrival
    rcases activateWith_of_signedOut wf hr hconcrete params hsigned.1 with
      hredirect | ⟨route, hresolved, hname, hdependencies⟩
    · rw [hredirect] at hactivated
      cases hactivated
      refine ⟨rfl, ?_⟩
      rintro route ⟨⟩
    · rw [hresolved] at hactivated
      cases hactivated
      refine ⟨rfl, ?_⟩
      rintro other ⟨⟩
      exact ⟨hname, hdependencies⟩
  apply RouteTable.keeps_of_step
  · rintro e _ route ⟨⟩
  · intro destination services found after hsigned h
    rw [(hstep destination services found after hsigned h).1]
    exact hsigned
  · intro destination services route after trail hsigned h
    rintro other ⟨⟩
    exact (hstep destination services _ after hsigned h).2 route rfl

end Site

/-! ## Navigations -/

/-- Whether an event leaves a user signed out: nobody calls for a bundle but navigations, and those who work on
the services neither sign the user in nor open a page. -/
def JointEvent.LeavesSignedOut : JointEvent → Prop
  | .load (.call _) => False
  | .serve work => ∀ services, services.signedIn = false →
      (work services).signedIn = false ∧ (work services).opened = services.opened
  | _ => True

namespace JointTraffic

/-- What users get who are not signed in. -/
structure Confined (services : GuardServices) (s : JointTraffic) : Prop where
  active : ∀ route, s.visits.navigator.active = some route → route.name = "login" ∨ route.name = "logout"
  /-- No file was requested, and no run of a bundle has begun. -/
  fetched : s.loads.loader.network.events = [] ∧ s.loads.loader.runs = []
  /-- No page was opened outside the console. -/
  opened : s.visits.navigator.services.opened = services.opened

/-- As long as nobody calls for a bundle the loader stays as it is. -/
theorem loads_step_of_signedOut {s : JointTraffic} {opened : List (String × String)} {t : RouteTable}
    (h : s.visits.Within t (Site.SignedOut opened) Site.ShownToAll)
    (keeps : t.Keeps (Site.SignedOut opened) Site.ShownToAll) (quiet : s.loads.calls = [])
    {event : JointEvent} (leaves : event.LeavesSignedOut) : (s.step event).loads = s.loads := by
  have hnone : ∀ place, s.loads.callAt place = none := by
    intro place
    simp [LoadTraffic.callAt, quiet]
  cases event with
  | begin target =>
    have hbegun := (h.enter keeps target).underway (s.visits.navigator.begin target).1
      (by simp [Traffic.enter])
    have hnothing : (s.visits.navigator.begin target).1.dependencies = [] := by
      unfold Navigation.dependencies
      split
      · rename_i route hresolved
        exact (hbegun route hresolved).2
      · rfl
    have hloads : (s.step (.begin target)).loads =
        s.loads.callAll (s.visits.navigator.begin target).1.dependencies := rfl
    rw [hloads, hnothing]
    rfl
  | look ticket =>
    simp only [JointTraffic.step]
    split
    · rfl
    · split <;> rfl
  | load move =>
    cases move with
    | call name => exact absurd leaves id
    | enter place => simp [JointTraffic.step, LoadTraffic.step, hnone]
    | poll place now => simp [JointTraffic.step, LoadTraffic.step, hnone]
    | leave place => simp [JointTraffic.step, LoadTraffic.step, hnone]
    | drop place => simp [JointTraffic.step, LoadTraffic.step, hnone]
  | serve work => rfl

/-- While nobody signs in, navigations come to the open pages alone, and no bundle is called for. -/
theorem confined_run {t : RouteTable} (wf : t.Built Site.routes) {services : GuardServices}
    {s : JointTraffic} (h : s.visits.Within t (Site.SignedOut services.opened) Site.ShownToAll)
    (quiet : s.loads.calls = []) (events : List JointEvent)
    (leaves : ∀ event ∈ events, event.LeavesSignedOut) :
    (s.run events).visits.Within t (Site.SignedOut services.opened) Site.ShownToAll ∧
      (s.run events).loads = s.loads := by
  have hkeeps := Site.keeps_signedOut wf services.opened
  have hreports : ∀ other message, Site.SignedOut services.opened other →
      Site.SignedOut services.opened (other.report .error Navigator.failureMessage message) :=
    fun _ _ hsigned => hsigned
  have houtside : ∀ work, .serve work ∈ events → ∀ other, Site.SignedOut services.opened other →
      Site.SignedOut services.opened (work other) := by
    intro work hmem other hsigned
    obtain ⟨hstays, hopened⟩ := leaves _ hmem other hsigned.1
    exact ⟨hstays, hopened.trans hsigned.2⟩
  refine ⟨within_run h hkeeps hreports events houtside, ?_⟩
  induction events generalizing s with
  | nil => rfl
  | cons event events ih =>
    obtain ⟨hevent, hrest⟩ := List.forall_mem_cons.mp leaves
    have hloads := loads_step_of_signedOut h hkeeps quiet hevent
    have hstep := within_run h hkeeps hreports [event] fun work hmem =>
      houtside work (by rw [List.mem_singleton.mp hmem]; exact List.mem_cons_self)
    have hcalls : (s.step event).loads.calls = [] := by rw [hloads, quiet]
    exact (ih hstep hcalls hrest fun work hmem => houtside work (List.mem_cons_of_mem event hmem)).trans
      hloads

/-- Services for a user who is not signed in. -/
def visitor : GuardServices :=
  { signedIn := false, session := Dictionary.empty, serverPath := "",
    diagnostics := Diagnostics.withSink 1, opened := [], notes := [] }

/-- A visitor tries a page that would open another one, and one that needs the server's release, which arrives
in between. -/
def attempts : List JointEvent :=
  [.begin (.url "/customView/guide?url=http://localhost/"),
    .serve fun services => { services with session := services.session.insert Site.releaseKey "9" },
    .begin (.route "pages.iaf_update" Dictionary.empty), .look 2, .look 1]

/-- The console's table is built, and shows the visitor the login page. -/
theorem visitor_sees_login :
    ∃ t route, Site.table = .ok t ∧
      ((start t .hash visitor Site.bundles false fun _ _ => ⟨0, none⟩).run
        attempts).visits.navigator.active = some route ∧ route.name = "login" := by
  have hcheck : Site.table.toOption.map (fun t =>
      ((start t .hash visitor Site.bundles false fun _ _ => ⟨0, none⟩).run
        attempts).visits.navigator.active.map (·.name)) = some (some "login") := by
    decide +kernel
  obtain ⟨t, htable, hresult⟩ := Option.map_eq_some_iff.mp hcheck
  obtain ⟨route, hroute, hname⟩ := Option.map_eq_some_iff.mp hresult
  exact ⟨t, route, Result.ok_of_toOption htable, hroute, hname⟩

/-- **Users who are not signed in are confined** to the login and logout pages, whatever they try and however
their navigations overlap: the console's table is built, and at any time no other page is active, no file was
fetched and nothing was opened. -/
theorem signed_out_confined :
    ∃ t, Site.table = .ok t ∧ ∀ (mode : LocationMode) (services : GuardServices) (debug : Bool)
      (plan : FetchPlan) (events : List JointEvent), services.signedIn = false →
      (∀ event ∈ events, event.LeavesSignedOut) →
      ((start t mode services Site.bundles debug plan).run events).Confined services := by
  obtain ⟨t, _, hbuilt, _⟩ := visitor_sees_login
  obtain ⟨wf, _⟩ := RouteTable.of_build hbuilt
  refine ⟨t, hbuilt, ?_⟩
  intro mode services debug plan events signedOut leaves
  have hstart : (start t mode services Site.bundles debug plan).visits.Within t
      (Site.SignedOut services.opened) Site.ShownToAll :=
    Traffic.within_start t mode _ ⟨signedOut, rfl⟩
  obtain ⟨hwithin, hloads⟩ := confined_run wf hstart rfl events leaves
  refine ⟨?_, ?_, hwithin.services.2⟩
  · intro route hactive
    have hname := (hwithin.active route hactive route rfl).1
    simpa [Site.openPages] using hname
  · rw [hloads]
    exact ⟨rfl, rfl⟩

/-- The visitor is confined. -/
theorem signed_out_confined_visitor :
    ∃ t route, Site.table = .ok t ∧ visitor.signedIn = false ∧
      (∀ event ∈ attempts, event.LeavesSignedOut) ∧
      ((start t .hash visitor Site.bundles false fun _ _ => ⟨0, none⟩).run
        attempts).visits.navigator.active = some route ∧ route.name = "login" ∧
      ((start t .hash visitor Site.bundles false fun _ _ => ⟨0, none⟩).run attempts).Confined
        visitor := by
  obtain ⟨t, htable, hconfined⟩ := signed_out_confined
  obtain ⟨other, route, hother, hactive, hname⟩ := visitor_sees_login
  obtain rfl : t = other := Except.ok.inj (htable.symm.trans hother)
  have leaves : ∀ event ∈ attempts, event.LeavesSignedOut := by
    simp [attempts, JointEvent.LeavesSignedOut]
  exact ⟨t, route, htable, rfl, leaves, hactive, hname,
    hconfined .hash visitor false (fun _ _ => ⟨0, none⟩) attempts rfl leaves⟩

end JointTraffic

end AdminConsole
