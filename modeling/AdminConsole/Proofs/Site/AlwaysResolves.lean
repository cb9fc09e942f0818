import AdminConsole.Proofs.Site.SignedOut
import AdminConsole.Proofs.Site.Survey

/-!
# Every URL of the console leads to a page

Where the console's guards redirect to is plain text that nothing checks when the table is built. Users who are
not signed in are sent to the login page, which has no guards. Those who are signed in are sent to pages that
are guarded by the layout alone, which lets them pass. Main statement: every URL, and every name of a page,
resolves after one redirect at most.
-/

set_option autoImplicit false

namespace AdminConsole.Site

open RouteDefinition

/-! ## Where the guards redirect to -/

/-- The destinations to which signed-in users are sent. -/
def exits : List Destination :=
  [toRoute "pages.manage_configurations", toRoute "pages.status", .path "/status" Dictionary.empty]

/-- The pages that these are. -/
def exitPages : List String := ["pages.manage_configurations", "pages.status"]

/-- These are all guards of the pages. -/
theorem guards_routes :
    routes.filterMap (·.guard) =
      [requireLogin, storageTitle, storageMessageTrail, configurationDetails, customView, embed "larva",
        embed "iaf/testtool", embed "iaf/ladybug", releaseKnown] := rfl

/-- **A guard and a signed-in user**: the user stays signed in, and is sent nowhere but to the exits. -/
theorem guard_of_signedIn {guard : Guard} (h : guard ∈ routes.filterMap (·.guard)) (context : GuardContext)
    {services : GuardServices} (signedIn : services.signedIn = true) :
    (guard context services).services.signedIn = true ∧
      ∀ target, (guard context services).redirect = some target → target ∈ exits := by
  rw [guards_routes] at h
  simp only [List.mem_cons, List.not_mem_nil, or_false] at h
  rcases h with rfl | rfl | rfl | rfl | rfl | rfl | rfl | rfl | rfl
  · simp [requireLogin, signedIn, Guard.proceed]
  · simp [storageTitle, signedIn, Guard.proceed]
  · simp [storageMessageTrail, signedIn, Guard.proceed]
  · unfold configurationDetails
    dsimp only
    split <;> simp [signedIn, Guard.proceed, Guard.redirectTo, exits]
  · unfold customView
    dsimp only
    split
    · simp [signedIn, Guard.redirectTo, exits]
    · split <;> simp [signedIn, Guard.proceed, GuardServices.openPage]
  · simp [embed, signedIn, Guard.proceed]
  · simp [embed, signedIn, Guard.proceed]
  · simp [embed, signedIn, Guard.proceed]
  · unfold releaseKnown
    split <;> simp [signedIn, Guard.proceed, Guard.redirectTo, exits]

/-- Whether a page is guarded by the layout alone. -/
def isPlain (d : RouteDefinition) : Bool :=
  !d.isLayout && isInside d && ((d.chain routes).filterMap (·.guard)).length == 1

/-- The pages to which signed-in users are sent are guarded by the layout alone. -/
theorem isPlain_exitPages : (exitPages.all fun name => (find? routes name).any isPlain) = true := by
  decide +kernel

/-- The login page is shown to everybody. -/
theorem isOpen_login : ((find? routes "login").any fun d => !d.isLayout && isOpen d) = true := by
  decide +kernel

/-- The console's table is built, and the path that is redirected to is that of the status page. -/
theorem match_status :
    ∃ t, table = .ok t ∧ (t.match? "/status").map RouteMatch.name = some "pages.status" := by
  obtain ⟨t, htable, surveyed⟩ := exists_surveyed
  exact ⟨t, htable, surveyed.status⟩

/-! ## They are passed -/

variable {t : RouteTable} {services : GuardServices}

/-- A page that is guarded by the layout alone is shown to users who are signed in. -/
theorem redirect_of_isPlain (wf : t.Built routes) {r : CompiledRoute} (hr : r ∈ t.routes)
    (plain : isPlain r.definition = true) (params : RouteParams) (signedIn : services.signedIn = true) :
    (Activation.mk r params services).result.redirect = none := by
  simp only [isPlain, Bool.and_eq_true, beq_iff_eq] at plain
  obtain ⟨⟨_, hinside⟩, hlength⟩ := plain
  obtain ⟨others, hguards⟩ := guards_of_isInside hinside
  rw [hguards, List.length_cons, Nat.add_eq_right, List.length_eq_zero_iff] at hlength
  have hown : r.guards = [requireLogin] := by
    rw [CompiledRoute.guards, (wf.compiled r hr).chain, hguards, hlength]
  simp [Activation.result, hown, Guard.runAll, requireLogin, signedIn, Guard.proceed]

/-- A resolution of a page by name goes on without a redirect if the guards of this page let it. -/
theorem passes_toRoute (wf : t.Built routes) {name : String} {d : RouteDefinition}
    (known : find? routes name = some d) (concrete : d.isLayout = false)
    (passed : ∀ r ∈ t.routes, r.definition = d → ∀ params,
      (Activation.mk r params services).result.redirect = none) : t.Passes services (toRoute name) := by
  obtain ⟨r, hr, hconcrete, hdefinition⟩ := wf.concrete_of_known known concrete
  refine ⟨(r, r.schema.materialize Dictionary.empty Dictionary.empty), ?_, passed r hr hdefinition _⟩
  rw [toRoute, RouteTable.arrival, hconcrete]
  rfl

/-- The login page is reached without a redirect. -/
theorem passes_login (wf : t.Built routes) : t.Passes services (toRoute "login") := by
  obtain ⟨d, hd, htest⟩ := (Option.any_eq_true _ _).mp isOpen_login
  rw [Bool.and_eq_true, Bool.not_eq_true'] at htest
  refine passes_toRoute wf hd htest.1 ?_
  rintro r hr rfl params
  rw [Activation.result, guards_of_isOpen wf hr htest.2]
  rfl

/-- Signed-in users reach the pages to which they are sent without another redirect. -/
theorem passes_exits (wf : t.Built routes)
    (status : (t.match? "/status").map RouteMatch.name = some "pages.status")
    (signedIn : services.signedIn = true) {target : Destination} (h : target ∈ exits) :
    t.Passes services target := by
  have hknown : ∀ name ∈ exitPages, ∃ d, find? routes name = some d ∧ isPlain d = true := by
    intro name hname
    exact (Option.any_eq_true _ _).mp (List.all_eq_true.mp isPlain_exitPages name hname)
  have hpage : ∀ name ∈ exitPages, t.Passes services (toRoute name) := by
    intro name hname
    obtain ⟨d, hd, hplain⟩ := hknown name hname
    have hconcrete : d.isLayout = false := by
      simp only [isPlain, Bool.and_eq_true, Bool.not_eq_true'] at hplain
      exact hplain.1.1
    refine passes_toRoute wf hd hconcrete ?_
    rintro r hr rfl params
    exact redirect_of_isPlain wf hr hplain params signedIn
  simp only [exits, List.mem_cons, List.not_mem_nil, or_false] at h
  rcases h with rfl | rfl | rfl
  · exact hpage _ (by simp [exitPages])
  · exact hpage _ (by simp [exitPages])
  · obtain ⟨m, hm, hname⟩ := Option.map_eq_some_iff.mp status
    obtain ⟨hr, _⟩ := RouteTable.Built.of_choose hm
    obtain ⟨d, hd, hplain⟩ := hknown "pages.status" (by simp [exitPages])
    have hdefinition : m.route.definition = d := by
      have hfound := wf.find?_eq_some hr
      rw [show m.route.name = "pages.status" from hname] at hfound
      rw [wf.find?_definition, hfound] at hd
      exact Option.some.inj hd
    refine ⟨_, rfl, ?_⟩
    rw [hm]
    exact redirect_of_isPlain wf hr (hdefinition ▸ hplain) _ signedIn

/-- **A redirect leads to a page that is passed**, whoever is redirected. -/
theorem passes_of_redirect (wf : t.Built routes)
    (status : (t.match? "/status").map RouteMatch.name = some "pages.status") {r : CompiledRoute}
    (hr : r ∈ t.routes) (concrete : r.definition.isLayout = false) (params : RouteParams)
    {target : Destination} (h : (Activation.mk r params services).result.redirect = some target) :
    t.Passes (Activation.mk r params services).result.services target := by
  cases hsigned : services.signedIn with
  | true =>
    -- No guard signs the user out, so the exit is passed with the services as the guards leave them.
    have hkept : ∀ guard ∈ r.guards, ∀ context services, GuardServices.signedIn services = true →
        (guard context services).services.signedIn = true := fun guard hguard context _ hin =>
      (guard_of_signedIn (wf.mem_guards hr hguard) context hin).1
    have hallowed : ∀ guard ∈ r.guards, ∀ context services, GuardServices.signedIn services = true →
        ∀ target, (guard context services).redirect = some target → target ∈ exits :=
      fun guard hguard context _ hin => (guard_of_signedIn (wf.mem_guards hr hguard) context hin).2
    have hafter := Guard.holds_runAll hkept r.name params r.metadata hsigned
    have htarget := Guard.redirect_runAll hkept hallowed r.name params r.metadata hsigned h
    exact passes_exits wf status hafter htarget
  | false =>
    -- The layout's guard redirects before any other guard is asked.
    have hredirect := Activation.activateWith_of_redirect h
    rcases activateWith_of_signedOut wf hr concrete params hsigned with hlogin | ⟨route, hshown, _⟩
    · rw [hlogin] at hredirect
      obtain ⟨_, hlabel⟩ := ResolutionStep.redirect.inj (Prod.mk.inj hredirect).1
      rw [← hlabel]
      exact passes_login wf
    · rw [hshown] at hredirect
      cases hredirect

/-! ## Every destination is reached -/

/-- Whether a resolution comes to a page after one redirect at most. -/
def Arrives (resolution : Resolution) : Prop :=
  ∃ route, resolution.result = .ok route ∧ route.definition ∈ routes ∧
    route.definition.isLayout = false ∧ route.redirects.length ≤ 1

/-- Where a resolution arrives, it comes to a page after one redirect at most. -/
theorem arrives_of_arrival (wf : t.Built routes)
    (status : (t.match? "/status").map RouteMatch.name = some "pages.status") {destination : Destination}
    {found : CompiledRoute × RouteParams} (h : t.arrival destination = .ok found) (services : GuardServices) :
    Arrives (t.resolve destination services) := by
  obtain ⟨hr, hconcrete⟩ := wf.of_arrival h
  obtain ⟨route, hroute, hredirects⟩ := RouteTable.resolve_of_passes h fun target htarget =>
    passes_of_redirect wf status hr hconcrete found.2 htarget
  obtain ⟨_, _, _, hpassed⟩ := wf.passed hroute
  exact ⟨route, hroute, hpassed.registered, hpassed.concrete, hredirects⟩

/-- **Everything in the console leads to a page**: the table is built, and whoever the user is and whatever the
session holds, every URL resolves to a page after one redirect at most. So does every name with all parameters,
but for those of layouts and those that are not registered. -/
theorem console_resolves :
    ∃ t, table = .ok t ∧ ∀ services,
      (∀ url, Arrives (t.resolveUrl url services)) ∧
      ∀ name params,
        (find? routes name = none →
          (t.resolveNamed name params services).result = .error (.invalidRouteName name)) ∧
        ∀ d, find? routes name = some d →
          (d.isLayout = true → (t.resolveNamed name params services).result = .error (.abstractRoute name)) ∧
          (d.isLayout = false → Arrives (t.resolveNamed name params services)) := by
  obtain ⟨t, htable, status⟩ := match_status
  obtain ⟨wf, _⟩ := RouteTable.of_build htable
  refine ⟨t, htable, fun services => ⟨?_, ?_⟩⟩
  · intro url
    exact arrives_of_arrival wf status rfl services
  · intro name params
    refine ⟨?_, ?_⟩
    · intro unknown
      apply RouteTable.result_follow_of_error
      rw [RouteTable.arrival, wf.concrete_of_unknown unknown]
      rfl
    · intro d known
      constructor
      · intro layout
        apply RouteTable.result_follow_of_error
        rw [RouteTable.arrival, wf.concrete_of_layout known layout]
        rfl
      · intro concrete
        obtain ⟨r, _, hconcrete, _⟩ := wf.concrete_of_known known concrete
        have harrival : t.arrival (.route name params) =
            .ok (r, r.schema.materialize Dictionary.empty params) := by
          rw [RouteTable.arrival, hconcrete]
          rfl
        exact arrives_of_arrival wf status harrival services

end AdminConsole.Site
