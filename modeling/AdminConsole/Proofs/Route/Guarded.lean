import AdminConsole.Proofs.Route.Built
import AdminConsole.Proofs.Route.GuardCalls
import AdminConsole.Proofs.Route.Lineage

/-!
# No route is reached around its guards

A resolution is a number of activations: each goes to the route that its destination leads to, and each but
the last one ends in a redirect, which is the destination of the next. Main statement: in every activation the
guards of the route's lineage run in order until one redirects, and where a route is reached in the end all of
them ran, for this route and its parameters, and let the activation go on.
-/

set_option autoImplicit false

namespace AdminConsole

/-- An activation of a route. -/
structure Activation where
  route : CompiledRoute
  params : RouteParams
  /-- The services as the activation finds them. -/
  services : GuardServices

namespace Activation

/-- The guards that run. -/
def calls (a : Activation) : List GuardCall :=
  GuardCall.record a.route.name a.params a.route.chain a.route.metadata a.services

/-- What they come to. -/
def result (a : Activation) : GuardResult :=
  Guard.runAll a.route.name a.params a.route.guards a.route.metadata a.services

/-- The guards of an activation come to one of two ends. -/
theorem ending_calls (a : Activation) :
    GuardCall.Ending a.route.chain a.route.metadata a.services a.calls a.result :=
  GuardCall.ending_record a.route.name a.params a.route.chain a.route.metadata a.services

/-- An activation whose guards redirect is not resolved, and keeps what the guards did to the services. -/
theorem activateWith_of_redirect {a : Activation} {target : Destination}
    (h : a.result.redirect = some target) :
    a.route.activateWith a.params a.services =
      (.redirect a.route.name target, a.result.services) := by
  simp only [CompiledRoute.activateWith]
  split
  · rename_i other hother
    obtain rfl : other = target := Option.some.inj (hother.symm.trans h)
    rfl
  · rename_i hnone
    cases hnone.symm.trans h

/-- An activation whose guards let it go on is resolved, with the metadata that they left. -/
theorem activateWith_of_passed {a : Activation} (h : a.result.redirect = none) :
    a.route.activateWith a.params a.services =
      (.resolved {
        definition := a.route.definition
        params := a.params
        metadata := a.result.metadata
        dependencies := a.route.dependencies
        redirects := [] }, a.result.services) := by
  simp only [CompiledRoute.activateWith]
  split
  · rename_i target hsome
    cases h.symm.trans hsome
  · rfl

end Activation

namespace RouteTable

/-! ## The activations of a resolution -/

/-- The route and the parameters that a destination leads to. -/
def arrival (t : RouteTable) : Destination → Except RouterError (CompiledRoute × RouteParams)
  | .path path query =>
      let (route, captured) := t.lead path
      .ok (route, route.schema.materialize captured (declaredQuery route.pattern query))
  | .route name params =>
      (t.concrete name).map fun r => (r, r.schema.materialize Dictionary.empty params)

/-- One step of a resolution arrives at a route and activates it. -/
theorem step_eq_arrival (t : RouteTable) (destination : Destination) (services : GuardServices) :
    t.step destination services =
      (t.arrival destination).map fun found => found.1.activateWith found.2 services := by
  cases destination with
  | path path query => rfl
  | route name params =>
    simp only [step, arrival]
    cases t.concrete name <;> rfl

/-- The activations when a destination is resolved, with so many more redirects to follow. -/
def activationsWithin (t : RouteTable) (left : Nat) (destination : Destination)
    (services : GuardServices) : List Activation :=
  match t.arrival destination with
  | .error _ => []
  | .ok (route, params) =>
      let a : Activation := ⟨route, params, services⟩
      match a.result.redirect, left with
      | some target, left + 1 => a :: t.activationsWithin left target a.result.services
      | _, _ => [a]

/-- The activations when a destination is resolved. -/
def activations (t : RouteTable) (destination : Destination) (services : GuardServices) :
    List Activation :=
  t.activationsWithin RouterError.maxRedirects destination services

section

variable {t : RouteTable} {left : Nat} {trail : List String} {destination : Destination}
  {services : GuardServices} {found : CompiledRoute × RouteParams}

/-- A destination at which one arrives nowhere ends the resolution with its error. -/
theorem result_follow_of_error {e : RouterError} (harrival : t.arrival destination = .error e) :
    (t.follow left trail destination services).result = .error e := by
  unfold follow
  rw [step_eq_arrival, harrival]
  rfl

/-- A resolution ends with the route at which it arrives, if its guards let it go on. -/
theorem follow_of_passed (harrival : t.arrival destination = .ok found)
    (hpassed : (Activation.mk found.1 found.2 services).result.redirect = none) :
    t.follow left trail destination services =
      ⟨.ok {
        definition := found.1.definition
        params := found.2
        metadata := (Activation.mk found.1 found.2 services).result.metadata
        dependencies := found.1.dependencies
        redirects := trail },
      (Activation.mk found.1 found.2 services).result.services, t.stepAmbiguities destination⟩ := by
  unfold follow
  rw [step_eq_arrival, harrival, Except.map, Activation.activateWith_of_passed hpassed]

/-- A step whose guards redirect comes to their destination. -/
theorem step_of_redirect {target : Destination} (harrival : t.arrival destination = .ok found)
    (hredirect : (Activation.mk found.1 found.2 services).result.redirect = some target) :
    t.step destination services = .ok (.redirect found.1.name target,
      (Activation.mk found.1 found.2 services).result.services) := by
  rw [step_eq_arrival, harrival, Except.map, Activation.activateWith_of_redirect hredirect]

end

/-- A step that redirects is an activation that does. -/
theorem of_step_redirect {t : RouteTable} {destination target : Destination}
    {services after : GuardServices} {source : String}
    (h : t.step destination services = .ok (.redirect source target, after)) :
    ∃ r params, t.arrival destination = .ok (r, params) ∧ source = r.name ∧
      (Activation.mk r params services).result.redirect = some target ∧
      after = (Activation.mk r params services).result.services := by
  rw [step_eq_arrival] at h
  obtain ⟨⟨r, params⟩, harrival, hactivated⟩ := Result.ok_of_map h
  refine ⟨r, params, harrival, ?_⟩
  cases hredirect : (Activation.mk r params services).result.redirect with
  | none =>
    have hpassed := Activation.activateWith_of_passed hredirect
    rw [hpassed] at hactivated
    cases hactivated
  | some other =>
    have hstopped := Activation.activateWith_of_redirect hredirect
    rw [hstopped] at hactivated
    cases hactivated
    exact ⟨rfl, rfl, rfl⟩

/-- A step that ends a resolution is an activation that all guards let go on. -/
theorem of_step_resolved {t : RouteTable} {destination : Destination}
    {services after : GuardServices} {route : ResolvedRoute}
    (h : t.step destination services = .ok (.resolved route, after)) :
    ∃ r params, t.arrival destination = .ok (r, params) ∧
      (Activation.mk r params services).result.redirect = none ∧
      route.definition = r.definition ∧ route.params = params ∧
      route.metadata = (Activation.mk r params services).result.metadata ∧
      after = (Activation.mk r params services).result.services := by
  rw [step_eq_arrival] at h
  obtain ⟨⟨r, params⟩, harrival, hactivated⟩ := Result.ok_of_map h
  refine ⟨r, params, harrival, ?_⟩
  cases hredirect : (Activation.mk r params services).result.redirect with
  | none =>
    have hpassed := Activation.activateWith_of_passed hredirect
    rw [hpassed] at hactivated
    cases hactivated
    exact ⟨rfl, rfl, rfl, rfl, rfl⟩
  | some target =>
    have hstopped := Activation.activateWith_of_redirect hredirect
    rw [hstopped] at hactivated
    cases hactivated

/-- What a resolution gives comes from its last activation. -/
theorem of_follow {t : RouteTable} {left : Nat} {trail : List String} {destination : Destination}
    {services : GuardServices} {route : ResolvedRoute}
    (h : (t.follow left trail destination services).result = .ok route) :
    ∃ earlier last, t.activationsWithin left destination services = earlier ++ [last] ∧
      last.result.redirect = none ∧ route.definition = last.route.definition ∧
      route.params = last.params ∧ route.metadata = last.result.metadata ∧
      route.dependencies = last.route.dependencies ∧
      (t.follow left trail destination services).services = last.result.services := by
  fun_induction activationsWithin t left destination services generalizing trail with
  | case1 left destination services e harrival =>
    rw [result_follow_of_error harrival] at h
    cases h
  | case2 destination services r params harrival a target left hredirect =>
    rename_i ih
    have hstep := step_of_redirect harrival hredirect
    unfold follow at h ⊢
    simp only [hstep] at h ⊢
    obtain ⟨earlier, last, hsplit, hlast⟩ := ih h
    exact ⟨a :: earlier, last, by rw [hsplit]; rfl, hlast⟩
  | case3 left destination services r params harrival a =>
    rename_i hstop
    cases hredirect : a.result.redirect with
    | none =>
      rw [follow_of_passed harrival hredirect] at h ⊢
      cases h
      exact ⟨[], a, rfl, hredirect, rfl, rfl, rfl, rfl, rfl⟩
    | some target =>
      cases left with
      | zero =>
        have hstep := step_of_redirect harrival hredirect
        unfold follow at h
        simp only [hstep] at h
        cases h
      | succ left => exact absurd rfl (hstop target left hredirect)

/-! ## Whom activations concern -/

namespace Built

variable {definitions : List RouteDefinition} {t : RouteTable}

/-- A route that is chosen for a path stands in the table and is no layout. -/
theorem of_choose {path : String} {m : RouteMatch} (h : (choose t.routes path).1 = some m) :
    m.route ∈ t.routes ∧ m.route.definition.isLayout = false := by
  obtain ⟨hmem, hmatch⟩ := mem_of_choose h
  exact ⟨hmem, (CompiledRoute.of_match? hmatch).2.1⟩

/-- Every destination leads to a route of the table that is no layout, also where nothing matches. -/
theorem of_arrival (wf : t.Built definitions) {destination : Destination}
    {found : CompiledRoute × RouteParams} (h : t.arrival destination = .ok found) :
    found.1 ∈ t.routes ∧ found.1.definition.isLayout = false := by
  cases destination with
  | path path query =>
    obtain ⟨m, leads⟩ := wf.exists_leadsTo path
    rw [arrival, wf.lead_eq leads] at h
    obtain rfl := Except.ok.inj h
    rcases leads with hmatch | ⟨_, hmatch⟩
    · exact of_choose hmatch
    · exact of_choose hmatch
  | route name params =>
    obtain ⟨r, hr, rfl⟩ := Result.ok_of_map h
    obtain ⟨hmem, _, hlayout⟩ := of_concrete hr
    exact ⟨hmem, hlayout⟩

/-- Only pages of the table are activated. -/
theorem of_mem_activationsWithin (wf : t.Built definitions) {left : Nat}
    {destination : Destination} {services : GuardServices} {a : Activation}
    (h : a ∈ t.activationsWithin left destination services) :
    a.route ∈ t.routes ∧ a.route.definition.isLayout = false := by
  fun_induction activationsWithin t left destination services with
  | case1 => cases h
  | case2 destination services r params harrival first target left hredirect =>
    rename_i ih
    rcases List.mem_cons.mp h with rfl | h
    · exact wf.of_arrival harrival
    · exact ih h
  | case3 left destination services r params harrival first =>
    obtain rfl := List.mem_singleton.mp h
    exact wf.of_arrival harrival

/-- The chain of a route of the table is its lineage. -/
theorem isLineage_chain (wf : t.Built definitions) {r : CompiledRoute} (hr : r ∈ t.routes) :
    RouteDefinition.IsLineage definitions r.definition r.chain := by
  rw [(wf.compiled r hr).chain]
  exact RouteDefinition.isLineage_chain wf.nodup (wf.definition_mem hr)

/-- Every guard that runs for a route belongs to a registered one. -/
theorem mem_guards (wf : t.Built definitions) {r : CompiledRoute} (hr : r ∈ t.routes) {guard : Guard}
    (h : guard ∈ r.guards) : guard ∈ definitions.filterMap (·.guard) := by
  obtain ⟨d, hd, hown⟩ := List.mem_filterMap.mp h
  exact List.mem_filterMap.mpr ⟨d, (((wf.isLineage_chain hr).members d).mp hd).1, hown⟩

end Built

end RouteTable

namespace Activation

/-- What it means that a route was reached through the guards of its lineage. -/
structure Passed (definitions : List RouteDefinition) (a : Activation) (route : ResolvedRoute)
    (after : GuardServices) : Prop where
  registered : route.definition ∈ definitions
  concrete : route.definition.isLayout = false
  /-- The guards of the lineage ran, each once and the outermost first, and no others. What the guards of
  the lineage found was the metadata nearest to the route, as the guards before them had left it, and the
  metadata of the route is what the last of them left. -/
  lineage : ∃ lineage, RouteDefinition.IsLineage definitions route.definition lineage ∧
    a.calls.map (·.owner) = GuardCall.guarded lineage ∧
    GuardCall.Linked route.metadata after a.calls
      ((lineage.reverse.findSome? (·.metadata)).getD RouteMetadata.empty) a.services
  /-- Each of them ran for this route and its parameters and let the activation go on. -/
  ran : ∀ call ∈ a.calls, call.IsRun ∧ call.context.routeName = route.name ∧
    call.context.params = route.params ∧ call.result.redirect = none

/-- What it means that a guard of the lineage ended an activation: the guards before it let the activation
go on, and none after it ran. -/
structure Stopped (definitions : List RouteDefinition) (a : Activation) (target : Destination) :
    Prop where
  lineage : ∃ lineage, RouteDefinition.IsLineage definitions a.route.definition lineage ∧
    a.calls.map (·.owner) <+: GuardCall.guarded lineage
  last : ∃ before call, a.calls = before ++ [call] ∧ call.result.redirect = some target ∧
    ∀ other ∈ before, other.result.redirect = none

end Activation

namespace RouteTable

variable {definitions : List RouteDefinition} {t : RouteTable}

/-- A resolution that succeeds ends with an activation whose guards all let it go on. -/
theorem Built.passed (wf : t.Built definitions) {destination : Destination}
    {services : GuardServices} {route : ResolvedRoute}
    (h : (t.resolve destination services).result = .ok route) :
    ∃ earlier last, t.activations destination services = earlier ++ [last] ∧
      last.Passed definitions route (t.resolve destination services).services := by
  obtain ⟨earlier, last, hsplit, hpassed, hdefinition, hparams, hmetadata, _, hservices⟩ := of_follow h
  have hmem : last ∈ t.activationsWithin RouterError.maxRedirects destination services := by
    simp [hsplit]
  obtain ⟨hroute, hlayout⟩ := wf.of_mem_activationsWithin hmem
  refine ⟨earlier, last, hsplit, ?_⟩
  cases last.ending_calls with
  | stopped before call target redirect => cases hpassed.symm.trans redirect
  | passed redirect owners continued linked =>
    refine ⟨?_, ?_, ⟨last.route.chain, ?_, owners, ?_⟩, ?_⟩
    · rw [hdefinition]
      exact wf.definition_mem hroute
    · rw [hdefinition]
      exact hlayout
    · rw [hdefinition]
      exact wf.isLineage_chain hroute
    · rw [hmetadata, resolve, hservices]
      rw [(wf.compiled _ hroute).metadata] at linked
      exact linked
    · intro call hcall
      obtain ⟨hrun, hname, hsaw⟩ := GuardCall.of_mem_record _ _ hcall
      refine ⟨hrun, ?_, hsaw.trans hparams.symm, continued call hcall⟩
      rw [hname, ResolvedRoute.name, hdefinition]
      rfl

/-- An activation whose guards redirect was ended by one of its lineage. -/
theorem Built.stopped (wf : t.Built definitions) {destination : Destination}
    {services : GuardServices} {a : Activation} (ha : a ∈ t.activations destination services)
    {target : Destination} (h : a.result.redirect = some target) :
    a.Stopped definitions target := by
  obtain ⟨hroute, _⟩ := wf.of_mem_activationsWithin ha
  cases a.ending_calls with
  | passed redirect => cases h.symm.trans redirect
  | stopped before call other redirect split outcome owners continued linked =>
    obtain rfl : target = other := Option.some.inj (h.symm.trans redirect)
    refine ⟨⟨a.route.chain, wf.isLineage_chain hroute, owners⟩, before, call, split, ?_, continued⟩
    rw [outcome]
    exact h

/-! ## All ways in -/

end RouteTable

/-- A way into a route table. -/
inductive RouteEntry where
  | path (path : String) (query : Dictionary String)
  | url (url : String)
  | named (name : String) (params : RouteParams)

/-- The destination of an entry. -/
def RouteEntry.destination : RouteEntry → Destination
  | .path text query => .path text query
  | .url text => .path (RouteUrl.split text).1 (RouteUrl.split text).2
  | .named name params => .route name params

namespace RouteTable

/-- Resolves an entry. -/
def enter (t : RouteTable) (services : GuardServices) : RouteEntry → Resolution
  | .path path query => t.resolvePath path query services
  | .url url => t.resolveUrl url services
  | .named name params => t.resolveNamed name params services

/-- An entry of the history is resolved as the destination that it stands for. -/
theorem enter_eq_resolve (t : RouteTable) (services : GuardServices) (entry : RouteEntry) :
    t.enter services entry = t.resolve entry.destination services := by
  cases entry <;> rfl

/-- **No route is reached around its guards.** Whichever way a table is entered: the last activation of a
resolution that succeeds went past the guards of the whole lineage of the route, and an activation that ends
in a redirect ends with the guard that redirects. -/
theorem reached_past_guards {definitions : List RouteDefinition} {defaultPath : String}
    {t : RouteTable} (built : build definitions defaultPath = .ok t) (services : GuardServices)
    (entry : RouteEntry) :
    (∀ route, (t.enter services entry).result = .ok route →
      ∃ earlier last, t.activations entry.destination services = earlier ++ [last] ∧
        last.Passed definitions route (t.enter services entry).services) ∧
    ∀ a ∈ t.activations entry.destination services, ∀ target,
      a.result.redirect = some target → a.Stopped definitions target := by
  obtain ⟨wf, _⟩ := of_build built
  rw [enter_eq_resolve]
  exact ⟨fun route h => wf.passed h, fun a ha target h => wf.stopped ha h⟩

/-- A page for administrators, whose layout is registered after it and sends away who is not signed in. -/
def adminRoutes : List RouteDefinition :=
  [(RouteDefinition.named "login").withUrl "/login",
    ((RouteDefinition.named "admin.users").withUrl "/users").withGuard fun context services =>
      Guard.proceed { context.metadata with title := some "Users" } services,
    (((RouteDefinition.named "admin").withUrl "/admin").asLayout).withGuard fun context services =>
      if services.signedIn then Guard.proceed context.metadata services
      else Guard.redirectTo (.route "login" Dictionary.empty) context.metadata services]

/-- Services without anything in them, for a user who is signed in. -/
def signedInServices : GuardServices :=
  { signedIn := true, session := Dictionary.empty, serverPath := "", diagnostics := ⟨0, false, []⟩,
    opened := [], notes := [] }

/-- A signed-in user reaches the page past the guard of its layout. -/
theorem reached_past_guards_users :
    ∃ t route, build adminRoutes "/login" = .ok t ∧
      (t.enter signedInServices (.url "/admin/users")).result = .ok route ∧
      route.name = "admin.users" ∧
      ∃ earlier last, t.activations (RouteEntry.url "/admin/users").destination signedInServices =
          earlier ++ [last] ∧
        last.Passed adminRoutes route (t.enter signedInServices (.url "/admin/users")).services := by
  have hcheck : (build adminRoutes "/login").toOption.map (fun t =>
      (t.enter signedInServices (.url "/admin/users")).result.toOption.map (·.name)) =
        some (some "admin.users") := by
    decide +kernel
  obtain ⟨t, htable, hresult⟩ := Option.map_eq_some_iff.mp hcheck
  obtain ⟨route, hroute, hname⟩ := Option.map_eq_some_iff.mp hresult
  have hbuild := Result.ok_of_toOption htable
  have hreached := Result.ok_of_toOption hroute
  exact ⟨t, route, hbuild, hreached, hname,
    (reached_past_guards hbuild signedInServices (.url "/admin/users")).1 route hreached⟩

end RouteTable

end AdminConsole
