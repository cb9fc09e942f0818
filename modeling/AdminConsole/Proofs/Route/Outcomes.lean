import AdminConsole.Proofs.Route.Guarded

/-!
# What resolutions come to

A resolution succeeds with the route of its last activation, and with all bundles that this route and its
registered ancestors need, or it is refused: because of too many redirects, or because a name that it was sent
to has no route or that of a layout.
-/

set_option autoImplicit false

namespace AdminConsole

/-- Whether a route or one of its registered ancestors needs a bundle. -/
def RouteDefinition.Needs (definitions : List RouteDefinition) (d : RouteDefinition)
    (bundle : String) : Prop :=
  ∃ q ∈ definitions, (q = d ∨ q.IsAncestor d) ∧ bundle ∈ q.dependencies

/-- Whether an error is one with which a resolution is refused. -/
def RouterError.isRefusal : RouterError → Bool
  | .routingLoop _ => true
  | .invalidRouteName _ => true
  | .abstractRoute _ => true
  | _ => false

namespace RouteTable

/-! ## Resolutions that succeed -/

/-- **A resolved route needs** the bundles of its own definition and those of its registered ancestors, and no
others. -/
theorem Built.mem_dependencies_iff {definitions : List RouteDefinition} {t : RouteTable}
    (wf : t.Built definitions) {destination : Destination} {services : GuardServices}
    {route : ResolvedRoute} (h : (t.resolve destination services).result = .ok route)
    (bundle : String) :
    bundle ∈ route.dependencies ↔ route.definition.Needs definitions bundle := by
  obtain ⟨earlier, a, hsplit, _, hdefinition, _, _, hdependencies, _⟩ := of_follow h
  have hmem : a ∈ t.activationsWithin RouterError.maxRedirects destination services := by
    simp [hsplit]
  obtain ⟨hroute, _⟩ := wf.of_mem_activationsWithin hmem
  have hlineage := wf.isLineage_chain hroute
  rw [hdependencies, (wf.compiled _ hroute).dependencies, List.mem_eraseDups, List.mem_flatMap,
    RouteDefinition.Needs, hdefinition]
  constructor
  · rintro ⟨q, hq, hbundle⟩
    obtain ⟨hregistered, hancestor⟩ := (hlineage.members q).mp hq
    exact ⟨q, hregistered, hancestor, hbundle⟩
  · rintro ⟨q, hregistered, hancestor, hbundle⟩
    exact ⟨q, (hlineage.members q).mpr ⟨hregistered, hancestor⟩, hbundle⟩

/-! ## Resolutions that are refused -/

/-- The error of a name that is no page's is a refusal. -/
theorem isRefusal_of_concrete {t : RouteTable} {name : String} {e : RouterError}
    (h : t.concrete name = .error e) : e.isRefusal = true := by
  unfold concrete at h
  split at h
  · cases h
    rfl
  · split at h
    · cases h
      rfl
    · cases h

/-- The error of a step is a refusal. -/
theorem isRefusal_of_step {t : RouteTable} {destination : Destination} {services : GuardServices}
    {e : RouterError} (h : t.step destination services = .error e) : e.isRefusal = true := by
  cases destination with
  | path path query => cases h
  | route name params =>
    cases hconcrete : t.concrete name with
    | ok r =>
      simp only [step, hconcrete] at h
      cases h
    | error other =>
      simp only [step, hconcrete] at h
      cases h
      exact isRefusal_of_concrete hconcrete

/-- **A resolution that fails** was refused. -/
theorem isRefusal_of_follow {t : RouteTable} {left : Nat} {trail : List String}
    {destination : Destination} {services : GuardServices} {e : RouterError}
    (h : (t.follow left trail destination services).result = .error e) : e.isRefusal = true := by
  fun_induction follow t left trail destination services with
  | case1 left trail destination services ties error hstep =>
    obtain rfl : error = e := Except.error.inj h
    exact isRefusal_of_step hstep
  | case2 left trail destination services ties route after hstep => cases h
  | case3 trail destination services ties source target after hstep =>
    cases h
    rfl
  | case4 trail destination services ties source target after hstep left rest ih => exact ih h

/-! ## What all resolutions keep -/

/-- **What holds along all redirects** holds where the resolution ends, if it holds of the destination in the
beginning, and each redirect passes it on to its target. -/
theorem ends_of_step {t : RouteTable} {Holds : Destination → GuardServices → Prop}
    {Ends : Except RouterError ResolvedRoute → GuardServices → Prop}
    (refused : ∀ destination services (e : RouterError), Holds destination services →
      e.isRefusal = true → Ends (.error e) services)
    (redirected : ∀ destination services source target after, Holds destination services →
      t.step destination services = .ok (.redirect source target, after) → Holds target after)
    (reached : ∀ destination services (route : ResolvedRoute) after trail, Holds destination services →
      t.step destination services = .ok (.resolved route, after) →
        Ends (.ok { route with redirects := trail }) after)
    (left : Nat) (trail : List String) {destination : Destination} {services : GuardServices}
    (holds : Holds destination services) :
    Ends (t.follow left trail destination services).result
      (t.follow left trail destination services).services := by
  fun_induction follow t left trail destination services with
  | case1 left trail destination services ties error hstep =>
    exact refused _ _ error holds (isRefusal_of_step hstep)
  | case2 left trail destination services ties route after hstep =>
    exact reached _ _ route after trail holds hstep
  | case3 trail destination services ties source target after hstep =>
    exact refused _ _ _ (redirected _ _ _ _ _ holds hstep) rfl
  | case4 trail destination services ties source target after hstep left rest ih =>
    exact ih (redirected _ _ _ _ _ holds hstep)

/-- Whether the resolutions of a table keep a property of the services, and come to results of some kind
where it holds. -/
def Keeps (t : RouteTable) (Holds : GuardServices → Prop)
    (Good : Except RouterError ResolvedRoute → Prop) : Prop :=
  ∀ destination services, Holds services →
    Holds (t.resolve destination services).services ∧ Good (t.resolve destination services).result

/-- **What every step keeps is kept by a resolution**, and where all routes that a step may reach are good the
result is. -/
theorem keeps_of_step {t : RouteTable} {Holds : GuardServices → Prop}
    {Good : Except RouterError ResolvedRoute → Prop}
    (refused : ∀ e : RouterError, e.isRefusal = true → Good (.error e))
    (kept : ∀ destination services found after, Holds services →
      t.step destination services = .ok (found, after) → Holds after)
    (reached : ∀ destination services (route : ResolvedRoute) after trail, Holds services →
      t.step destination services = .ok (.resolved route, after) →
        Good (.ok { route with redirects := trail })) :
    t.Keeps Holds Good := by
  intro destination services holds
  refine @ends_of_step t (fun _ services => Holds services)
    (fun result services => Holds services ∧ Good result) ?_ ?_ ?_ _ [] _ _ holds
  · intro _ _ e hin hrefusal
    exact ⟨hin, refused e hrefusal⟩
  · intro destination services source target after hin hstep
    exact kept destination services _ after hin hstep
  · intro destination services route after trail hin hstep
    exact ⟨kept destination services _ after hin hstep,
      reached destination services route after trail hin hstep⟩

end RouteTable

/-- What each of some guards keeps is kept by all of them. -/
theorem Guard.holds_runAll {Holds : GuardServices → Prop} {guards : List Guard}
    (kept : ∀ guard ∈ guards, ∀ context services, Holds services →
      Holds (guard context services).services)
    (routeName : String) (params : RouteParams) (metadata : RouteMetadata)
    {services : GuardServices} (holds : Holds services) :
    Holds (runAll routeName params guards metadata services).services := by
  induction guards generalizing metadata services with
  | nil => exact holds
  | cons guard guards ih =>
    obtain ⟨hguard, hrest⟩ := List.forall_mem_cons.mp kept
    have hafter := hguard ⟨routeName, params, metadata⟩ services holds
    unfold runAll
    dsimp only
    split
    · exact hafter
    · exact ih hrest _ hafter

/-- **What the guards of all registered routes keep is kept by a step.** -/
theorem RouteTable.Built.holds_of_step {definitions : List RouteDefinition} {t : RouteTable}
    (wf : t.Built definitions) {Holds : GuardServices → Prop}
    (kept : ∀ d ∈ definitions, ∀ guard, d.guard = some guard → ∀ context services,
      Holds services → Holds (guard context services).services)
    {destination : Destination} {services after : GuardServices} {found : ResolutionStep}
    (holds : Holds services) (h : t.step destination services = .ok (found, after)) :
    Holds after := by
  rw [step_eq_arrival] at h
  obtain ⟨⟨r, params⟩, harrival, hactivated⟩ := Result.ok_of_map h
  obtain ⟨hr, _⟩ := wf.of_arrival harrival
  have hguards : ∀ guard ∈ r.guards, ∀ context services, Holds services →
      Holds (guard context services).services := by
    intro guard hguard
    obtain ⟨d, hd, hown⟩ := List.mem_filterMap.mp (wf.mem_guards hr hguard)
    exact kept d hd guard hown
  have hafter := Guard.holds_runAll hguards r.name params r.metadata holds
  dsimp only [CompiledRoute.activateWith] at hactivated
  split at hactivated
  · cases hactivated
    exact hafter
  · cases hactivated
    exact hafter

/-! ## One redirect -/

/-- What none of some guards does under a condition that they keep, all of them together do not do. -/
theorem Guard.redirect_runAll {Holds : GuardServices → Prop} {Allowed : Destination → Prop}
    {guards : List Guard}
    (kept : ∀ guard ∈ guards, ∀ context services, Holds services →
      Holds (guard context services).services)
    (allowed : ∀ guard ∈ guards, ∀ context services, Holds services →
      ∀ target, (guard context services).redirect = some target → Allowed target)
    (routeName : String) (params : RouteParams) (metadata : RouteMetadata)
    {services : GuardServices} (holds : Holds services) {target : Destination}
    (h : (runAll routeName params guards metadata services).redirect = some target) : Allowed target := by
  induction guards generalizing metadata services with
  | nil => cases h
  | cons guard guards ih =>
    obtain ⟨hkept, hkepts⟩ := List.forall_mem_cons.mp kept
    obtain ⟨hallowed, hrest⟩ := List.forall_mem_cons.mp allowed
    unfold runAll at h
    dsimp only at h
    split at h
    · exact hallowed _ services holds target h
    · exact ih hkepts hrest _ (hkept _ services holds) h

namespace RouteTable

/-- Whether a destination leads to a route whose guards let the activation go on. -/
def Passes (t : RouteTable) (services : GuardServices) (destination : Destination) : Prop :=
  ∃ found, t.arrival destination = .ok found ∧
    (Activation.mk found.1 found.2 services).result.redirect = none

/-- Where the guards let the activation go on the resolution ends. -/
theorem Passes.follow {t : RouteTable} {services : GuardServices} {destination : Destination}
    (h : t.Passes services destination) (left : Nat) (trail : List String) :
    ∃ route, (t.follow left trail destination services).result = .ok route ∧ route.redirects = trail := by
  obtain ⟨found, harrival, hpassed⟩ := h
  exact ⟨_, congrArg (·.result) (follow_of_passed harrival hpassed), rfl⟩

/-- **A resolution takes one redirect at most** if redirects lead to routes that are passed. -/
theorem resolve_of_passes {t : RouteTable} {services : GuardServices} {destination : Destination}
    {found : CompiledRoute × RouteParams} (harrival : t.arrival destination = .ok found)
    (hpasses : ∀ target, (Activation.mk found.1 found.2 services).result.redirect = some target →
      t.Passes (Activation.mk found.1 found.2 services).result.services target) :
    ∃ route, (t.resolve destination services).result = .ok route ∧ route.redirects.length ≤ 1 := by
  cases hredirect : (Activation.mk found.1 found.2 services).result.redirect with
  | none =>
    have hpassed : t.Passes services destination := ⟨found, harrival, hredirect⟩
    obtain ⟨route, hroute, htrail⟩ := hpassed.follow RouterError.maxRedirects []
    exact ⟨route, hroute, by simp [htrail]⟩
  | some target =>
    obtain ⟨left, hleft⟩ : ∃ left, RouterError.maxRedirects = left + 1 := ⟨_, rfl⟩
    obtain ⟨route, hroute, htrail⟩ := (hpasses target hredirect).follow left [found.1.name]
    refine ⟨route, ?_, by simp [htrail]⟩
    rw [resolve, hleft, RouteTable.follow, step_of_redirect harrival hredirect]
    exact hroute

end RouteTable

end AdminConsole
