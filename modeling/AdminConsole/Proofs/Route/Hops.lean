import AdminConsole.Proofs.Route.Outcomes

/-!
# How many redirects are followed

The hops of a table are its redirects, one after another and without any limit. A resolution follows the first
of them, up to the limit, and ends where there are no more, at a name that has no page, or beyond the limit, where
it no longer looks at what the last redirect leads to. Main statement: this is all that a resolution does. So
errors and trails say exactly how the hops go on, and where guards answer alike each time, a resolution that took
hops comes to what the last target comes to by itself.
-/

set_option autoImplicit false

namespace AdminConsole

namespace RouteTable

/-! ## Hops -/

/-- The redirects that lead from one destination to another, with the names of the routes that redirect, and the
services as the redirects leave them. -/
inductive Hops (t : RouteTable) :
    List String → Destination → GuardServices → Destination → GuardServices → Prop where
  | stay (destination : Destination) (services : GuardServices) :
      Hops t [] destination services destination services
  | hop {source : String} {sources : List String} {destination target last : Destination}
      {services between after : GuardServices}
      (first : t.step destination services = .ok (.redirect source target, between))
      (others : Hops t sources target between last after) :
      Hops t (source :: sources) destination services last after

variable {t : RouteTable} {sources : List String} {destination last : Destination}
  {services after : GuardServices}

/-- Hops within the limit are followed. -/
theorem Hops.follow (h : t.Hops sources destination services last after) (left : Nat)
    (trail : List String) :
    (t.follow (sources.length + left) trail destination services).result =
      (t.follow left (trail ++ sources) last after).result := by
  induction h generalizing trail with
  | stay => simp
  | hop first others ih =>
    -- The hop takes one off the limit and puts its source on the trail.
    rename_i source sources _ _ _ _ _ _
    have hleft : (source :: sources).length + left = (sources.length + left) + 1 := by
      rw [List.length_cons]
      omega
    rw [hleft, RouteTable.follow, first]
    exact (ih (trail ++ [source])).trans (by rw [List.append_assoc, List.singleton_append])

/-- Hops beyond the limit are an error, wherever the last of them leads. -/
theorem Hops.routingLoop (h : t.Hops sources destination services last after) {left : Nat}
    (beyond : sources.length = left + 1) (trail : List String) :
    (t.follow left trail destination services).result = .error (.routingLoop (trail ++ sources)) := by
  induction h generalizing left trail with
  | stay => cases beyond
  | hop first others ih =>
    rename_i source sources _ _ _ _ _ _
    rw [List.length_cons, Nat.add_right_cancel_iff] at beyond
    cases left with
    | zero =>
      obtain rfl := List.length_eq_zero_iff.mp beyond
      rw [RouteTable.follow, first]
    | succ left =>
      rw [RouteTable.follow, first]
      exact (ih beyond (trail ++ [source])).trans (by rw [List.append_assoc, List.singleton_append])

/-- How a resolution can end that follows so many redirects. -/
inductive Ending (t : RouteTable) (left : Nat) (trail : List String) (destination : Destination)
    (services : GuardServices) : Except RouterError ResolvedRoute → Prop where
  /-- Within the limit, at a name that cannot be activated. -/
  | refused {sources : List String} {last : Destination} {after : GuardServices} {e : RouterError}
      (hops : t.Hops sources destination services last after) (within : sources.length ≤ left)
      (failed : t.step last after = .error e) : Ending t left trail destination services (.error e)
  /-- Within the limit, at a route whose guards let the activation go on. -/
  | reached {sources : List String} {last : Destination} {after final : GuardServices} {route : ResolvedRoute}
      (hops : t.Hops sources destination services last after) (within : sources.length ≤ left)
      (resolved : t.step last after = .ok (.resolved route, final)) :
      Ending t left trail destination services (.ok { route with redirects := trail ++ sources })
  /-- With the first redirect beyond the limit. -/
  | loop {sources : List String} {last : Destination} {after : GuardServices}
      (hops : t.Hops sources destination services last after) (beyond : sources.length = left + 1) :
      Ending t left trail destination services (.error (.routingLoop (trail ++ sources)))

/-- One more hop in front. -/
theorem Ending.hop {left : Nat} {trail : List String} {source : String} {target : Destination}
    {between : GuardServices} {result : Except RouterError ResolvedRoute}
    (first : t.step destination services = .ok (.redirect source target, between))
    (h : Ending t left (trail ++ [source]) target between result) :
    Ending t (left + 1) trail destination services result := by
  cases h with
  | refused hops within failed => exact .refused (.hop first hops) (Nat.succ_le_succ within) failed
  | reached hops within resolved =>
    rw [List.append_assoc, List.singleton_append]
    exact .reached (.hop first hops) (Nat.succ_le_succ within) resolved
  | loop hops beyond =>
    rw [List.append_assoc, List.singleton_append]
    exact .loop (.hop first hops) (congrArg (· + 1) beyond)

/-- **A resolution ends in one of these ways.** -/
theorem ending_follow (t : RouteTable) (left : Nat) (trail : List String) (destination : Destination)
    (services : GuardServices) :
    Ending t left trail destination services (t.follow left trail destination services).result := by
  fun_induction RouteTable.follow t left trail destination services with
  | case1 left trail destination services ties error hstep =>
    exact .refused (.stay destination services) (Nat.zero_le left) hstep
  | case2 left trail destination services ties route after hstep =>
    have hreached : Ending t left trail destination services (.ok { route with redirects := trail ++ [] }) :=
      .reached (.stay destination services) (Nat.zero_le left) hstep
    rwa [List.append_nil] at hreached
  | case3 trail destination services ties source target after hstep =>
    exact .loop (.hop hstep (.stay target after)) rfl
  | case4 trail destination services ties source target after hstep left rest ih => exact .hop hstep ih

/-! ## Errors -/

/-- A step fails only at a name, with what is wrong with the name. -/
theorem of_step_error {e : RouterError} (h : t.step destination services = .error e) :
    ∃ name params, destination = .route name params ∧ t.concrete name = .error e := by
  cases destination with
  | path path query => cases h
  | route name params =>
    refine ⟨name, params, rfl, ?_⟩
    simp only [step] at h
    cases hconcrete : t.concrete name with
    | ok r =>
      rw [hconcrete] at h
      cases h
    | error other =>
      rw [hconcrete] at h
      cases h
      rfl

/-- No single step is a loop. -/
theorem ne_routingLoop_of_step {e : RouterError} (h : t.step destination services = .error e)
    (trail : List String) : e ≠ .routingLoop trail := by
  rintro rfl
  obtain ⟨name, params, rfl, hconcrete⟩ := of_step_error h
  unfold concrete at hconcrete
  split at hconcrete
  · cases hconcrete
  · split at hconcrete <;> cases hconcrete

/-- A step to a route by name fails if there is no such page. -/
theorem step_of_concrete_error {name : String} {params : RouteParams} {e : RouterError}
    (h : t.concrete name = .error e) : t.step (.route name params) services = .error e := by
  rw [step, h]
  rfl

/-- What can be wrong with a name. -/
theorem Built.concrete_eq_error_iff {definitions : List RouteDefinition} (wf : t.Built definitions)
    {name : String} {e : RouterError} :
    t.concrete name = .error e ↔
      (e = .invalidRouteName name ∧ RouteDefinition.find? definitions name = none) ∨
      (e = .abstractRoute name ∧
        ∃ d, RouteDefinition.find? definitions name = some d ∧ d.isLayout = true) := by
  cases hknown : RouteDefinition.find? definitions name with
  | none =>
    rw [wf.concrete_of_unknown hknown]
    simp [@eq_comm _ e]
  | some d =>
    cases hlayout : d.isLayout with
    | true =>
      rw [wf.concrete_of_layout hknown hlayout]
      simp [hlayout, @eq_comm _ e]
    | false =>
      obtain ⟨r, _, hconcrete, _⟩ := wf.concrete_of_known hknown hlayout
      rw [hconcrete]
      simp [hlayout]

/-- A loop is reported exactly where the hops go on beyond the limit. -/
theorem result_eq_routingLoop_iff {left : Nat} {trail : List String} :
    (t.follow left [] destination services).result = .error (.routingLoop trail) ↔
      trail.length = left + 1 ∧ ∃ last after, t.Hops trail destination services last after := by
  constructor
  · intro h
    have hending := ending_follow t left [] destination services
    rw [h] at hending
    cases hending with
    | refused hops within failed => exact absurd rfl (ne_routingLoop_of_step failed trail)
    | loop hops beyond => exact ⟨beyond, _, _, hops⟩
  · rintro ⟨hlength, last, after, hops⟩
    exact hops.routingLoop hlength []

/-- Anything else that is reported is wrong with the name that the entry or a redirect within the limit leads
to. -/
theorem result_eq_error_iff {left : Nat} {e : RouterError} (other : ∀ trail, e ≠ .routingLoop trail) :
    (t.follow left [] destination services).result = .error e ↔
      ∃ sources name params after, sources.length ≤ left ∧
        t.Hops sources destination services (.route name params) after ∧ t.concrete name = .error e := by
  constructor
  · intro h
    have hending := ending_follow t left [] destination services
    rw [h] at hending
    cases hending with
    | refused hops within failed =>
      obtain ⟨name, params, rfl, hconcrete⟩ := of_step_error failed
      exact ⟨_, name, params, _, within, hops, hconcrete⟩
    | loop => exact absurd rfl (other _)
  · rintro ⟨sources, name, params, after, within, hops, hconcrete⟩
    obtain ⟨more, rfl⟩ := Nat.exists_eq_add_of_le within
    rw [hops.follow, RouteTable.follow, step_of_concrete_error hconcrete]

/-! ## Activations -/

/-- A resolution activates one route more than it may follow redirects, at most. -/
theorem length_activationsWithin_le (t : RouteTable) (left : Nat) (destination : Destination)
    (services : GuardServices) : (t.activationsWithin left destination services).length ≤ left + 1 := by
  fun_induction activationsWithin t left destination services with
  | case1 => exact Nat.zero_le _
  | case2 =>
    rename_i ih
    exact Nat.succ_le_succ ih
  | case3 => exact Nat.succ_le_succ (Nat.zero_le _)

/-- The names of the routes that a resolution activated, as far as its result says. -/
def activated? : Except RouterError ResolvedRoute → Option (List String)
  | .ok route => some (route.redirects ++ [route.name])
  | .error (.routingLoop trail) => some trail
  | .error _ => none

/-- **A resolution activates** the routes that redirect, in order, and the one that is reached. -/
theorem names_activationsWithin {left : Nat} {trail names : List String}
    (h : activated? (t.follow left trail destination services).result = some names) :
    names = trail ++ (t.activationsWithin left destination services).map (·.route.name) := by
  fun_induction activationsWithin t left destination services generalizing trail with
  | case1 left destination services e harrival =>
    have hstep : t.step destination services = .error e := by
      rw [step_eq_arrival, harrival]
      rfl
    rw [result_follow_of_error harrival] at h
    cases e with
    | routingLoop loop => exact absurd rfl (ne_routingLoop_of_step hstep loop)
    | _ => cases h
  | case2 destination services r params harrival a target left hredirect =>
    rename_i ih
    rw [RouteTable.follow, step_of_redirect harrival hredirect] at h
    rw [ih h, List.append_assoc, List.singleton_append, List.map_cons]
  | case3 left destination services r params harrival a =>
    rename_i hstop
    cases hredirect : a.result.redirect with
    | none =>
      rw [follow_of_passed harrival hredirect] at h
      exact (Option.some.inj h).symm
    | some target =>
      cases left with
      | zero =>
        rw [RouteTable.follow, step_of_redirect harrival hredirect] at h
        exact (Option.some.inj h).symm
      | succ left => exact absurd rfl (hstop target left hredirect)

end RouteTable

/-! ## Guards that answer alike each time -/

/-- Whether a guard answers by its context and a view of the services alone, and leaves this view as it is. What is
not part of the view, such as the remarks of guards, it may change. -/
structure Guard.Steady {σ : Type} (view : GuardServices → σ) (guard : Guard) : Prop where
  keeps : ∀ context services, view (guard context services).services = view services
  answers : ∀ context services services', view services' = view services →
    (guard context services').redirect = (guard context services).redirect ∧
      (guard context services').metadata = (guard context services).metadata

/-- Steady guards that run one after another are like one steady guard. -/
theorem Guard.steady_runAll {σ : Type} {view : GuardServices → σ} {guards : List Guard}
    (h : ∀ guard ∈ guards, Guard.Steady view guard) :
    Guard.Steady view fun context services =>
      runAll context.routeName context.params guards context.metadata services := by
  induction guards with
  | nil => exact ⟨fun _ _ => rfl, fun _ _ _ _ => ⟨rfl, rfl⟩⟩
  | cons guard guards ih =>
    obtain ⟨hguard, hguards⟩ := List.forall_mem_cons.mp h
    have hmore := ih hguards
    constructor
    · intro context services
      have hkept := hguard.keeps context services
      cases hredirect : (guard context services).redirect with
      | some target => simpa only [runAll, hredirect] using hkept
      | none =>
        simp only [runAll, hredirect]
        exact (hmore.keeps { context with metadata := (guard context services).metadata } _).trans hkept
    · intro context services services' same
      obtain ⟨hsame, hmetadata⟩ := hguard.answers context services services' same
      have hview : view (guard context services').services = view (guard context services).services :=
        (hguard.keeps context services').trans (same.trans (hguard.keeps context services).symm)
      cases hredirect : (guard context services).redirect with
      | some target =>
        rw [hredirect] at hsame
        simp only [runAll, hredirect, hsame, hmetadata, and_self]
      | none =>
        rw [hredirect] at hsame
        simp only [runAll, hredirect, hsame, hmetadata]
        exact hmore.answers { context with metadata := (guard context services).metadata } _ _ hview

namespace RouteTable

variable {definitions : List RouteDefinition} {t : RouteTable} {sources : List String}
  {destination last : Destination} {services services' after : GuardServices} {σ : Type}
  {view : GuardServices → σ} (wf : t.Built definitions)
  (steady : ∀ guard ∈ definitions.filterMap (·.guard), Guard.Steady view guard)
include wf steady

/-- **A step of steady guards** is taken alike whatever the view leaves out, and the view stays as it is. -/
theorem Built.step_congr (same : view services' = view services) {found : ResolutionStep}
    (h : t.step destination services = .ok (found, after)) :
    view after = view services ∧ ∃ after', t.step destination services' = .ok (found, after') := by
  rw [step_eq_arrival] at h ⊢
  obtain ⟨⟨r, params⟩, harrival, hactivated⟩ := Result.ok_of_map h
  rw [harrival]
  obtain ⟨hr, _⟩ := wf.of_arrival harrival
  have hsteady := Guard.steady_runAll fun guard hguard => steady guard (wf.mem_guards hr hguard)
  have hkept : view (Activation.mk r params services).result.services = view services :=
    hsteady.keeps ⟨r.name, params, r.metadata⟩ services
  obtain ⟨hredirect, hmetadata⟩ : (Activation.mk r params services').result.redirect =
        (Activation.mk r params services).result.redirect ∧
      (Activation.mk r params services').result.metadata =
        (Activation.mk r params services).result.metadata :=
    hsteady.answers ⟨r.name, params, r.metadata⟩ services services' same
  cases hend : (Activation.mk r params services).result.redirect with
  | some target =>
    have hhere := Activation.activateWith_of_redirect hend
    have hthere := Activation.activateWith_of_redirect (hredirect.trans hend)
    obtain ⟨rfl, rfl⟩ := Prod.mk.inj (hhere.symm.trans hactivated)
    exact ⟨hkept, _, congrArg Except.ok hthere⟩
  | none =>
    have hhere := Activation.activateWith_of_passed hend
    have hthere := Activation.activateWith_of_passed (hredirect.trans hend)
    obtain ⟨rfl, rfl⟩ := Prod.mk.inj (hhere.symm.trans hactivated)
    rw [hmetadata] at hthere
    exact ⟨hkept, _, congrArg Except.ok hthere⟩

/-- Hops of steady guards leave the view as it is. -/
theorem Built.view_hops (h : t.Hops sources destination services last after) : view after = view services := by
  induction h with
  | stay => rfl
  | hop first others ih => exact ih.trans (wf.step_congr steady rfl first).1

/-- **Hops compose**: a route that is reached is the one that the last target leads to by itself. -/
theorem Built.resolve_of_hops {route : ResolvedRoute}
    (h : (t.resolve destination services).result = .ok route) :
    route.redirects.length ≤ RouterError.maxRedirects ∧
      ∃ target after, t.Hops route.redirects destination services target after ∧
        ∀ services', view services' = view services →
          (t.resolve target services').result = .ok { route with redirects := [] } := by
  have hending := ending_follow t RouterError.maxRedirects [] destination services
  rw [← resolve, h] at hending
  cases hending with
  | @reached sources target after final found hops within resolved =>
    refine ⟨within, target, after, hops, ?_⟩
    intro services' same
    -- The services are not those of the last step any more, but look the same to all guards.
    have hview := wf.view_hops steady hops
    obtain ⟨_, _, hstep⟩ := wf.step_congr steady (same.trans hview.symm) resolved
    rw [resolve, RouteTable.follow, hstep]

omit wf steady

/-- What it means that an entry is resolved hop by hop, up to the limit and no further. -/
structure HopByHop (definitions : List RouteDefinition) (t : RouteTable) (view : GuardServices → σ)
    (entry : RouteEntry) (services : GuardServices) : Prop where
  /-- No more routes are activated than the limit allows. -/
  activations : (t.activations entry.destination services).length ≤ RouterError.maxRedirects + 1
  /-- What the result says about them is true. -/
  activated : ∀ names, activated? (t.enter services entry).result = some names →
    names = (t.activations entry.destination services).map (·.route.name)
  /-- A loop is reported exactly for hops beyond the limit, wherever the last of them leads. -/
  loop : ∀ trail, (t.enter services entry).result = .error (.routingLoop trail) ↔
    trail.length = RouterError.maxRedirects + 1 ∧
      ∃ last after, t.Hops trail entry.destination services last after
  /-- An unknown name is reported exactly where the entry or a redirect within the limit leads to it. -/
  unknown : ∀ name, (t.enter services entry).result = .error (.invalidRouteName name) ↔
    RouteDefinition.find? definitions name = none ∧
      ∃ sources params after, sources.length ≤ RouterError.maxRedirects ∧
        t.Hops sources entry.destination services (.route name params) after
  /-- The name of a layout is reported exactly where the entry or a redirect within the limit leads to it. -/
  layout : ∀ name, (t.enter services entry).result = .error (.abstractRoute name) ↔
    (∃ d, RouteDefinition.find? definitions name = some d ∧ d.isLayout = true) ∧
      ∃ sources params after, sources.length ≤ RouterError.maxRedirects ∧
        t.Hops sources entry.destination services (.route name params) after
  /-- Nothing else is reported. -/
  otherwise : ∀ e, (t.enter services entry).result = .error e → e.isRefusal = true
  /-- A route that is reached is the one that the last target leads to by itself, as long as the view is the
  same. -/
  composed : ∀ route, (t.enter services entry).result = .ok route →
    route.redirects.length ≤ RouterError.maxRedirects ∧
      ∃ target after, t.Hops route.redirects entry.destination services target after ∧
        ∀ services', view services' = view services →
          (t.resolve target services').result = .ok { route with redirects := [] }

/-- **The limit is exact and hops compose.** In a built table whose guards are steady every entry is resolved hop by
hop. -/
theorem hop_by_hop {defaultPath : String} (built : build definitions defaultPath = .ok t)
    (steady : ∀ guard ∈ definitions.filterMap (·.guard), Guard.Steady view guard) (entry : RouteEntry)
    (services : GuardServices) : HopByHop definitions t view entry services := by
  obtain ⟨wf, _⟩ := of_build built
  refine ⟨length_activationsWithin_le _ _ _ _, ?_, ?_, ?_, ?_, ?_, ?_⟩
  · intro names h
    rw [enter_eq_resolve] at h
    exact names_activationsWithin h
  · intro trail
    rw [enter_eq_resolve]
    exact result_eq_routingLoop_iff
  · intro name
    rw [enter_eq_resolve, resolve, result_eq_error_iff (by simp)]
    constructor
    · rintro ⟨sources, other, params, after, within, hops, hconcrete⟩
      rcases wf.concrete_eq_error_iff.mp hconcrete with ⟨⟨⟩, hunknown⟩ | ⟨⟨⟩, _⟩
      exact ⟨hunknown, sources, params, after, within, hops⟩
    · rintro ⟨hunknown, sources, params, after, within, hops⟩
      exact ⟨sources, name, params, after, within, hops, wf.concrete_of_unknown hunknown⟩
  · intro name
    rw [enter_eq_resolve, resolve, result_eq_error_iff (by simp)]
    constructor
    · rintro ⟨sources, other, params, after, within, hops, hconcrete⟩
      rcases wf.concrete_eq_error_iff.mp hconcrete with ⟨⟨⟩, _⟩ | ⟨⟨⟩, hlayout⟩
      exact ⟨hlayout, sources, params, after, within, hops⟩
    · rintro ⟨⟨d, hknown, hlayout⟩, sources, params, after, within, hops⟩
      exact ⟨sources, name, params, after, within, hops, wf.concrete_of_layout hknown hlayout⟩
  · intro e h
    rw [enter_eq_resolve] at h
    exact isRefusal_of_follow h
  · intro route h
    rw [enter_eq_resolve] at h
    exact wf.resolve_of_hops steady h

/-- A page whose guard leaves a remark and sends everybody to the next one. -/
def relay (name next : String) : RouteDefinition :=
  ((RouteDefinition.named name).withUrl ("/" ++ name)).withGuard fun context services =>
    Guard.redirectTo (.route next Dictionary.empty) context.metadata
      (services.note (.visit "relay" context.routeName context.params))

/-- Six relays to a page that does not exist, and five to one that does. -/
def relays : List RouteDefinition :=
  (RouteDefinition.named "home").withUrl "/" ::
    [("a6", "a5"), ("a5", "a4"), ("a4", "a3"), ("a3", "a2"), ("a2", "a1"), ("a1", "nowhere"), ("b5", "b4"),
      ("b4", "b3"), ("b3", "b2"), ("b2", "b1"), ("b1", "home")].map fun pair => relay pair.1 pair.2

/-- The remarks that relays leave are not seen by any of them. -/
theorem steady_relays :
    ∀ guard ∈ relays.filterMap (·.guard), Guard.Steady GuardServices.signedIn guard := by
  intro guard hguard
  obtain ⟨d, hd, hown⟩ := List.mem_filterMap.mp hguard
  rcases List.mem_cons.mp hd with rfl | hd
  · cases hown
  · obtain ⟨pair, _, rfl⟩ := List.mem_map.mp hd
    cases hown
    exact ⟨fun _ _ => rfl, fun _ _ _ _ => ⟨rfl, rfl⟩⟩

/-- Six relays are a loop although the last one leads nowhere, five lead nowhere, and five others lead home. -/
theorem hop_by_hop_relays :
    ∃ t, build relays "/" = .ok t ∧
      (∀ guard ∈ relays.filterMap (·.guard), Guard.Steady GuardServices.signedIn guard) ∧
      (∃ last after, t.Hops ["a6", "a5", "a4", "a3", "a2", "a1"] (.route "a6" Dictionary.empty)
        signedInServices last after) ∧
      (∃ sources params after, sources.length ≤ RouterError.maxRedirects ∧
        t.Hops sources (.path "/a5" Dictionary.empty) signedInServices (.route "nowhere" params) after) ∧
      ∃ route target, route.name = "home" ∧ route.redirects = ["b5", "b4", "b3", "b2", "b1"] ∧
        (t.enter signedInServices (.url "/b5")).result = .ok route ∧
        (t.resolve target signedInServices).result = .ok { route with redirects := [] } := by
  have hcheck : (build relays "/").toOption.map (fun t =>
      ((t.enter signedInServices (.named "a6" Dictionary.empty)).result.map (·.name),
        (t.enter signedInServices (.url "/a5")).result.map (·.name),
        (t.enter signedInServices (.url "/b5")).result.toOption.map fun r => (r.name, r.redirects))) =
      some (.error (.routingLoop ["a6", "a5", "a4", "a3", "a2", "a1"]), .error (.invalidRouteName "nowhere"),
        some ("home", ["b5", "b4", "b3", "b2", "b1"])) := by
    decide +kernel
  obtain ⟨t, htable, hresults⟩ := Option.map_eq_some_iff.mp hcheck
  obtain ⟨hloop, hrest⟩ := Prod.mk.inj hresults
  obtain ⟨hunknown, hhome⟩ := Prod.mk.inj hrest
  obtain ⟨route, hroute, hparts⟩ := Option.map_eq_some_iff.mp hhome
  obtain ⟨hname, hredirects⟩ := Prod.mk.inj hparts
  have hbuild := Result.ok_of_toOption htable
  have hreached := Result.ok_of_toOption hroute
  have hhops := fun entry => hop_by_hop hbuild steady_relays entry signedInServices
  obtain ⟨_, target, _, _, hdirect⟩ := (hhops (.url "/b5")).composed route hreached
  exact ⟨t, hbuild, steady_relays, (((hhops _).loop _).mp (Result.error_of_map hloop)).2,
    (((hhops (.url "/a5")).unknown _).mp (Result.error_of_map hunknown)).2,
    route, target, hname, hredirects, hreached, hdirect _ rfl⟩

end RouteTable

end AdminConsole
