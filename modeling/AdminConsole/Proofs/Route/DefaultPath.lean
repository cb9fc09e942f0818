import AdminConsole.Proofs.Route.DeclaredQuery
import AdminConsole.Proofs.Route.Guarded
import AdminConsole.Proofs.Route.Preferred

/-!
# Paths that no page matches

A path that no page matches is taken to the default route, which was found when the table was built, and the pattern of
this route is matched to the default path once more. The default path itself is resolved by a search like any other.
Main statement: the two come to the same. The same activations follow one another, with the same parameters and the
same guards, the same route or error comes out, and the guards leave the same services behind. Only the ties that the
search meets are reported in addition.
-/

set_option autoImplicit false

namespace AdminConsole

namespace RouteTable

variable {definitions : List RouteDefinition} {t : RouteTable}

/-! ## Destinations with the same arrival -/

/-- Destinations that arrive at the same route with the same parameters are followed alike, but for the ties that are
met when the route is found. -/
theorem follow_congr {a b : Destination} (same : t.arrival a = t.arrival b) (left : Nat) (trail : List String)
    (services : GuardServices) :
    ∃ result after later, t.follow left trail a services = ⟨result, after, t.stepAmbiguities a ++ later⟩ ∧
      t.follow left trail b services = ⟨result, after, t.stepAmbiguities b ++ later⟩ := by
  have hstep : t.step a services = t.step b services := by
    rw [step_eq_arrival, step_eq_arrival, same]
  unfold follow
  rw [hstep]
  split
  · exact ⟨_, _, [], by rw [List.append_nil], by rw [List.append_nil]⟩
  · exact ⟨_, _, [], by rw [List.append_nil], by rw [List.append_nil]⟩
  · split
    · exact ⟨_, _, [], by rw [List.append_nil], by rw [List.append_nil]⟩
    · exact ⟨_, _, _, rfl, rfl⟩

/-- Two destinations at which one arrives in the same way activate the same routes. -/
theorem activations_congr {a b : Destination} (same : t.arrival a = t.arrival b) (services : GuardServices) :
    t.activations a services = t.activations b services := by
  unfold activations activationsWithin
  rw [same]

/-! ## The default route without a search -/

/-- The step to the default route that is taken without a search. -/
def stepDefault (t : RouteTable) (query : Dictionary String) (services : GuardServices) :
    ResolutionStep × GuardServices :=
  t.fallback.activate t.recaptured (declaredQuery t.fallback.pattern query) services

/-- What nothing matches leads to the default route. -/
theorem lead_of_unmatched {path : String} (h : t.match? path = none) : t.lead path = (t.fallback, t.recaptured) := by
  simp only [lead, h]

/-- The search finds the default route for the default path, with the values of its pattern there. -/
theorem Built.lead_defaultPath (wf : t.Built definitions) : t.lead t.defaultPath = (t.fallback, t.recaptured) := by
  obtain ⟨found, hfound, _⟩ := wf.fallback
  obtain ⟨hroute, hcaptured⟩ := wf.of_match?_defaultPath hfound
  rw [wf.lead_eq (.inl hfound), hroute, hcaptured]

/-- What nothing matches arrives where the default path does. -/
theorem Built.arrival_of_unmatched (wf : t.Built definitions) {path : String} (h : t.match? path = none)
    (query : Dictionary String) : t.arrival (.path path query) = t.arrival (.path t.defaultPath query) := by
  simp only [arrival, lead_of_unmatched h, wf.lead_defaultPath]

/-- What it means that a path behaves as the default path, with a query. -/
structure BehavesAsDefault (t : RouteTable) (path : String) (query : Dictionary String)
    (services : GuardServices) : Prop where
  /-- The first step is the one without a search, for this path and for the default path. -/
  first : t.stepPath path query services = t.stepDefault query services ∧
    t.stepPath t.defaultPath query services = t.stepDefault query services
  result : (t.resolvePath path query services).result = (t.resolvePath t.defaultPath query services).result
  after : (t.resolvePath path query services).services = (t.resolvePath t.defaultPath query services).services
  /-- The same guards see the same. -/
  activations : t.activations (.path path query) services = t.activations (.path t.defaultPath query) services
  /-- Only ties between the pages that match the default path are reported in addition. -/
  ties : (t.resolvePath t.defaultPath query services).ambiguities =
    t.ambiguities t.defaultPath ++ (t.resolvePath path query services).ambiguities

/-- No ties are met for a path that no route matches. -/
theorem ambiguities_of_unmatched {path : String} (h : t.match? path = none) : t.ambiguities path = [] := by
  unfold match? choose at h
  unfold ambiguities choose
  split at h
  · rfl
  · cases h

/-- A path that no route matches behaves as the default path, with its own query. -/
theorem Built.behavesAsDefault (wf : t.Built definitions) {path : String} (h : t.match? path = none)
    (query : Dictionary String) (services : GuardServices) : t.BehavesAsDefault path query services := by
  have same := wf.arrival_of_unmatched h query
  obtain ⟨result, after, later, hpath, hdefault⟩ := follow_congr same RouterError.maxRedirects [] services
  rw [stepAmbiguities, ambiguities_of_unmatched h, List.nil_append] at hpath
  refine ⟨⟨?_, ?_⟩, ?_, ?_, activations_congr same services, ?_⟩
  · simp only [stepPath, lead_of_unmatched h, stepDefault]
  · simp only [stepPath, wf.lead_defaultPath, stepDefault]
  · rw [resolvePath, resolvePath, resolve, resolve, hpath, hdefault]
  · rw [resolvePath, resolvePath, resolve, resolve, hpath, hdefault]
  · rw [resolvePath, resolvePath, resolve, resolve, hpath, hdefault]
    rfl

/-- **A path that no page matches behaves as the default path**, with every query. -/
theorem unmatched_behaves_as_default {defaultPath : String} (built : build definitions defaultPath = .ok t)
    {path : String} (unmatched : ∀ r ∈ t.routes, r.answers path = false) (query : Dictionary String)
    (services : GuardServices) : t.defaultPath = defaultPath ∧ t.BehavesAsDefault path query services := by
  obtain ⟨wf, hdefault⟩ := of_build built
  exact ⟨hdefault, wf.behavesAsDefault (choose_eq_none_iff.mpr unmatched) query services⟩

/-- A start page, and a page of a list whose guard leaves a remark and sends everybody to the start page. -/
def startRoutes : List RouteDefinition :=
  [(RouteDefinition.named "home").withUrl "/",
    ((RouteDefinition.named "list").withUrl "/list/:page?sort").withGuard fun context services =>
      Guard.redirectTo (.route "home" Dictionary.empty) context.metadata
        (services.note (.visit "list" context.routeName context.params))]

/-- The default path is a page of the list. An unknown path leads past the same guard, which sees the page of the
default path and the sorting of the query, to the start page. -/
theorem unmatched_behaves_as_default_list :
    ∃ t, build startRoutes "/list/1" = .ok t ∧ (∀ r ∈ t.routes, r.answers "/a/b/c" = false) ∧
      t.BehavesAsDefault "/a/b/c" (Dictionary.ofList [("page", "7"), ("sort", "name")]) signedInServices ∧
      ∃ route, (t.resolvePath "/list/1" (Dictionary.ofList [("page", "7"), ("sort", "name")])
          signedInServices).result = .ok route ∧
        (t.resolvePath "/a/b/c" (Dictionary.ofList [("page", "7"), ("sort", "name")])
          signedInServices).result = .ok route ∧
        route.name = "home" ∧ route.redirects = ["list"] ∧
        (t.resolvePath "/a/b/c" (Dictionary.ofList [("page", "7"), ("sort", "name")])
          signedInServices).services.notes =
            [.visit "list" "list" (Dictionary.ofList [("page", "1"), ("sort", "name")])] := by
  have hcheck : (build startRoutes "/list/1").toOption.map (fun t => (t.routes.all fun r => !r.answers "/a/b/c",
      (t.resolvePath "/list/1" (Dictionary.ofList [("page", "7"), ("sort", "name")])
        signedInServices).result.toOption.map (fun r => (r.name, r.redirects)),
      (t.resolvePath "/list/1" (Dictionary.ofList [("page", "7"), ("sort", "name")])
        signedInServices).services.notes)) =
      some (true, some ("home", ["list"]),
        [.visit "list" "list" (Dictionary.ofList [("page", "1"), ("sort", "name")])]) := by
    decide +kernel
  obtain ⟨t, htable, hparts⟩ := Option.map_eq_some_iff.mp hcheck
  obtain ⟨hsilent, hparts⟩ := Prod.mk.inj hparts
  obtain ⟨hresult, hnotes⟩ := Prod.mk.inj hparts
  obtain ⟨route, hroute, hnames⟩ := Option.map_eq_some_iff.mp hresult
  obtain ⟨hname, hredirects⟩ := Prod.mk.inj hnames
  have built := Result.ok_of_toOption htable
  have unmatched : ∀ r ∈ t.routes, r.answers "/a/b/c" = false := by simpa using hsilent
  obtain ⟨hdefault, behaves⟩ := unmatched_behaves_as_default built unmatched
    (Dictionary.ofList [("page", "7"), ("sort", "name")]) signedInServices
  have hresolved := Result.ok_of_toOption hroute
  have hthere := behaves.result
  have hafter := behaves.after
  rw [hdefault] at hthere hafter
  exact ⟨t, built, unmatched, behaves, route, hresolved, hthere.trans hresolved, hname, hredirects,
    by rw [hafter, hnotes]⟩

end RouteTable

end AdminConsole
