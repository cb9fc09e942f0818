import AdminConsole.Proofs.Bundle.Answers
import AdminConsole.Proofs.Navigation.LatestWins
import AdminConsole.Proofs.Navigation.Resolved
import Mathlib.Logic.Function.Basic

/-!
# Navigations and their loads

A navigator and its loader together: a navigation that begins calls for the bundles of its route, all of them at
once, its calls go through their moments among those of all others, and at any time it may look what they have
come to, and ends as soon as that is settled. Everything that happens is traffic at the navigator and traffic at
the loader, so what was shown of either holds of both. What ties the two together is that the calls of a
navigation are for the bundles of its route, and stay so; this and what follows of it for the routes that became
active is `JointTraffic.Sound`, which holds at any time.

Navigator and loader of a session go through such traffic together (`Session.exists_jointTraffic`), with the calls that
its jobs wait for.
-/

set_option autoImplicit false

namespace AdminConsole

/-- The bundles that a navigation has to wait for. -/
def Navigation.dependencies (navigation : Navigation) : List String :=
  match navigation.resolved with
  | .ok route => route.dependencies
  | .error _ => []

/-- Something that happens to a navigator or at its loader. -/
inductive JointEvent where
  /-- A navigation to this target begins. -/
  | begin (target : NavigationTarget)
  /-- The navigation with this ticket looks what its calls have come to. -/
  | look (ticket : Nat)
  /-- One of the calls moves, or somebody else calls for a bundle. -/
  | load (move : LoadMove)
  /-- Somebody else works on the services. -/
  | serve (work : GuardServices → GuardServices)

/-- A navigator with its navigations, and its loader with the calls. -/
structure JointTraffic where
  visits : Traffic
  loads : LoadTraffic
  /-- The place of the first call of the navigation with this ticket; the others follow it. -/
  firstCall : Nat → Nat

namespace JointTraffic

/-- A navigator on which nothing has begun, and a loader at which nobody has called. -/
def start (table : RouteTable) (mode : LocationMode) (services : GuardServices)
    (registry : BundleRegistry) (debug : Bool) (plan : FetchPlan) : JointTraffic :=
  { visits := Traffic.start table mode services
    loads := LoadTraffic.start registry debug plan
    firstCall := fun _ => 0 }

/-- The places of the calls of a navigation. -/
def placesOf (s : JointTraffic) (navigation : Navigation) : List Nat :=
  List.range' (s.firstCall navigation.ticket) navigation.dependencies.length

/-- How far the calls of a navigation have come together. -/
def progress (s : JointTraffic) (navigation : Navigation) : Progress BundleError :=
  s.loads.statusOf (s.placesOf navigation)

/-- The traffic after a navigation has begun. -/
def enter (s : JointTraffic) (target : NavigationTarget) : JointTraffic :=
  let navigation := (s.visits.navigator.begin target).1
  { visits := s.visits.enter target
    loads := s.loads.callAll navigation.dependencies
    firstCall := Function.update s.firstCall navigation.ticket s.loads.calls.length }

/-- The traffic after one event. A navigation that looks ends if its calls have, and waits on otherwise. -/
def step (s : JointTraffic) : JointEvent → JointTraffic
  | .begin target => s.enter target
  | .look ticket =>
      match s.visits.underway.find? fun navigation => navigation.ticket == ticket with
      | none => s
      | some navigation =>
          match Session.loadResult? (s.progress navigation) with
          | none => s
          | some result => { s with visits := s.visits.leave navigation result }
  | .load move => { s with loads := s.loads.step move }
  | .serve work =>
      { s with visits := s.visits.step (.serve (work s.visits.navigator.services)) }

/-- The traffic after some events. -/
def run (s : JointTraffic) (events : List JointEvent) : JointTraffic :=
  events.foldl step s

/-- Events in two parts happen one part after the other. -/
theorem run_append (s : JointTraffic) (first second : List JointEvent) :
    s.run (first ++ second) = (s.run first).run second :=
  List.foldl_append

/-- The calls of a navigation that begins come after all others. -/
theorem firstCall_enter_self (s : JointTraffic) (target : NavigationTarget) :
    (s.enter target).firstCall (s.visits.navigator.begin target).1.ticket = s.loads.calls.length :=
  Function.update_self _ _ _

/-- The calls of the other navigations keep their places. -/
theorem firstCall_enter_of_ne (s : JointTraffic) {target : NavigationTarget} {ticket : Nat}
    (h : ticket ≠ (s.visits.navigator.begin target).1.ticket) :
    (s.enter target).firstCall ticket = s.firstCall ticket :=
  Function.update_of_ne h _ _

/-! ## What an event comes to -/

/-- What an event comes to, if it comes to anything. -/
inductive Happened (s : JointTraffic) : JointTraffic → Prop where
  | same : Happened s s
  | began (target : NavigationTarget) : Happened s (s.enter target)
  | ended (navigation : Navigation) (result : Except BundleError Unit)
      (underway : navigation ∈ s.visits.underway)
      (settled : Session.loadResult? (s.progress navigation) = some result) :
      Happened s { s with visits := s.visits.leave navigation result }
  | moved (move : LoadMove) : Happened s { s with loads := s.loads.step move }
  | served (work : GuardServices → GuardServices) :
      Happened s { s with visits := s.visits.step (.serve (work s.visits.navigator.services)) }

/-- Every event is one of these. -/
theorem happened_step (s : JointTraffic) (event : JointEvent) : Happened s (s.step event) := by
  cases event with
  | begin target => exact .began target
  | look ticket =>
    unfold step
    dsimp only
    split
    · exact .same
    · rename_i navigation hfound
      split
      · exact .same
      · rename_i result hsettled
        exact .ended navigation result (List.mem_of_find?_eq_some hfound) hsettled
  | load move => exact .moved move
  | serve work => exact .served work

/-- A navigation under way that looks ends with what its calls have come to. -/
theorem step_look {s : JointTraffic} (orderly : s.visits.Orderly) {navigation : Navigation}
    (underway : navigation ∈ s.visits.underway) {result : Except BundleError Unit}
    (settled : Session.loadResult? (s.progress navigation) = some result) :
    s.step (.look navigation.ticket) = { s with visits := s.visits.leave navigation result } := by
  simp only [step, orderly.find?_underway underway, settled]

/-- A navigation whose target was refused waits for nothing. -/
theorem loadResult?_of_refused (s : JointTraffic) {navigation : Navigation} {e : RouterError}
    (refused : navigation.resolved = .error e) :
    Session.loadResult? (s.progress navigation) = some (.ok ()) := by
  have hnothing : s.placesOf navigation = [] := by
    simp only [placesOf, Navigation.dependencies, refused]
    rfl
  rw [progress, hnothing]
  rfl

/-! ## The invariant -/

/-- What holds of a navigator and its loader at any time. -/
structure Sound (registry : BundleRegistry) (s : JointTraffic) : Prop where
  visits : s.visits.Orderly
  loads : s.loads.Orderly
  truthful : s.loads.Truthful
  registry : s.loads.loader.registry = registry
  /-- The calls of a navigation under way are for the bundles of its route. -/
  asks : ∀ navigation ∈ s.visits.underway, ∀ (index : Nat) name,
    navigation.dependencies[index]? = some name →
      s.loads.Asks (s.firstCall navigation.ticket + index) name
  /-- A navigation that activated a route was resolved to it, and all bundles of the route are loaded. -/
  activated : ∀ navigation loads route,
    .ended navigation loads (.ok (.activated route)) ∈ s.visits.history →
      navigation.resolved = .ok route ∧
        ∀ name ∈ route.dependencies, s.loads.loader.isLoaded name = true

/-- The joint traffic is sound at its start. -/
theorem sound_start (table : RouteTable) (mode : LocationMode) (services : GuardServices)
    (registry : BundleRegistry) (debug : Bool) (plan : FetchPlan) :
    (start table mode services registry debug plan).Sound registry where
  visits := Traffic.orderly_start table mode services
  loads := LoadTraffic.orderly_start registry debug plan
  truthful := LoadTraffic.truthful_start registry debug plan
  registry := rfl
  asks := by simp [start, Traffic.start]
  activated := by simp [start, Traffic.start]

namespace Sound

variable {registry : BundleRegistry} {s : JointTraffic}

/-- Moves at the loader change nothing that was sound. -/
theorem run_loads (h : s.Sound registry) (moves : List LoadMove) :
    ({ s with loads := s.loads.run moves } : JointTraffic).Sound registry where
  visits := h.visits
  loads := h.loads.run moves
  truthful := h.truthful.run h.loads moves
  registry := (s.loads.registry_run moves).trans h.registry
  asks := fun navigation hmem index name hname =>
    LoadTraffic.asks_run (h.asks navigation hmem index name hname) moves
  activated := by
    intro navigation loads route hended
    obtain ⟨hresolved, hloaded⟩ := h.activated navigation loads route hended
    exact ⟨hresolved, fun name hname =>
      (s.loads.grows_run moves).loaded name (hloaded name hname)⟩

/-- The joint traffic stays sound when a navigation begins. -/
theorem enter (h : s.Sound registry) (target : NavigationTarget) :
    (s.enter target).Sound registry := by
  have hcalled := h.run_loads ((s.visits.navigator.begin target).1.dependencies.map .call)
  refine ⟨h.visits.enter target, hcalled.loads, hcalled.truthful, hcalled.registry, ?_, ?_⟩
  · intro navigation hmem index name hname
    rcases List.mem_append.mp hmem with hmem | hmem
    · -- Tickets are given out one after another, so the new one is none of those under way.
      have hbegun := h.visits.ticket_le (h.visits.pending navigation hmem)
      have hne : navigation.ticket ≠ (s.visits.navigator.begin target).1.ticket := by
        simp only [Navigator.begin]
        omega
      rw [firstCall_enter_of_ne s hne]
      exact hcalled.asks navigation hmem index name hname
    · obtain rfl := List.mem_singleton.mp hmem
      have hasks := s.loads.asks_callAll hname
      rw [← s.firstCall_enter_self target] at hasks
      exact hasks
  · intro navigation loads route hended
    rcases List.mem_append.mp hended with hended | hended
    · exact hcalled.activated navigation loads route hended
    · cases List.mem_singleton.mp hended

/-- The calls of a navigation under way are for the bundles of its route. -/
theorem exists_place (h : s.Sound registry) {navigation : Navigation}
    (underway : navigation ∈ s.visits.underway) {name : String}
    (hname : name ∈ navigation.dependencies) :
    ∃ place ∈ s.placesOf navigation, s.loads.Asks place name := by
  obtain ⟨index, hindex⟩ := List.mem_iff_getElem?.mp hname
  have hlt := (List.getElem?_eq_some_iff.mp hindex).1
  refine ⟨s.firstCall navigation.ticket + index, ?_, h.asks navigation underway index name hindex⟩
  rw [placesOf, List.mem_range'_1]
  omega

/-- **A navigation whose calls have all succeeded** has its bundles loaded. -/
theorem isLoaded_of_progress (h : s.Sound registry) {navigation : Navigation}
    (underway : navigation ∈ s.visits.underway) (success : s.progress navigation = .succeeded) :
    ∀ name ∈ navigation.dependencies, s.loads.loader.isLoaded name = true :=
  h.truthful.isLoaded_of_statusOf (fun _ hname => h.exists_place underway hname) success

/-- The joint traffic stays sound when a navigation ends whose bundles have come to a result. -/
theorem ended (h : s.Sound registry) {navigation : Navigation}
    (underway : navigation ∈ s.visits.underway) {result : Except BundleError Unit}
    (settled : Session.loadResult? (s.progress navigation) = some result) :
    ({ s with visits := s.visits.leave navigation result } : JointTraffic).Sound registry := by
  refine ⟨h.visits.leave underway result, h.loads, h.truthful, h.registry, ?_, ?_⟩
  · intro other hmem
    exact h.asks other (List.mem_filter.mp hmem).1
  · intro other loads route hended
    rcases List.mem_append.mp hended with hended | hended
    · exact h.activated other loads route hended
    · injection List.mem_singleton.mp hended with hnavigation hloads hresult
      subst hnavigation hloads
      obtain ⟨hresolved, rfl, _⟩ :=
        (Navigator.conclude_eq_activated_iff s.visits.navigator other loads route).mp hresult.symm
      have hsuccess : s.progress other = .succeeded := by
        cases hprogress : s.progress other with
        | succeeded => rfl
        | pending => simp [hprogress, Session.loadResult?] at settled
        | failed e => simp [hprogress, Session.loadResult?] at settled
      have hdependencies : other.dependencies = route.dependencies := by
        simp only [Navigation.dependencies, hresolved]
      rw [← hdependencies]
      exact ⟨hresolved, h.isLoaded_of_progress underway hsuccess⟩

/-- The joint traffic stays sound in every event. -/
theorem step (h : s.Sound registry) (event : JointEvent) : (s.step event).Sound registry := by
  have hhappened := s.happened_step event
  generalize s.step event = s' at hhappened
  cases hhappened with
  | same => exact h
  | began target => exact h.enter target
  | ended navigation result underway settled => exact h.ended underway settled
  | moved move => exact h.run_loads [move]
  | served work =>
    exact ⟨h.visits.serve _, h.loads, h.truthful, h.registry, h.asks, h.activated⟩

/-- The joint traffic is sound at any time. -/
theorem run (h : s.Sound registry) (events : List JointEvent) : (s.run events).Sound registry := by
  induction events generalizing s with
  | nil => exact h
  | cons event events ih => exact ih (h.step event)

end Sound

/-- What holds of the services and of all resolutions holds at any time, also where others work on the
services, as long as they keep it. -/
theorem within_run {t : RouteTable} {Holds : GuardServices → Prop}
    {Good : Except RouterError ResolvedRoute → Prop} {s : JointTraffic}
    (h : s.visits.Within t Holds Good) (keeps : t.Keeps Holds Good)
    (reports : ∀ services message, Holds services →
      Holds (services.report .error Navigator.failureMessage message))
    (events : List JointEvent)
    (outside : ∀ work, .serve work ∈ events → ∀ services, Holds services → Holds (work services)) :
    (s.run events).visits.Within t Holds Good := by
  induction events generalizing s with
  | nil => exact h
  | cons event events ih =>
    have hrest : ∀ work, .serve work ∈ events → ∀ services, Holds services → Holds (work services) :=
      fun work hmem => outside work (List.mem_cons_of_mem event hmem)
    have hstep : (s.step event).visits.Within t Holds Good := by
      cases event with
      | begin target => exact h.enter keeps target
      | look ticket =>
        simp only [JointTraffic.step]
        split
        · exact h
        · rename_i navigation hfound
          split
          · exact h
          · exact h.leave reports (List.mem_of_find?_eq_some hfound) _
      | load move => exact h
      | serve work => exact h.serve (outside work List.mem_cons_self _ h.services)
    exact ih hstep hrest

/-- What was loaded stays loaded, whatever happens. -/
theorem grows_run (s : JointTraffic) (events : List JointEvent) :
    s.loads.loader.Grows (s.run events).loads.loader := by
  induction events generalizing s with
  | nil => exact Loader.Grows.refl s.loads.loader
  | cons event events ih =>
    have hhappened := s.happened_step event
    have hstep : s.loads.loader.Grows (s.step event).loads.loader := by
      generalize s.step event = s' at hhappened
      cases hhappened with
      | same => exact Loader.Grows.refl _
      | began target => exact s.loads.grows_run _
      | ended navigation result underway settled => exact Loader.Grows.refl _
      | moved move => exact s.loads.grows_run [move]
      | served work => exact Loader.Grows.refl _
    exact hstep.trans (ih (s.step event))

end JointTraffic

end AdminConsole
