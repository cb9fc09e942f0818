import AdminConsole.Navigation.Navigator

/-!
# Navigations side by side

Any number of navigations can be under way on one navigator. Each takes its ticket and resolves its target
at once when it begins, and ends at any later time, when the loads it waits for have settled. The traffic of
a navigator is the navigator with the navigations under way and the history of what has happened. The first
part says how it goes on, the second what the end of one navigation does, and the third what holds of the
traffic at any time.

The navigators of sessions go through such traffic (`Session.exists_traffic`), so what holds of it holds of them.
-/

set_option autoImplicit false

namespace AdminConsole

/-- Something that happens to a navigator. -/
inductive NavigationEvent where
  /-- A navigation to this target begins. -/
  | begin (target : NavigationTarget)
  /-- The navigation with this ticket ends, with what its loads came to if it has any. -/
  | finish (ticket : Nat) (loads : Except BundleError Unit)
  /-- Somebody else works on the services. -/
  | serve (services : GuardServices)

/-- Something that has happened to a navigator. -/
inductive NavigationNotice where
  | began (ticket : Nat)
  | ended (navigation : Navigation) (loads : Except BundleError Unit)
      (result : Except RouterError NavigationOutcome)

namespace NavigationNotice

/-- The ticket of a navigation that began. -/
def begun? : NavigationNotice → Option Nat
  | .began ticket => some ticket
  | .ended _ _ _ => none

/-- The ticket and the route of a navigation that activated a route. -/
def activation? : NavigationNotice → Option (Nat × ResolvedRoute)
  | .ended navigation _ (.ok (.activated route)) => some (navigation.ticket, route)
  | _ => none

end NavigationNotice

/-- A history of navigations, the first notice first. -/
abbrev NavigationHistory := List NavigationNotice

namespace NavigationHistory

/-- The tickets of the navigations that began, in order. -/
def begun (history : NavigationHistory) : List Nat :=
  history.filterMap NavigationNotice.begun?

/-- The activations, in order, each with its ticket. -/
def activations (history : NavigationHistory) : List (Nat × ResolvedRoute) :=
  history.filterMap NavigationNotice.activation?

/-- Whether another navigation began after the one with this ticket. -/
def Overtaken (history : NavigationHistory) (ticket : Nat) : Prop :=
  ∃ earlier later other, history = earlier ++ .began ticket :: later ∧ .began other ∈ later

end NavigationHistory

/-- A navigator with its navigations. -/
structure Traffic where
  navigator : Navigator
  /-- The navigations that have not ended, the oldest first. -/
  underway : List Navigation
  history : NavigationHistory

/-! ## How traffic goes on -/

/-- Ends a navigation, with what its loads came to if its target was resolved. -/
def Navigator.conclude (n : Navigator) (navigation : Navigation) (loads : Except BundleError Unit) :
    Except RouterError NavigationOutcome × Navigator :=
  match navigation.resolved with
  | .error e => n.fail e
  | .ok route => n.finish navigation.ticket route loads

namespace Traffic

/-- A navigator on which nothing has begun. -/
def start (table : RouteTable) (mode : LocationMode) (services : GuardServices) : Traffic :=
  { navigator := Navigator.start table mode services, underway := [], history := [] }

/-- The traffic after a navigation has begun. -/
def enter (s : Traffic) (target : NavigationTarget) : Traffic :=
  let (navigation, _, navigator) := s.navigator.begin target
  { navigator
    underway := s.underway ++ [navigation]
    history := s.history ++ [.began navigation.ticket] }

/-- The traffic after a navigation that was under way has ended. -/
def leave (s : Traffic) (navigation : Navigation) (loads : Except BundleError Unit) : Traffic :=
  let (result, navigator) := s.navigator.conclude navigation loads
  { navigator
    underway := s.underway.filter fun other => other.ticket != navigation.ticket
    history := s.history ++ [.ended navigation loads result] }

/-- The traffic after one event. Nothing happens at the end of a navigation that is not under way. -/
def step (s : Traffic) : NavigationEvent → Traffic
  | .begin target => s.enter target
  | .finish ticket loads =>
      match s.underway.find? fun navigation => navigation.ticket == ticket with
      | some navigation => s.leave navigation loads
      | none => s
  | .serve services => { s with navigator := { s.navigator with services } }

/-- The traffic after some events. -/
def run (s : Traffic) (events : List NavigationEvent) : Traffic :=
  events.foldl step s

/-- Events in two parts happen one part after the other. -/
theorem run_append (s : Traffic) (first second : List NavigationEvent) :
    s.run (first ++ second) = (s.run first).run second :=
  List.foldl_append

end Traffic

/-! ## The end of one navigation -/

namespace Navigator

variable (n : Navigator) (navigation : Navigation) (loads : Except BundleError Unit)

/-- A navigation activates its route exactly if target and loads were all right and its ticket is the
last one. -/
theorem conclude_eq_activated_iff (route : ResolvedRoute) :
    (n.conclude navigation loads).1 = .ok (.activated route) ↔
      navigation.resolved = .ok route ∧ loads = .ok () ∧ navigation.ticket = n.lastTicket := by
  obtain ⟨ticket, resolved⟩ := navigation
  cases resolved with
  | error e => simp [conclude, fail]
  | ok resolved =>
    by_cases hlast : ticket = n.lastTicket
    · cases loads with
      | error e => simp [conclude, finish, isStale, hlast, fail]
      | ok _ => simp [conclude, finish, isStale, hlast]
    · have hstale : n.isStale ticket = true := by
        simp only [isStale, bne_iff_ne, ne_eq]
        exact fun h => hlast h.symm
      simp [conclude, finish, hstale, hlast]

/-- A navigation that is activated makes its route the active one. -/
theorem active_conclude_of_activated {route : ResolvedRoute}
    (h : (n.conclude navigation loads).1 = .ok (.activated route)) :
    (n.conclude navigation loads).2.active = some route := by
  obtain ⟨hresolved, rfl, hlast⟩ := (conclude_eq_activated_iff n navigation loads route).mp h
  simp [conclude, hresolved, finish, isStale, hlast]

/-- A navigation that activates nothing leaves the active route alone. -/
theorem active_conclude_of_not_activated
    (h : ∀ route, (n.conclude navigation loads).1 ≠ .ok (.activated route)) :
    (n.conclude navigation loads).2.active = n.active := by
  obtain ⟨ticket, resolved⟩ := navigation
  cases resolved with
  | error e => rfl
  | ok resolved =>
    simp only [conclude, finish] at h ⊢
    split
    · rfl
    · rename_i hfresh
      cases loads with
      | error e => rfl
      | ok _ => exact absurd (by simp [hfresh]) (h resolved)

/-- A navigation that ends is given no ticket. -/
@[simp] theorem lastTicket_conclude :
    (n.conclude navigation loads).2.lastTicket = n.lastTicket := by
  obtain ⟨ticket, resolved⟩ := navigation
  cases resolved with
  | error e => rfl
  | ok resolved =>
    simp only [conclude, finish]
    split
    · rfl
    · cases loads <;> rfl

end Navigator

end AdminConsole
