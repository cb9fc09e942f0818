import AdminConsole.Bundle.Registry
import AdminConsole.Navigation.Location
import AdminConsole.Route.Resolution

/-!
# Navigations

A navigation takes a ticket, resolves its destination, waits for the bundles of the route, and makes the
route the active one. If a later ticket was given out in the meantime the navigation is superseded: it
leaves the active route alone and reports nothing. A navigation that fails reports its error and leaves
the active route alone too.
-/

set_option autoImplicit false

namespace AdminConsole

/-- Where a navigation is asked to go. -/
inductive NavigationTarget where
  | path (path : String) (query : Dictionary String)
  | url (url : String)
  | location (location : String)
  | route (name : String) (params : RouteParams)
  deriving DecidableEq, Repr

/-- How a navigation ends that did not fail. -/
inductive NavigationOutcome where
  | activated (route : ResolvedRoute)
  | superseded

/-- What drives navigations. -/
structure Navigator where
  table : RouteTable
  mode : LocationMode
  services : GuardServices
  active : Option ResolvedRoute
  /-- The ticket given out last. Tickets count from one and have no end; one of 64 bits is the same number as long as
  fewer than `2 ^ 64` navigations have begun. -/
  lastTicket : Nat

/-- A navigation that has begun: its ticket, and the route it resolved to. -/
structure Navigation where
  ticket : Nat
  resolved : Except RouterError ResolvedRoute

namespace Navigator

/-- A navigator without an active route. -/
def start (table : RouteTable) (mode : LocationMode) (services : GuardServices) : Navigator :=
  { table, mode, services, active := none, lastTicket := 0 }

/-- The message under which a failed navigation is reported. -/
def failureMessage : String := "Navigation failed"

/-- Resolves the target of a navigation. -/
def resolve (n : Navigator) (target : NavigationTarget) : Resolution :=
  match target with
  | .path path query => n.table.resolvePath path query n.services
  | .url url => n.table.resolveUrl url n.services
  | .location location => n.table.resolveUrl (n.mode.routeUrl location) n.services
  | .route name params => n.table.resolveNamed name params n.services

/-- Begins a navigation. The ties that were met while resolving are given back as well. -/
def begin (n : Navigator) (target : NavigationTarget) :
    Navigation × List Ambiguity × Navigator :=
  let resolution := n.resolve target
  let ticket := n.lastTicket + 1
  (⟨ticket, resolution.result⟩, resolution.ambiguities,
    { n with lastTicket := ticket, services := resolution.services })

/-- Whether a later ticket was given out. -/
def isStale (n : Navigator) (ticket : Nat) : Bool :=
  n.lastTicket != ticket

/-- The navigator after a failure was reported. -/
def report (n : Navigator) (error : RouterError) : Navigator :=
  { n with services := n.services.report .error failureMessage error.message }

/-- Ends a navigation whose resolution failed. -/
def fail (n : Navigator) (error : RouterError) : Except RouterError NavigationOutcome × Navigator :=
  (.error error, n.report error)

/-- Ends a navigation to a route whose bundles were loaded or not. -/
def finish (n : Navigator) (ticket : Nat) (route : ResolvedRoute) (loads : Except BundleError Unit) :
    Except RouterError NavigationOutcome × Navigator :=
  if n.isStale ticket then (.ok .superseded, n)
  else
    match loads with
    | .error e => n.fail (.dependencyLoad route.name e)
    | .ok () => (.ok (.activated route), { n with active := some route })

/-- The location of a named route. -/
def href (n : Navigator) (name : String) (params : RouteParams) : Except RouterError String :=
  (n.table.href name params).map n.mode.location

end Navigator

end AdminConsole
