import AdminConsole.Route.Link

/-!
# Resolution

A destination is resolved in steps. A path is matched, or taken to the default route if nothing matches,
and a name is looked up. The route's parameters are materialized, and the guards of its chain run from
the outermost to its own. A redirect starts the next step; after five of them a sixth is an error.
-/

set_option autoImplicit false

namespace AdminConsole

/-- A route that was activated. -/
structure ResolvedRoute where
  definition : RouteDefinition
  params : RouteParams
  metadata : RouteMetadata
  /-- The bundles that have to be loaded, the ancestors' first. -/
  dependencies : List String
  /-- The routes that redirected on the way, in order. -/
  redirects : List String

namespace ResolvedRoute

/-- The name of the route. -/
def name (r : ResolvedRoute) : String := r.definition.name

/-- The view of the route. -/
def view (r : ResolvedRoute) : Option String := r.definition.view

/-- Two resolved routes are the same page when name, parameters and metadata are equal. -/
def same (a b : ResolvedRoute) : Bool :=
  a.name == b.name && a.params == b.params && a.metadata == b.metadata

end ResolvedRoute

/-- What one step of a resolution comes to. -/
inductive ResolutionStep where
  | resolved (route : ResolvedRoute)
  /-- A guard of the chain of `source` redirected. -/
  | redirect (source : String) (target : Destination)

/-- How a resolution ends, with the services as the guards left them and the ties that were met. -/
structure Resolution where
  result : Except RouterError ResolvedRoute
  services : GuardServices
  ambiguities : List Ambiguity

namespace CompiledRoute

/-- The guards of a route's chain, the outermost first. -/
def guards (r : CompiledRoute) : List Guard :=
  r.chain.filterMap (·.guard)

/-- Activates a route with these parameters. -/
def activateWith (r : CompiledRoute) (params : RouteParams) (services : GuardServices) :
    ResolutionStep × GuardServices :=
  let result := Guard.runAll r.name params r.guards r.metadata services
  match result.redirect with
  | some target => (.redirect r.name target, result.services)
  | none =>
      (.resolved {
        definition := r.definition
        params
        metadata := result.metadata
        dependencies := r.dependencies
        redirects := [] }, result.services)

/-- Activates a route with parameters from a path and supplied ones. -/
def activate (r : CompiledRoute) (captured supplied : Dictionary String) (services : GuardServices) :
    ResolutionStep × GuardServices :=
  r.activateWith (r.schema.materialize captured supplied) services

end CompiledRoute

namespace RouteTable

/-- The part of a query that the route's query list declares. -/
def declaredQuery (pattern : Option Pattern) (query : Dictionary String) : Dictionary String :=
  match pattern with
  | some p => query.filterKeys p.queryNames.contains
  | none => Dictionary.empty

/-- Resolves a path in one step. -/
def stepPath (t : RouteTable) (path : String) (query : Dictionary String) (services : GuardServices) :
    ResolutionStep × GuardServices :=
  let (route, captured) := t.lead path
  route.activate captured (declaredQuery route.pattern query) services

/-- Resolves a destination in one step. -/
def step (t : RouteTable) (destination : Destination) (services : GuardServices) :
    Except RouterError (ResolutionStep × GuardServices) :=
  match destination with
  | .path path query => .ok (t.stepPath path query services)
  | .route name params => do
      let r ← t.concrete name
      return r.activate Dictionary.empty params services

/-- The ties met when a destination is resolved in one step. -/
def stepAmbiguities (t : RouteTable) : Destination → List Ambiguity
  | .path path _ => t.ambiguities path
  | .route _ _ => []

/-- Resolves a destination after the redirects of `trail`, with so many more to follow. -/
def follow (t : RouteTable) (left : Nat) (trail : List String) (destination : Destination)
    (services : GuardServices) : Resolution :=
  let ties := t.stepAmbiguities destination
  match t.step destination services with
  | .error error => ⟨.error error, services, ties⟩
  | .ok (.resolved route, after) => ⟨.ok { route with redirects := trail }, after, ties⟩
  | .ok (.redirect source target, after) =>
      match left with
      | 0 => ⟨.error (.routingLoop (trail ++ [source])), after, ties⟩
      | left + 1 =>
          let rest := t.follow left (trail ++ [source]) target after
          { rest with ambiguities := ties ++ rest.ambiguities }

/-- Resolves a destination, following redirects. -/
def resolve (t : RouteTable) (destination : Destination) (services : GuardServices) : Resolution :=
  t.follow RouterError.maxRedirects [] destination services

/-- Resolves a path with a query. -/
def resolvePath (t : RouteTable) (path : String) (query : Dictionary String)
    (services : GuardServices) : Resolution :=
  t.resolve (.path path query) services

/-- Resolves a URL. -/
def resolveUrl (t : RouteTable) (url : String) (services : GuardServices) : Resolution :=
  let (path, query) := RouteUrl.split url
  t.resolvePath path query services

/-- Resolves a named route. -/
def resolveNamed (t : RouteTable) (name : String) (params : RouteParams) (services : GuardServices) :
    Resolution :=
  t.resolve (.route name params) services

end RouteTable

end AdminConsole
