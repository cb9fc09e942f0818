import AdminConsole.Bundle.Registry
import AdminConsole.Pattern.Basic

/-!
# Router errors

What can be wrong with a route table, and why a resolution, a link or a navigation fails.
-/

set_option autoImplicit false

namespace AdminConsole

/-- What is wrong with a route's effective URL. -/
inductive RouteUrlError where
  /-- The route can be activated, but neither it nor an ancestor has a URL. -/
  | missing
  /-- The URL is no pattern. -/
  | malformed (error : PatternError)
  deriving DecidableEq, Repr

/-- An error of the router. -/
inductive RouterError where
  | invalidPattern (route pattern : String) (reason : RouteUrlError)
  | duplicateRoute (name : String)
  | invalidDefault (path : String)
  | invalidRouteName (name : String)
  | abstractRoute (name : String)
  | missingParameter (param route : String)
  /-- More redirects than are followed, with the routes that redirected. -/
  | routingLoop (trail : List String)
  | dependencyLoad (route : String) (source : BundleError)
  deriving DecidableEq, Repr

namespace RouteUrlError

/-- The reason as it is shown. -/
def message : RouteUrlError → String
  | .missing => "concrete route has no URL"
  | .malformed error => error.message

end RouteUrlError

namespace RouterError

/-- The most redirects that one resolution follows. -/
def maxRedirects : Nat := 5

/-- The error as it is shown. -/
def message : RouterError → String
  | .invalidPattern route pattern reason =>
      let text := reason.message
      s!"Invalid route pattern '{pattern}' for '{route}': {text}"
  | .duplicateRoute name => s!"Duplicate route name: {name}"
  | .invalidDefault path => s!"Default path '{path}' does not match any concrete route"
  | .invalidRouteName name => s!"Invalid route name: {name}"
  | .abstractRoute name => s!"Route '{name}' is abstract"
  | .missingParameter param route => s!"Missing parameter '{param}' for route '{route}'"
  | .routingLoop trail =>
      let routes := Text.join " -> " trail
      s!"Routing loop: more than {maxRedirects} redirects ({routes})"
  | .dependencyLoad route source =>
      let text := source.message
      s!"Failed to load dependencies of '{route}': {text}"

end RouterError

end AdminConsole
