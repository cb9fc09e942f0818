import AdminConsole.Diagnostics.Basic
import AdminConsole.Route.Metadata
import AdminConsole.Route.Params

/-!
# Guards

A guard runs before a route is activated. It sees the route's name, its parameters and the metadata of
the page, which it may change, and works on the services of the console. In the end it lets the
activation go on or sends it elsewhere.
-/

set_option autoImplicit false

namespace AdminConsole

/-- Where a resolution may go: to a route by name, or to a path like one in a URL. -/
inductive Destination where
  | route (name : String) (params : RouteParams)
  | path (text : String) (query : Dictionary String)
  deriving DecidableEq, Repr

namespace Destination

/-- The destination as it is shown: its name or path. -/
def label : Destination → String
  | .route name _ => name
  | .path text _ => text

end Destination

/-- A remark that a guard leaves for developers. -/
inductive GuardNote where
  /-- The guard with this label ran for a route with these parameters. -/
  | visit (label route : String) (params : RouteParams)
  /-- The guard found this value among the metadata's extras. -/
  | extra (value : Option String)
  deriving DecidableEq, Repr

/-- What guards work with. -/
structure GuardServices where
  /-- Whether the user is signed in. -/
  signedIn : Bool
  /-- The values of the session. -/
  session : Dictionary String
  /-- The base path of the server, put in front of embedded pages. -/
  serverPath : String
  diagnostics : Diagnostics
  /-- The pages opened outside the console, each with its target, the first one first. -/
  opened : List (String × String)
  /-- The remarks of guards, the first one first. -/
  notes : List GuardNote
  deriving DecidableEq, Repr

namespace GuardServices

/-- The services with one more page opened outside the console. -/
def openPage (s : GuardServices) (url target : String) : GuardServices :=
  { s with opened := s.opened ++ [(url, target)] }

/-- The services with one more remark. -/
def note (s : GuardServices) (remark : GuardNote) : GuardServices :=
  { s with notes := s.notes ++ [remark] }

/-- The services with one more report. -/
def report (s : GuardServices) (severity : Severity) (message detail : String) : GuardServices :=
  { s with diagnostics := s.diagnostics.report severity message detail }

end GuardServices

/-- What a guard sees of the activation it runs in. -/
structure GuardContext where
  /-- The name of the route being activated, also for the guards of its ancestors. -/
  routeName : String
  params : RouteParams
  metadata : RouteMetadata
  deriving DecidableEq, Repr

/-- What a guard leaves behind. -/
structure GuardResult where
  /-- Where the guard sends the resolution; none lets the activation go on. -/
  redirect : Option Destination
  metadata : RouteMetadata
  services : GuardServices
  deriving DecidableEq, Repr

/-- A guard. -/
abbrev Guard := GuardContext → GuardServices → GuardResult

namespace Guard

/-- The result of a guard that lets the activation go on with this metadata. -/
def proceed (metadata : RouteMetadata) (services : GuardServices) : GuardResult :=
  ⟨none, metadata, services⟩

/-- The result of a guard that sends the resolution elsewhere. -/
def redirectTo (destination : Destination) (metadata : RouteMetadata) (services : GuardServices) :
    GuardResult :=
  ⟨some destination, metadata, services⟩

/-- Runs guards in order. Each sees the metadata as the ones before it left it; none runs after one that
redirects. -/
def runAll (routeName : String) (params : RouteParams) :
    List Guard → RouteMetadata → GuardServices → GuardResult
  | [], metadata, services => proceed metadata services
  | guard :: more, metadata, services =>
      let result := guard ⟨routeName, params, metadata⟩ services
      match result.redirect with
      | some _ => result
      | none => runAll routeName params more result.metadata result.services

end Guard

end AdminConsole
