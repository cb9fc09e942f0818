import AdminConsole.Route.Guard
import AdminConsole.Text.Cut

/-!
# Route definitions

A route has a dotted name, and the routes whose names are the beginnings of it before a dot are its
ancestors. What a definition does not say itself is inherited from them.
-/

set_option autoImplicit false

namespace AdminConsole

/-- A route as it is registered. -/
structure RouteDefinition where
  name : String
  /-- The fragment that the route adds to its ancestors' URL. -/
  url : Option String
  /-- Whether the route is a mere layout for others and is never activated. -/
  isLayout : Bool
  view : Option String
  guard : Option Guard
  /-- The parameters it declares, each name once, in order of first declaration. -/
  params : List (String × ParamDescriptor)
  dependencies : List String
  metadata : Option RouteMetadata

namespace RouteDefinition

/-- A route about which only the name is known. -/
def named (name : String) : RouteDefinition :=
  { name, url := none, isLayout := false, view := none, guard := none, params := [],
    dependencies := [], metadata := none }

/-- The route with a URL fragment. -/
def withUrl (d : RouteDefinition) (url : String) : RouteDefinition := { d with url := some url }

/-- The route as a layout. -/
def asLayout (d : RouteDefinition) : RouteDefinition := { d with isLayout := true }

/-- The route with a view. -/
def withView (d : RouteDefinition) (view : String) : RouteDefinition := { d with view := some view }

/-- The route with a guard. -/
def withGuard (d : RouteDefinition) (guard : Guard) : RouteDefinition :=
  { d with guard := some guard }

/-- The route with one more parameter, or another descriptor of one it has. -/
def withParam (d : RouteDefinition) (name : String) (descriptor : ParamDescriptor) :
    RouteDefinition :=
  { d with params := declareParam name descriptor d.params }

/-- The route with one more bundle it depends on. -/
def withDependency (d : RouteDefinition) (bundle : String) : RouteDefinition :=
  { d with dependencies := d.dependencies ++ [bundle] }

/-- The route with metadata of its own. -/
def withMetadata (d : RouteDefinition) (metadata : RouteMetadata) : RouteDefinition :=
  { d with metadata := some metadata }

/-- The beginnings of a text before each of its dots, the shortest first. -/
def beginnings : List Char → List (List Char)
  | [] => []
  | c :: rest =>
      let longer := (beginnings rest).map (c :: ·)
      if c = '.' then [] :: longer else longer

/-- The names of a route's possible ancestors, the outermost first. -/
def ancestorNames (name : String) : List String :=
  (beginnings name.toList).map String.ofList

/-- The name of the enclosing route. -/
def parentName? (d : RouteDefinition) : Option String :=
  (Text.cutLast '.' d.name.toList).map fun parts => String.ofList parts.1

/-- The definition of a name in a list. -/
def find? (definitions : List RouteDefinition) (name : String) : Option RouteDefinition :=
  definitions.find? fun d => d.name == name

/-- The registered ancestors of a route, the outermost first, and the route itself. -/
def chain (definitions : List RouteDefinition) (d : RouteDefinition) : List RouteDefinition :=
  (ancestorNames d.name).filterMap (find? definitions) ++ [d]

end RouteDefinition

end AdminConsole
