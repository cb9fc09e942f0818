import AdminConsole.Pattern.Match
import AdminConsole.Route.Definition
import AdminConsole.Route.Error

/-!
# The route table

A table is built once from the registered definitions, in order. Building folds into each route what it
inherits from its ancestors and refuses repeated names, URLs that are no patterns, and a default path
that no route answers. Of the routes that match a path the most specific one is chosen, the first
registered of several equally specific ones.
-/

set_option autoImplicit false

namespace AdminConsole

/-- A route with everything it inherits. -/
structure CompiledRoute where
  definition : RouteDefinition
  /-- The effective URL; none if neither the route nor an ancestor has one. -/
  pattern : Option Pattern
  schema : ParamSchema
  metadata : RouteMetadata
  /-- The registered ancestors, the outermost first, and the route itself. -/
  chain : List RouteDefinition
  /-- The bundles the route needs, the ancestors' first, each once. -/
  dependencies : List String

/-- A route that matches a path. -/
structure RouteMatch where
  route : CompiledRoute
  /-- The values of the path's parameters. -/
  captured : Dictionary String
  specificity : Nat

/-- Two routes that match a path equally well, of which the first registered was preferred. -/
structure Ambiguity where
  path : String
  chosen : String
  ignored : String
  deriving DecidableEq, Repr

/-- A route table. -/
structure RouteTable where
  /-- The routes in the order of their registration. -/
  routes : List CompiledRoute
  defaultPath : String
  /-- The route of the default path. -/
  fallback : CompiledRoute

namespace CompiledRoute

/-- The name of the route. -/
def name (r : CompiledRoute) : String := r.definition.name

/-- The effective URL of a chain; none if no member has a fragment. -/
def composedUrl? (chain : List RouteDefinition) : Option String :=
  match chain.filterMap (·.url) with
  | [] => none
  | fragments => some (Pattern.compose fragments)

/-- The effective pattern of a route. -/
def compilePattern (d : RouteDefinition) (chain : List RouteDefinition) :
    Except RouterError (Option Pattern) :=
  match composedUrl? chain with
  | none => if d.isLayout then .ok none else .error (.invalidPattern d.name "" .missing)
  | some url =>
      match Pattern.compile url with
      | .ok pattern => .ok (some pattern)
      | .error reason => .error (.invalidPattern d.name url (.malformed reason))

/-- The parameters of a route: those of its path, those of its query list, and those its chain
describes. -/
def compileSchema (pattern : Option Pattern) (chain : List RouteDefinition) : ParamSchema :=
  let declared := match pattern with
    | some p => (p.paramNames ++ p.queryNames).foldl ParamSchema.declare ParamSchema.empty
    | none => ParamSchema.empty
  (chain.flatMap (·.params)).foldl (fun schema param => schema.describe param.1 param.2) declared

/-- The metadata of the innermost member of a chain that has any. -/
def compileMetadata (chain : List RouteDefinition) : RouteMetadata :=
  (chain.reverse.findSome? (·.metadata)).getD RouteMetadata.empty

/-- A route with everything it inherits. -/
def compile (definitions : List RouteDefinition) (d : RouteDefinition) :
    Except RouterError CompiledRoute := do
  let chain := d.chain definitions
  let pattern ← compilePattern d chain
  return {
    definition := d
    pattern
    schema := compileSchema pattern chain
    metadata := compileMetadata chain
    chain
    dependencies := (chain.flatMap (·.dependencies)).eraseDups }

/-- The route's match of a path; layouts match nothing. -/
def match? (r : CompiledRoute) (path : String) : Option RouteMatch :=
  if r.definition.isLayout then none
  else do
    let pattern ← r.pattern
    let captured ← pattern.match? path
    return ⟨r, captured, pattern.literalSegments⟩

end CompiledRoute

namespace RouteMatch

/-- The name of the matching route. -/
def name (m : RouteMatch) : String := m.route.name

/-- The most specific match, where `best` is the one to beat, and the ties met on the way. -/
def choose (path : String) (best : RouteMatch) : List RouteMatch → RouteMatch × List Ambiguity
  | [] => (best, [])
  | m :: more =>
      if best.specificity < m.specificity then choose path m more
      else
        let (chosen, ties) := choose path best more
        if m.specificity = best.specificity then (chosen, ⟨path, best.name, m.name⟩ :: ties)
        else (chosen, ties)

end RouteMatch

namespace RouteTable

/-- The path of a table that names none. -/
def rootPath : String := "/"

/-- The first name that was given before. -/
def firstRepeated? (seen : List String) : List String → Option String
  | [] => none
  | name :: more => if seen.contains name then some name else firstRepeated? (name :: seen) more

/-- The matches of a path, in the order of registration. -/
def matchesOf (routes : List CompiledRoute) (path : String) : List RouteMatch :=
  routes.filterMap fun r => r.match? path

/-- The chosen match of a path with the ties that were met. -/
def choose (routes : List CompiledRoute) (path : String) : Option RouteMatch × List Ambiguity :=
  match matchesOf routes path with
  | [] => (none, [])
  | first :: more =>
      let (best, ties) := RouteMatch.choose path first more
      (some best, ties)

/-- Builds a table. -/
def build (definitions : List RouteDefinition) (defaultPath : String) :
    Except RouterError RouteTable := do
  if let some name := firstRepeated? [] (definitions.map (·.name)) then
    throw (.duplicateRoute name)
  let routes ← definitions.mapM (CompiledRoute.compile definitions)
  match (choose routes defaultPath).1 with
  | some found => return { routes, defaultPath, fallback := found.route }
  | none => throw (.invalidDefault defaultPath)

/-- The most specific route for a path. -/
def match? (t : RouteTable) (path : String) : Option RouteMatch :=
  (choose t.routes path).1

/-- What the pattern of the default route captures from the default path, when it is matched once more. -/
def recaptured (t : RouteTable) : Dictionary String :=
  (t.fallback.pattern.bind fun p => p.match? t.defaultPath).getD Dictionary.empty

/-- The route that a path leads to, with what it captures. What no route matches leads to the default route, which
captures from the default path. -/
def lead (t : RouteTable) (path : String) : CompiledRoute × Dictionary String :=
  match t.match? path with
  | some found => (found.route, found.captured)
  | none => (t.fallback, t.recaptured)

/-- The ties met when a route for a path is chosen. -/
def ambiguities (t : RouteTable) (path : String) : List Ambiguity :=
  (choose t.routes path).2

/-- The route of a name. -/
def find? (t : RouteTable) (name : String) : Option CompiledRoute :=
  t.routes.find? fun r => r.name == name

/-- The definitions in the order of their registration. -/
def definitions (t : RouteTable) : List RouteDefinition :=
  t.routes.map (·.definition)

/-- The definition of a name. -/
def get? (t : RouteTable) (name : String) : Option RouteDefinition :=
  (t.find? name).map (·.definition)

/-- The effective pattern of a name. -/
def patternOf? (t : RouteTable) (name : String) : Option Pattern :=
  (t.find? name).bind (·.pattern)

/-- The parameters of a name in the order of their declaration. -/
def paramNames? (t : RouteTable) (name : String) : Option (List String) :=
  (t.find? name).map (·.schema.names)

/-- The route of a name that can be activated. -/
def concrete (t : RouteTable) (name : String) : Except RouterError CompiledRoute :=
  match t.find? name with
  | none => .error (.invalidRouteName name)
  | some r => if r.definition.isLayout then .error (.abstractRoute name) else .ok r

end RouteTable

end AdminConsole
