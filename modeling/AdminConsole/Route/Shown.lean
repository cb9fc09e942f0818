import AdminConsole.Json.Printer
import AdminConsole.Route.Resolution
import AdminConsole.Text.Quoted

/-!
# Routes as pages and developers see them

Pages receive a resolved route as a JSON value, where what is absent or empty is left out and the extras
of the metadata stand among its own members. Developers see tables, services and definitions as records.
-/

set_option autoImplicit false

namespace AdminConsole

/-- A member that is left out when it has no value. -/
def optionalMember (name : String) (value : Option String) : List (String × Json) :=
  (value.map fun text => (name, Json.string text)).toList

/-- A list member that is left out when it is empty. -/
def listMember (name : String) (texts : List String) : List (String × Json) :=
  if texts.isEmpty then [] else [(name, Json.ofStrings texts)]

namespace RouteMetadata

/-- The metadata as pages receive it: its own members, then the extras. -/
def toJson (m : RouteMetadata) : Json :=
  .object <|
    optionalMember "pageTitle" m.title
      ++ optionalMember "breadcrumbs" m.breadcrumbs
      ++ (if m.iframe then [("iframe", .bool true)] else [])
      ++ m.extras.toList.map fun extra => (extra.1, .string extra.2)

/-- The metadata as developers see it. -/
def debugText (m : RouteMetadata) : String :=
  let extras := m.extras.toList.map fun extra => Text.quoted extra.1 ++ ": " ++ Text.quoted extra.2
  Text.shownRecord "RouteMetadata" [
    ("page_title", Text.shownOption m.title),
    ("breadcrumbs", Text.shownOption m.breadcrumbs),
    ("iframe", Text.shownBool m.iframe),
    ("extras", "\x7b" ++ Text.join ", " extras ++ "\x7d")]

end RouteMetadata

namespace ParamDescriptor

/-- The descriptor as developers see it. -/
def debugText (d : ParamDescriptor) : String :=
  Text.shownRecord "ParamDescriptor" [
    ("default_value", Text.shownOption d.default?), ("squash", Text.shownBool d.squash)]

end ParamDescriptor

namespace RouteDefinition

/-- The definition as developers see it. -/
def debugText (d : RouteDefinition) : String :=
  let params := d.params.map fun param =>
    "(" ++ Text.quoted param.1 ++ ", " ++ param.2.debugText ++ ")"
  let metadata := match d.metadata with
    | some m => "Some(" ++ m.debugText ++ ")"
    | none => "None"
  Text.shownRecord "RouteDefinition" [
    ("name", Text.quoted d.name),
    ("url", Text.shownOption d.url),
    ("is_abstract", Text.shownBool d.isLayout),
    ("view", Text.shownOption d.view),
    ("has_guard", Text.shownBool d.guard.isSome),
    ("params", Text.shownList params),
    ("dependencies", Text.shownList (d.dependencies.map Text.quoted)),
    ("metadata", metadata)]

end RouteDefinition

namespace RouteTable

/-- The table as developers see it. -/
def debugText (t : RouteTable) : String :=
  Text.shownRecord "RouteTable" [
    ("routes_count", toString t.routes.length), ("default_path", Text.quoted t.defaultPath)]

end RouteTable

namespace GuardServices

/-- The services as developers see them. -/
def debugText (s : GuardServices) : String :=
  let path := Text.quoted s.serverPath
  let channel := s.diagnostics.debugText
  s!"GuardServices \x7b server_path: {path}, diagnostics: {channel}, .. \x7d"

end GuardServices

namespace ResolvedRoute

/-- The route as pages receive it. -/
def toJson (r : ResolvedRoute) : Json :=
  .object <|
    ("name", .string r.name) :: optionalMember "view" r.view
      ++ [("params", .ofTexts r.params.toList), ("metadata", r.metadata.toJson)]
      ++ listMember "dependencies" r.dependencies
      ++ listMember "redirects" r.redirects

end ResolvedRoute

end AdminConsole
