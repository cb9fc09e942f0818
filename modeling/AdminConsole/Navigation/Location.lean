import AdminConsole.Text.Cut

/-!
# Locations

A browser's location holds the URL of a route either in its fragment, so that the server never sees it, or
as the path and query of the location itself.
-/

set_option autoImplicit false

namespace AdminConsole

/-- Where a location holds the URL of a route. -/
inductive LocationMode where
  /-- In the fragment, after `#` or `#!`. -/
  | hash
  /-- In the path and query. -/
  | html5
  deriving DecidableEq, Repr

namespace LocationMode

/-- The mode as it is written in settings. -/
def label : LocationMode → String
  | .hash => "hash"
  | .html5 => "html5"

/-- The mode with this label. -/
def ofLabel? (label : String) : Option LocationMode :=
  [.hash, .html5].find? fun mode => mode.label == label

/-- The text before the first separator, or all of it. -/
def before (sep : Char) (text : List Char) : List Char :=
  text.takeWhile (· != sep)

/-- The path and query of a location that may begin with scheme and host. -/
def afterHost (location : List Char) : List Char :=
  match Text.afterFirst? "://".toList location with
  | none => location
  | some rest =>
      let path := rest.dropWhile (· != '/')
      if path.isEmpty then ['/'] else path

/-- The URL of the route that a location holds. -/
def routeUrl (mode : LocationMode) (location : String) : String :=
  match mode with
  | .hash =>
      match Text.cutFirst '#' location.toList with
      | some (_, '!' :: fragment) => String.ofList fragment
      | some (_, fragment) => String.ofList fragment
      | none => ""
  | .html5 => String.ofList (afterHost (before '#' location.toList))

/-- The location that holds the URL of a route. -/
def location (mode : LocationMode) (routeUrl : String) : String :=
  match mode with
  | .hash => "#" ++ routeUrl
  | .html5 => routeUrl

end LocationMode

end AdminConsole
