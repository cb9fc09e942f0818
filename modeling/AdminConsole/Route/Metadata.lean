import AdminConsole.Dictionary

/-!
# Page metadata

What a route tells the shell about its page: title, breadcrumbs, whether the page embeds another
document, and further values that guards may set.
-/

set_option autoImplicit false

namespace AdminConsole

/-- What the shell shows about a page. -/
structure RouteMetadata where
  title : Option String
  breadcrumbs : Option String
  /-- Whether the page embeds another document. -/
  iframe : Bool
  /-- Further values, such as the address of the embedded document. -/
  extras : Dictionary String
  deriving DecidableEq, Repr

namespace RouteMetadata

/-- Metadata without anything in it. -/
def empty : RouteMetadata := ⟨none, none, false, Dictionary.empty⟩

instance : Inhabited RouteMetadata := ⟨empty⟩

/-- Metadata of a page with this title. -/
def titled (title : String) : RouteMetadata := { empty with title := some title }

/-- The metadata with these breadcrumbs. -/
def withBreadcrumbs (m : RouteMetadata) (breadcrumbs : String) : RouteMetadata :=
  { m with breadcrumbs := some breadcrumbs }

/-- The metadata of a page that embeds another document. -/
def embedding (m : RouteMetadata) : RouteMetadata := { m with iframe := true }

/-- The metadata with one more value. -/
def setExtra (m : RouteMetadata) (key value : String) : RouteMetadata :=
  { m with extras := m.extras.insert key value }

/-- A further value. -/
def extra? (m : RouteMetadata) (key : String) : Option String :=
  m.extras.get? key

end RouteMetadata

end AdminConsole
