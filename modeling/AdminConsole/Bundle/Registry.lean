/-!
# Bundles

A bundle is a named set of script and style files that a page needs. Its files are fetched one after
another or all at once. The registry holds one definition under each name and lists the names in the
order in which they were first registered.
-/

set_option autoImplicit false

namespace AdminConsole

/-- A named set of files. -/
structure BundleDefinition where
  name : String
  /-- Whether a file is fetched only after the one before it. -/
  serial : Bool
  files : List String
  deriving DecidableEq, Repr

/-- Why a bundle was not loaded. -/
inductive BundleError where
  /-- No bundle is registered under this name. -/
  | unknown (name : String)
  /-- A file of the bundle could not be fetched. -/
  | fetch (bundle file reason : String)
  deriving DecidableEq, Repr

namespace BundleError

/-- The error as it is shown. -/
def message : BundleError → String
  | .unknown name => s!"Unknown bundle: {name}"
  | .fetch bundle file reason => s!"Failed to fetch '{file}' of bundle '{bundle}': {reason}"

end BundleError

/-- The registered bundles, in the order of their names' first registration. -/
structure BundleRegistry where
  bundles : List BundleDefinition
  deriving DecidableEq, Repr

namespace BundleRegistry

/-- The registry without bundles. -/
def empty : BundleRegistry := ⟨[]⟩

/-- Puts a definition in the place of the one with its name, or at the end. -/
def replace (definition : BundleDefinition) : List BundleDefinition → List BundleDefinition
  | [] => [definition]
  | other :: rest =>
      if other.name = definition.name then definition :: rest
      else other :: replace definition rest

/-- The registry with this bundle, which replaces an earlier one of its name. -/
def register (r : BundleRegistry) (definition : BundleDefinition) : BundleRegistry :=
  ⟨replace definition r.bundles⟩

/-- The registry of a list of bundles, registered in order. -/
def ofList (definitions : List BundleDefinition) : BundleRegistry :=
  definitions.foldl register empty

/-- The bundle registered under a name. -/
def get? (r : BundleRegistry) (name : String) : Option BundleDefinition :=
  r.bundles.find? fun definition => definition.name == name

/-- Whether a bundle is registered under a name. -/
def contains (r : BundleRegistry) (name : String) : Bool :=
  (r.get? name).isSome

/-- The names in the order of their first registration. -/
def names (r : BundleRegistry) : List String :=
  r.bundles.map (·.name)

end BundleRegistry

end AdminConsole
