import AdminConsole.Bundle.Fetch
import AdminConsole.Bundle.Registry

/-!
# Runs of a bundle

A run fetches the files of a bundle, one after another or all at once. It advances only when it is polled,
and ends with the success of all its files or with the failure of one.
-/

set_option autoImplicit false

namespace AdminConsole

/-- A run of a bundle. -/
structure BundleRun where
  definition : BundleDefinition
  /-- The files in the order of the definition. -/
  files : List FileFetch
  deriving DecidableEq, Repr

namespace BundleRun

/-- A run of which nothing was fetched. -/
def begin (definition : BundleDefinition) : BundleRun :=
  ⟨definition, definition.files.map fun file => ⟨file, .waiting⟩⟩

/-- How the files of a bundle are fetched. -/
def mode (r : BundleRun) : JoinMode :=
  if r.definition.serial then .serial else JoinMode.ofCount r.definition.files.length

/-- How far a file has come, as a part of its bundle. -/
def fileStatus (bundle : String) (f : FileFetch) : Progress BundleError :=
  match f.status with
  | .pending => .pending
  | .succeeded => .succeeded
  | .failed (file, reason) => .failed (.fetch bundle file reason)

/-- How far the run has come. -/
def status (r : BundleRun) : Progress BundleError :=
  Join.outcome r.mode (fileStatus r.definition.name) r.files

/-- Advances the run as far as it can come without time passing. -/
def poll (id now : Nat) (r : BundleRun) (n : Network) : BundleRun × Network :=
  if r.status.isPending then
    let name := r.definition.name
    let (files, n) :=
      Join.poll r.mode (fileStatus name) (FileFetch.woken now) (FileFetch.poll ⟨id, name⟩ now) r.files n
    ({ r with files }, n)
  else (r, n)

/-- The instants at which running fetches end; none once the run has ended. -/
def dues (r : BundleRun) : List Nat :=
  if r.status.isPending then r.files.filterMap FileFetch.due? else []

/-- When the run was woken, up to now. -/
def woken (now : Nat) (r : BundleRun) : Waking :=
  (r.files.map (FileFetch.woken now)).foldl Waking.earlier .never

/-- The number of files that are not fetched yet. -/
def filesLeft (r : BundleRun) : Nat :=
  r.files.countP fun f => f.status.isPending

end BundleRun

end AdminConsole
