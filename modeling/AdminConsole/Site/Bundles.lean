import AdminConsole.Bundle.Registry

/-!
# The console's bundles

The plugins that some pages need. Each of them is loaded file by file, in the order in which its scripts
depend on each other.
-/

set_option autoImplicit false

namespace AdminConsole.Site

/-- Sortable tables. -/
def datatables : BundleDefinition :=
  { name := "datatables"
    serial := true
    files := [
      "js/plugins/dataTables/datatables.v1.10.20.min.js",
      "css/plugins/dataTables/datatables.v1.10.20.min.css",
      "js/plugins/dataTables/angular-datatables.v0.6.2.min.js",
      "js/plugins/dataTables/angular-datatables.buttons.min.js"] }

/-- Charts. -/
def charts : BundleDefinition :=
  { name := "chartjs"
    serial := true
    files := [
      "js/plugins/chartJs/Chart.min.js",
      "js/plugins/chartJs/angular-chart.min.js",
      "css/plugins/chartJs/Chart.min.css"] }

/-- Flow diagrams. -/
def diagrams : BundleDefinition :=
  { name := "mermaid"
    serial := true
    files := [
      "js/plugins/mermaid/mermaid.min.js",
      "js/plugins/mermaid/ng-mermaid.js"] }

/-- The bundles of the console. -/
def bundles : BundleRegistry :=
  BundleRegistry.ofList [datatables, charts, diagrams]

end AdminConsole.Site
