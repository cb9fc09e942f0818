import AdminConsole.Proofs.Result
import AdminConsole.Proofs.Route.Rivals
import AdminConsole.Proofs.Route.Schema
import AdminConsole.Site.Routes

/-!
# The console's table surveyed

The console's table is built, and what has to be looked at route by route is looked at here, once for all that
follows: which routes meet, how their patterns are written, and which parameters of the page that opens
documents a URL can set.
-/

set_option autoImplicit false

namespace AdminConsole.Site

/-- The page that edits a trigger of a monitor. -/
def editTrigger : String := "pages.monitors_editTrigger"

/-- The page that adds a trigger to a monitor. -/
def addTrigger : String := "pages.monitors_addTrigger"

/-- The page that shows or opens the document that is named in its parameters. -/
def customPage : String := "pages.customView"

/-! ## What is looked at -/

/-- Whether a pattern begins with a slash. -/
def isRooted (p : Pattern) : Bool :=
  (Pattern.leadingText p.pieces).head? == some '/'

/-- Whether the links of a route can be read back: the path begins with a slash and has no `#`, a landmark stands
between its parameters, and where a default is left out of the path it is the empty text. -/
def isLinkable (r : CompiledRoute) : Bool :=
  r.pattern.all fun p =>
    isRooted p && !(Pattern.literalText p.pieces).contains '#' && Pattern.isSeparated p.pieces &&
      p.paramNames.all fun name => !r.schema.squashes name || r.schema.default? name == some ""

/-- The path of the page that edits a trigger. -/
def editPieces : List Piece :=
  [.literal "/monitors/".toList, .param .colon "monitor", .literal "/triggers/".toList,
    .param .colon "trigger"]

/-- The path of the page that adds a trigger. -/
def addPieces : List Piece :=
  [.literal "/monitors/".toList, .param .colon "monitor", .literal "/triggers/new".toList]

/-- Whether a name has a page with a path like this, with so many segments of literal text. -/
def hasPath (t : RouteTable) (name : String) (pieces : List Piece) (literals : Nat) : Bool :=
  (t.concrete name).toOption.any fun r =>
    r.pattern.any fun p => p.pieces == pieces && p.literalSegments == literals

/-- Whether no URL can give a document to the page that opens documents. -/
def isSealed (r : CompiledRoute) : Bool :=
  r.schema.default? "url" == some "" && r.schema.default? "name" == some "" &&
    r.pattern.all fun p => !p.declares "url"

/-- What is looked at in a table. -/
def survey (t : RouteTable) : Bool :=
  (t.routes.all fun r => r.isSegmented && isLinkable r) &&
    RouteTable.rivals t.routes == [(editTrigger, addTrigger)] &&
    hasPath t editTrigger editPieces 2 && hasPath t addTrigger addPieces 3 &&
    (t.concrete editTrigger).toOption.any (fun r => r.schema.default? "trigger" == some "") &&
    (t.concrete customPage).toOption.any isSealed &&
    (t.match? "/status").map RouteMatch.name == some "pages.status"

/-! ## What is found -/

/-- What is known of the console's table. -/
structure Surveyed (t : RouteTable) : Prop where
  built : t.Built routes
  segmented : ∀ r ∈ t.routes, r.isSegmented = true
  linkable : ∀ r ∈ t.routes, isLinkable r = true
  /-- Only two pages have paths in common. -/
  rivals : RouteTable.rivals t.routes = [(editTrigger, addTrigger)]
  edits : hasPath t editTrigger editPieces 2 = true
  adds : hasPath t addTrigger addPieces 3 = true
  /-- The trigger that is edited is not `new` by default. -/
  trigger : (t.concrete editTrigger).toOption.any (fun r => r.schema.default? "trigger" == some "") = true
  custom : (t.concrete customPage).toOption.any isSealed = true
  status : (t.match? "/status").map RouteMatch.name = some "pages.status"

/-- A page that passes the check has a pattern with these pieces and this number of literal segments. -/
theorem exists_of_hasPath {t : RouteTable} {name : String} {pieces : List Piece} {literals : Nat}
    (h : hasPath t name pieces literals = true) :
    ∃ r p, t.concrete name = .ok r ∧ r.pattern = some p ∧ p.pieces = pieces ∧
      p.literalSegments = literals := by
  obtain ⟨r, hr, hpattern⟩ := (Option.any_eq_true _ _).mp h
  obtain ⟨p, hp, hpieces⟩ := (Option.any_eq_true _ _).mp hpattern
  rw [Bool.and_eq_true, beq_iff_eq, beq_iff_eq] at hpieces
  exact ⟨r, p, Result.ok_of_toOption hr, hp, hpieces⟩

/-- **The console's table is built**, and this is known of it. -/
theorem exists_surveyed : ∃ t, table = .ok t ∧ Surveyed t := by
  have hcheck : table.toOption.any survey = true := by
    decide +kernel
  obtain ⟨t, htable, hsurvey⟩ := (Option.any_eq_true _ _).mp hcheck
  have hbuilt := Result.ok_of_toOption htable
  rw [survey] at hsurvey
  simp only [Bool.and_eq_true, List.all_eq_true, beq_iff_eq] at hsurvey
  obtain ⟨⟨⟨⟨⟨⟨hroutes, hrivals⟩, hedits⟩, hadds⟩, htrigger⟩, hcustom⟩, hstatus⟩ := hsurvey
  exact ⟨t, hbuilt, (RouteTable.of_build hbuilt).1, fun r hr => (hroutes r hr).1,
    fun r hr => (hroutes r hr).2, hrivals, hedits, hadds, htrigger, hcustom, hstatus⟩

end AdminConsole.Site
