import AdminConsole.Proofs.Pattern.Segments
import AdminConsole.Proofs.Route.DefaultPath
import AdminConsole.Proofs.Route.Order

/-!
# URLs with a malformed query

A query with a name or a value that is no encoded text spoils the whole URL, which is then read as the empty path.
No route is meant to match the empty path, so that the default route is taken. But a pattern whose path has no
literal text does match it: every parameter captures nothing. Main statement: such patterns are the only exception.
In a table in which the path of every page has literal text a malformed URL is resolved like the default path, and
in any other table it is resolved to the best of the pages without literal text.
-/

set_option autoImplicit false

namespace AdminConsole

namespace Pattern

/-! ## The empty path -/

/-- The empty path is captured by parameters alone, and all of them are empty. -/
theorem capture_empty_iff {pieces : List Piece} {texts : List (List Char)} :
    capture pieces [] = some texts ↔
      literalText pieces = [] ∧ texts = (pieces.filterMap Piece.name?).map fun _ => [] := by
  induction pieces generalizing texts with
  | nil => simp [capture, literalText, eq_comm]
  | cons piece pieces ih =>
    cases piece with
    | literal text =>
      rw [capture_literal_eq_some_iff, literalText, List.append_eq_nil_iff]
      constructor
      · rintro ⟨rest, hsplit, h⟩
        obtain ⟨rfl, rfl⟩ := List.append_eq_nil_iff.mp hsplit.symm
        exact ⟨⟨rfl, (ih.mp h).1⟩, (ih.mp h).2⟩
      · rintro ⟨⟨rfl, hmore⟩, h⟩
        exact ⟨[], rfl, ih.mpr ⟨hmore, h⟩⟩
    | param spelling name =>
      simp only [capture, longestSegment, literalText, Option.map_map, Option.map_eq_some_iff, ih]
      constructor
      · rintro ⟨others, ⟨hmore, rfl⟩, rfl⟩
        exact ⟨hmore, rfl⟩
      · rintro ⟨hmore, rfl⟩
        exact ⟨_, ⟨hmore, rfl⟩, rfl⟩

/-- A pattern matches the empty path exactly if its path has no literal text. -/
theorem isMatch_empty_iff {p : Pattern} : p.isMatch "" = true ↔ literalText p.pieces = [] := by
  rw [isMatch_iff]
  constructor
  · rintro ⟨texts, hcapture, _⟩
    exact (capture_empty_iff.mp hcapture).1
  · intro h
    refine ⟨_, capture_empty_iff.mpr ⟨h, rfl⟩, ?_⟩
    intro text htext
    obtain ⟨_, _, rfl⟩ := List.mem_map.mp htext
    decide

end Pattern

namespace RouteUrl

/-! ## Malformed queries -/

/-- Whether the query of a URL has a name or a value that is no encoded text. -/
def IsMalformed (url : String) : Prop :=
  ∃ path query, url.toList = path ++ '?' :: query ∧ '?' ∉ path ∧
    ∃ piece ∈ Text.pieces '&' query,
      Percent.decodeChars (cutPair piece).1 = none ∨ Percent.decodeChars (cutPair piece).2 = none

/-- A query cannot be decoded if a name or a value of it cannot. -/
theorem decodePieces_eq_none_iff {pieces : List (List Char)} {values : Dictionary String} :
    decodePieces pieces values = none ↔
      ∃ piece ∈ pieces,
        Percent.decodeChars (cutPair piece).1 = none ∨ Percent.decodeChars (cutPair piece).2 = none := by
  induction pieces generalizing values with
  | nil => simp [decodePieces]
  | cons piece more ih =>
    rw [List.exists_mem_cons_iff]
    cases hname : Percent.decodeChars (cutPair piece).1 with
    | none => simp [decodePieces, hname]
    | some name =>
      cases hvalue : Percent.decodeChars (cutPair piece).2 with
      | none => simp [decodePieces, hname, hvalue]
      | some value => simp [decodePieces, hname, hvalue, ih]

/-- **A malformed URL is read as the empty path**, whatever precedes its query. -/
theorem split_of_isMalformed {url : String} (h : IsMalformed url) : split url = ("", Dictionary.empty) := by
  obtain ⟨path, query, hurl, hpath, piece, hpiece, hbroken⟩ := h
  -- An empty piece has an empty name and an empty value, so it is not the broken one.
  have hnonempty : piece ≠ [] := by
    rintro rfl
    rcases hbroken with h | h <;> exact absurd h (by decide)
  have hmem : piece ∈ Pattern.queryPieces query := List.mem_filter.mpr ⟨hpiece, by simpa using hnonempty⟩
  have hnone : decodePieces (Pattern.queryPieces query) Dictionary.empty = none :=
    decodePieces_eq_none_iff.mpr ⟨piece, hmem, hbroken⟩
  rw [split, hurl, Text.cutFirst_append query hpath]
  simp only [hnone]

end RouteUrl

namespace RouteTable

/-! ## Where malformed URLs lead -/

/-- Whether the path of every page has literal text. -/
def Anchored (t : RouteTable) : Prop :=
  ∀ r ∈ t.routes, r.definition.isLayout = false → ∀ p, r.pattern = some p → Pattern.literalText p.pieces ≠ []

variable {definitions : List RouteDefinition} {t : RouteTable}

/-- The empty path is matched exactly if some page has no literal text. -/
theorem match?_empty_eq_none_iff : t.match? "" = none ↔ t.Anchored := by
  rw [match?_eq_none_iff]
  constructor
  · intro hempty r hr page p hp htext
    exact hempty ⟨_, r, hr, page, p, hp, Pattern.isMatch_empty_iff.mpr htext, rfl⟩
  · rintro anchored ⟨_, r, hr, page, p, hp, hmatch, _⟩
    exact anchored r hr page p hp (Pattern.isMatch_empty_iff.mp hmatch)

/-- What matches nothing is resolved like the default path. -/
theorem Built.resolvePath_of_unmatched (wf : t.Built definitions) {path : String} (h : t.match? path = none)
    (query : Dictionary String) (services : GuardServices) :
    (t.resolvePath path query services).result = (t.resolvePath t.defaultPath query services).result ∧
      (t.resolvePath path query services).services = (t.resolvePath t.defaultPath query services).services := by
  have behaves := wf.behavesAsDefault h query services
  exact ⟨behaves.result, behaves.after⟩

/-- **A malformed URL falls through to the default route** where the path of every page has literal text. It leaves the
result and the services that the default path does, whatever stands before its query. Where there are pages without
literal text it is resolved as the empty path, to the best of them. -/
theorem malformed_url_falls_through {defaultPath : String} (built : build definitions defaultPath = .ok t)
    {url : String} (malformed : RouteUrl.IsMalformed url) (services : GuardServices) :
    (t.Anchored →
      (t.resolveUrl url services).result = (t.resolvePath defaultPath Dictionary.empty services).result ∧
        (t.resolveUrl url services).services =
          (t.resolvePath defaultPath Dictionary.empty services).services) ∧
    (¬ t.Anchored → t.resolveUrl url services = t.resolvePath "" Dictionary.empty services ∧
      ∃ m p, t.match? "" = some m ∧ m.route.pattern = some p ∧ Pattern.literalText p.pieces = []) := by
  obtain ⟨wf, rfl⟩ := of_build built
  have hurl : t.resolveUrl url services = t.resolvePath "" Dictionary.empty services := by
    rw [resolveUrl, RouteUrl.split_of_isMalformed malformed]
  rw [hurl]
  constructor
  · intro anchored
    exact wf.resolvePath_of_unmatched (match?_empty_eq_none_iff.mpr anchored) Dictionary.empty services
  · intro unanchored
    obtain ⟨m, hm⟩ := Option.ne_none_iff_exists'.mp fun h => unanchored (match?_empty_eq_none_iff.mp h)
    obtain ⟨_, _, p, hp, hread, _⟩ := CompiledRoute.of_match? (of_match? hm).2.1
    have hmatch : p.isMatch "" = true := by simp [Pattern.isMatch, hread]
    exact ⟨rfl, m, p, hm, hp, Pattern.isMatch_empty_iff.mp hmatch⟩

/-- A start page, and a page of a user. -/
def userRoutes : List RouteDefinition :=
  [(RouteDefinition.named "home").withUrl "/", (RouteDefinition.named "user").withUrl "/users/:name?tab"]

/-- The page of a user is not opened with a tab that is no text. -/
theorem malformed_url_falls_through_user :
    ∃ t, build userRoutes "/" = .ok t ∧ t.Anchored ∧ RouteUrl.IsMalformed "/users/a?tab=%FF" ∧
      (t.resolveUrl "/users/a?tab=%FF" signedInServices).result =
        (t.resolvePath "/" Dictionary.empty signedInServices).result ∧
      (t.resolveUrl "/users/a?tab=%FF" signedInServices).result.toOption.map (·.name) = some "home" := by
  have hcheck : (build userRoutes "/").toOption.map (fun t => ((t.match? "").map RouteMatch.name,
      (t.resolveUrl "/users/a?tab=%FF" signedInServices).result.toOption.map (·.name))) =
        some (none, some "home") := by
    decide +kernel
  have malformed : RouteUrl.IsMalformed "/users/a?tab=%FF" :=
    ⟨"/users/a".toList, "tab=%FF".toList, by decide, by decide, "tab=%FF".toList, by decide, .inr (by decide +kernel)⟩
  obtain ⟨t, htable, hparts⟩ := Option.map_eq_some_iff.mp hcheck
  obtain ⟨hunmatched, hname⟩ := Prod.mk.inj hparts
  have built := Result.ok_of_toOption htable
  have anchored : t.Anchored := match?_empty_eq_none_iff.mp (Option.map_eq_none_iff.mp hunmatched)
  exact ⟨t, built, anchored, malformed, ((malformed_url_falls_through built malformed signedInServices).1 anchored).1,
    hname⟩

/-- A start page, and pages that are addressed by their names alone. -/
def pageRoutes : List RouteDefinition :=
  [(RouteDefinition.named "home").withUrl "/", (RouteDefinition.named "page").withUrl ":page"]

/-- A malformed URL opens the page without a name, although the default path leads to the start page. -/
theorem malformed_url_opens_page :
    ∃ t, build pageRoutes "/" = .ok t ∧ RouteUrl.IsMalformed "/users?name=%FF" ∧
      (t.resolveUrl "/users?name=%FF" signedInServices).result.toOption.map (·.name) = some "page" ∧
      (t.resolvePath "/" Dictionary.empty signedInServices).result.toOption.map (·.name) = some "home" := by
  have hcheck : (build pageRoutes "/").toOption.map (fun t =>
      ((t.resolveUrl "/users?name=%FF" signedInServices).result.toOption.map (·.name),
        (t.resolvePath "/" Dictionary.empty signedInServices).result.toOption.map (·.name))) =
          some (some "page", some "home") := by
    decide +kernel
  obtain ⟨t, htable, hparts⟩ := Option.map_eq_some_iff.mp hcheck
  obtain ⟨hpage, hhome⟩ := Prod.mk.inj hparts
  exact ⟨t, Result.ok_of_toOption htable, ⟨"/users".toList, "name=%FF".toList, by decide, by decide,
    "name=%FF".toList, by decide, .inr (by decide +kernel)⟩, hpage, hhome⟩

end RouteTable

end AdminConsole
