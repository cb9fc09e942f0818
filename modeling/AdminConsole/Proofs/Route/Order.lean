import AdminConsole.Proofs.Route.Built
import AdminConsole.Proofs.Route.Lineage
import Mathlib.Order.Bounds.Basic

/-!
# The order of registration

Routes may be registered in any order: parents before or after their children, general patterns before or after
special ones. Main statement: of two lists that hold the same definitions either both are accepted or both are
refused, and the tables that are built from them agree on everything that goes by name, and on every path that
one route matches best. Only among routes that match a path equally well does the order decide.
-/

set_option autoImplicit false

namespace AdminConsole

variable {definitions others : List RouteDefinition}

/-! ## Definitions and their chains -/

/-- With each name once it does not matter where a definition stands. -/
theorem RouteDefinition.find?_perm (same : definitions.Perm others)
    (nodup : (definitions.map (·.name)).Nodup) (name : String) :
    find? definitions name = find? others name :=
  Keyed.find?_congr nodup (fun _ => same.mem_iff) name

/-- How a route is compiled does not depend on the order of the others, if their names are different. -/
theorem CompiledRoute.compile_perm (same : definitions.Perm others)
    (nodup : (definitions.map (·.name)).Nodup) : compile definitions = compile others := by
  have hfind : RouteDefinition.find? definitions = RouteDefinition.find? others :=
    funext (RouteDefinition.find?_perm same nodup)
  have hchain : ∀ d : RouteDefinition, d.chain definitions = d.chain others := by
    intro d
    rw [RouteDefinition.chain, RouteDefinition.chain, hfind]
  funext d
  rw [compile, compile, hchain d]

namespace RouteTable

/-! ## What it takes to build a table -/

/-- No name is repeated among different ones. -/
theorem firstRepeated?_eq_none {seen names : List String} (nodup : names.Nodup)
    (fresh : ∀ name ∈ names, name ∉ seen) : firstRepeated? seen names = none := by
  induction names generalizing seen with
  | nil => rfl
  | cons name names ih =>
    obtain ⟨hname, hnames⟩ := List.nodup_cons.mp nodup
    have hseen : ¬ seen.contains name = true := by simpa using fresh name List.mem_cons_self
    rw [firstRepeated?, if_neg hseen]
    refine ih hnames ?_
    intro other hother hmem
    rcases List.mem_cons.mp hmem with rfl | hmem
    · exact hname hother
    · exact fresh other (List.mem_cons_of_mem name hother) hmem

/-- A table is built of routes with different names that can be compiled and answer the default path. -/
theorem build_eq_ok {defaultPath : String} {routes : List CompiledRoute} {found : RouteMatch}
    (nodup : (definitions.map (·.name)).Nodup)
    (compiled : definitions.mapM (CompiledRoute.compile definitions) = .ok routes)
    (matched : (choose routes defaultPath).1 = some found) :
    build definitions defaultPath = .ok ⟨routes, defaultPath, found.route⟩ := by
  have hnames := firstRepeated?_eq_none nodup fun _ _ => List.not_mem_nil
  exact build_eq_ok_iff.mpr ⟨hnames, compiled, rfl, found, matched, rfl⟩

/-- The routes of a table that was built are those of its definitions, compiled. -/
theorem mapM_of_build {defaultPath : String} {t : RouteTable} (h : build definitions defaultPath = .ok t) :
    definitions.mapM (CompiledRoute.compile definitions) = .ok t.routes :=
  (build_eq_ok_iff.mp h).2.1

/-- The same definitions give the same routes. -/
theorem mem_of_perm {routes routes' : List CompiledRoute} (same : definitions.Perm others)
    (nodup : (definitions.map (·.name)).Nodup)
    (compiled : definitions.mapM (CompiledRoute.compile definitions) = .ok routes)
    (compiled' : others.mapM (CompiledRoute.compile others) = .ok routes') {r : CompiledRoute}
    (hr : r ∈ routes) : r ∈ routes' := by
  obtain ⟨d, hd, hcompile⟩ := Result.exists_of_mem_mapM compiled hr
  obtain ⟨s, hs, hcompile'⟩ := Result.mem_of_mapM compiled' (same.mem_iff.mp hd)
  rw [CompiledRoute.compile_perm same nodup, hcompile'] at hcompile
  rw [← Except.ok.inj hcompile]
  exact hs

/-! ## The best matches -/

/-- The numbers of literal segments of the routes that can be activated and match a path. -/
def specificities (t : RouteTable) (path : String) : Set Nat :=
  fun k => ∃ r ∈ t.routes, r.definition.isLayout = false ∧
    ∃ p, r.pattern = some p ∧ (p.match? path).isSome = true ∧ p.literalSegments = k

/-- A number of literal segments is that of a route which matches. -/
theorem mem_specificities_iff {t : RouteTable} {path : String} {k : Nat} :
    k ∈ t.specificities path ↔ ∃ r ∈ t.routes, ∃ m, r.match? path = some m ∧ m.specificity = k := by
  constructor
  · rintro ⟨r, hr, hlayout, p, hp, hmatch, rfl⟩
    obtain ⟨captured, hcaptured⟩ := Option.isSome_iff_exists.mp hmatch
    exact ⟨r, hr, _, CompiledRoute.match?_eq_some hlayout hp hcaptured, rfl⟩
  · rintro ⟨r, hr, m, hm, rfl⟩
    obtain ⟨_, hlayout, p, hp, hmatch, hspecificity⟩ := CompiledRoute.of_match? hm
    exact ⟨r, hr, hlayout, p, hp, by rw [hmatch]; rfl, hspecificity.symm⟩

/-- The chosen match is one of a route of the table, and no match of the table has more literal segments. -/
theorem of_match? {t : RouteTable} {path : String} {m : RouteMatch} (h : t.match? path = some m) :
    m.route ∈ t.routes ∧ m.route.match? path = some m ∧
      IsGreatest (t.specificities path) m.specificity := by
  obtain ⟨before, after, hroutes, hmatch, hbefore, hafter⟩ := choose_spec h
  have hmem : m.route ∈ t.routes := by simp [hroutes]
  refine ⟨hmem, hmatch, mem_specificities_iff.mpr ⟨m.route, hmem, m, hmatch, rfl⟩, ?_⟩
  intro k hk
  obtain ⟨r, hr, n, hn, rfl⟩ := mem_specificities_iff.mp hk
  rw [hroutes, List.mem_append, List.mem_cons] at hr
  rcases hr with hr | rfl | hr
  · exact Nat.le_of_lt (hbefore r hr n hn)
  · rw [hmatch] at hn
    exact Nat.le_of_eq (congrArg (·.specificity) (Option.some.inj hn).symm)
  · exact hafter r hr n hn

/-- No route matches a path if there is no number to choose the greatest of. -/
theorem match?_eq_none_iff {t : RouteTable} {path : String} :
    t.match? path = none ↔ ¬ (t.specificities path).Nonempty := by
  constructor
  · rintro hnone ⟨k, hk⟩
    obtain ⟨r, hr, m, hm, _⟩ := mem_specificities_iff.mp hk
    rw [match?_eq_none_of_choose hnone hr] at hm
    cases hm
  · intro hempty
    cases hchosen : t.match? path with
    | none => rfl
    | some m => exact absurd ⟨_, (of_match? hchosen).2.2.1⟩ hempty

/-- A route that alone matches with the greatest number of literal segments is the one that is chosen. -/
theorem match?_of_single {t : RouteTable} {path : String} {r : CompiledRoute} {m : RouteMatch}
    (hr : r ∈ t.routes) (hm : r.match? path = some m)
    (greatest : IsGreatest (t.specificities path) m.specificity)
    (only : ∀ s ∈ t.routes, ∀ n, s.match? path = some n → n.specificity = m.specificity → s = r) :
    t.match? path = some m := by
  obtain ⟨n, hn⟩ : ∃ n, t.match? path = some n := exists_choose hr hm
  obtain ⟨hmem, hmatch, hgreatest⟩ := of_match? hn
  have hroute := only n.route hmem n hmatch (hgreatest.unique greatest)
  rw [hroute, hm] at hmatch
  rw [hn, Option.some.inj hmatch]

/-- What two tables have in common that differ in the order of their routes alone. -/
structure Agrees (t u : RouteTable) : Prop where
  pattern : ∀ name, t.patternOf? name = u.patternOf? name
  params : ∀ name, t.paramNames? name = u.paramNames? name
  href : ∀ name params, t.href name params = u.href name params
  unmatched : ∀ path, t.match? path = none ↔ u.match? path = none
  /-- Both match with the greatest number of literal segments that there is. -/
  matched : ∀ path m, t.match? path = some m → ∃ n, u.match? path = some n ∧
    n.specificity = m.specificity ∧ IsGreatest (t.specificities path) m.specificity ∧
      IsGreatest (u.specificities path) n.specificity
  /-- A route that alone has this number is matched by both, with the same captured values. -/
  single : ∀ path, ∀ r ∈ t.routes, ∀ m, r.match? path = some m →
    IsGreatest (t.specificities path) m.specificity →
    (∀ s ∈ t.routes, ∀ n, s.match? path = some n → n.specificity = m.specificity → s = r) →
      t.match? path = some m ∧ u.match? path = some m

section

variable {t u : RouteTable} (same : ∀ r, r ∈ t.routes ↔ r ∈ u.routes)
include same

/-- Tables of the same routes have the same numbers of literal segments to choose from. -/
theorem specificities_congr (path : String) : t.specificities path = u.specificities path := by
  ext k
  simp only [mem_specificities_iff, same]

/-- Tables of the same routes leave the same paths without a match. -/
theorem match?_eq_none_congr (path : String) : t.match? path = none ↔ u.match? path = none := by
  rw [match?_eq_none_iff, match?_eq_none_iff, specificities_congr same]

/-- Where one table matches the other one does so with as many literal segments. -/
theorem exists_match?_congr {path : String} {m : RouteMatch} (h : t.match? path = some m) :
    ∃ n, u.match? path = some n ∧ n.specificity = m.specificity := by
  obtain ⟨n, hn⟩ : ∃ n, u.match? path = some n := by
    rw [← Option.ne_none_iff_exists', ne_eq, ← match?_eq_none_congr same, h]
    exact Option.some_ne_none m
  have hgreatest := (of_match? hn).2.2
  rw [← specificities_congr same] at hgreatest
  exact ⟨n, hn, hgreatest.unique (of_match? h).2.2⟩

/-- Tables of the same routes agree, whatever their order. -/
theorem agrees_of_routes (nodup : (t.routes.map (·.name)).Nodup) : t.Agrees u := by
  have hfind : ∀ name, t.find? name = u.find? name := Keyed.find?_congr nodup same
  refine ⟨?_, ?_, ?_, match?_eq_none_congr same, ?_, ?_⟩
  · intro name
    rw [patternOf?, patternOf?, hfind]
  · intro name
    rw [paramNames?, paramNames?, hfind]
  · intro name params
    rw [RouteTable.href, RouteTable.href, concrete, concrete, hfind]
  · intro path m hm
    obtain ⟨n, hn, hequal⟩ := exists_match?_congr same hm
    exact ⟨n, hn, hequal, (of_match? hm).2.2, (of_match? hn).2.2⟩
  · intro path r hr m hm greatest only
    refine ⟨match?_of_single hr hm greatest only, match?_of_single ((same r).mp hr) hm ?_ ?_⟩
    · rw [← specificities_congr same]
      exact greatest
    · intro s hs
      exact only s ((same s).mpr hs)

end

/-! ## Registering in another order -/

/-- What builds in one order builds in every other. -/
theorem exists_build_of_perm {defaultPath : String} {t : RouteTable} (same : definitions.Perm others)
    (built : build definitions defaultPath = .ok t) : ∃ u, build others defaultPath = .ok u := by
  obtain ⟨wf, hdefault⟩ := of_build built
  have compiled := mapM_of_build built
  have hall : ∀ d ∈ others, ∃ r, CompiledRoute.compile others d = .ok r := by
    intro d hd
    obtain ⟨r, _, hr⟩ := Result.mem_of_mapM compiled (same.mem_iff.mpr hd)
    exact ⟨r, CompiledRoute.compile_perm same wf.nodup ▸ hr⟩
  obtain ⟨routes, compiled'⟩ := Result.exists_mapM hall
  -- The default route of the first table is a route of the second one too, and matches the default path.
  obtain ⟨found, hfound, _⟩ := wf.fallback
  have hdefaultMatch : t.match? defaultPath = some found := hdefault ▸ hfound
  obtain ⟨hmem, hmatch, _⟩ := of_match? hdefaultMatch
  obtain ⟨chosen, matched⟩ := exists_choose (mem_of_perm same wf.nodup compiled compiled' hmem) hmatch
  exact ⟨_, build_eq_ok ((same.map _).nodup_iff.mp wf.nodup) compiled' matched⟩

/-- **The order of registration matters for ties alone.** -/
theorem build_perm (same : definitions.Perm others) (defaultPath : String) :
    ((∃ t, build definitions defaultPath = .ok t) ↔ ∃ u, build others defaultPath = .ok u) ∧
      ∀ t u, build definitions defaultPath = .ok t → build others defaultPath = .ok u → t.Agrees u := by
  refine ⟨⟨?_, ?_⟩, ?_⟩
  · rintro ⟨t, built⟩
    exact exists_build_of_perm same built
  · rintro ⟨u, built⟩
    exact exists_build_of_perm same.symm built
  · intro t u built built'
    obtain ⟨wf, _⟩ := of_build built
    obtain ⟨wf', _⟩ := of_build built'
    refine agrees_of_routes (fun r => ⟨?_, ?_⟩) wf.nodup_names
    · exact mem_of_perm same wf.nodup (mapM_of_build built) (mapM_of_build built')
    · exact mem_of_perm same.symm wf'.nodup (mapM_of_build built') (mapM_of_build built)

/-- News below a layout that is registered after them, and two pages that match the same paths. -/
def newsRoutes : List RouteDefinition :=
  [(RouteDefinition.named "list.news").withUrl "/news", (RouteDefinition.named "page").withUrl "/list/:page",
    (RouteDefinition.named "text").withUrl "/list/:text", (RouteDefinition.named "list").asLayout.withUrl "/list",
    (RouteDefinition.named "home").withUrl "/"]

/-- Registered the other way round, the news are matched as before, and the other one of the two pages is
preferred. -/
theorem build_perm_news :
    ∃ t u, newsRoutes.Perm newsRoutes.reverse ∧ build newsRoutes "/" = .ok t ∧
      build newsRoutes.reverse "/" = .ok u ∧ t.Agrees u ∧
      (t.match? "/list/news").map RouteMatch.name = some "list.news" ∧
      (u.match? "/list/news").map RouteMatch.name = some "list.news" ∧
      (t.match? "/list/2").map RouteMatch.name = some "page" ∧
      (u.match? "/list/2").map RouteMatch.name = some "text" := by
  have hcheck : (build newsRoutes "/").toOption.map (fun t =>
      ((t.match? "/list/news").map RouteMatch.name, (t.match? "/list/2").map RouteMatch.name)) =
        some (some "list.news", some "page") := by
    decide +kernel
  have hcheck' : (build newsRoutes.reverse "/").toOption.map (fun u =>
      ((u.match? "/list/news").map RouteMatch.name, (u.match? "/list/2").map RouteMatch.name)) =
        some (some "list.news", some "text") := by
    decide +kernel
  obtain ⟨t, htable, hvalues⟩ := Option.map_eq_some_iff.mp hcheck
  obtain ⟨u, hreversed, hvalues'⟩ := Option.map_eq_some_iff.mp hcheck'
  obtain ⟨hnews, htie⟩ := Prod.mk.inj hvalues
  obtain ⟨hnews', htie'⟩ := Prod.mk.inj hvalues'
  have same : newsRoutes.Perm newsRoutes.reverse := newsRoutes.reverse_perm.symm
  have built := Result.ok_of_toOption htable
  have built' := Result.ok_of_toOption hreversed
  exact ⟨t, u, same, built, built', (build_perm same "/").2 t u built built', hnews, hnews', htie, htie'⟩

end RouteTable

end AdminConsole
