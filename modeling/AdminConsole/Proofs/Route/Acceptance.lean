import AdminConsole.Proofs.Route.DeclaredQuery
import AdminConsole.Proofs.Route.Hops
import AdminConsole.Proofs.Route.Inheritance
import AdminConsole.Proofs.Route.LinkRoundTrip
import AdminConsole.Proofs.Route.Order
import AdminConsole.Proofs.Route.Preferred

/-!
# Which tables are accepted

Building looks at the names first, then at the URL of each route, and last at the default path. Main statement: a
table is accepted exactly if no name is given twice, every URL that nested routes make together is a pattern, every
page has one, and some page matches the default path. Otherwise the first of these checks that fails is reported, for
the earliest route that fails it. In an accepted table every page has a pattern, and the default route is a page that
is matched by the default path, so that neither a link nor a resolution has to make up for a missing one.
-/

set_option autoImplicit false

namespace AdminConsole

namespace RouteDefinition

/-! ## The URL of a route -/

/-- The URL fragments of a route's chain, the outermost first. -/
def fragments (definitions : List RouteDefinition) (d : RouteDefinition) : List String :=
  (d.chain definitions).filterMap (·.url)

/-- What can be wrong with the URL of a route. -/
inductive UrlFault (definitions : List RouteDefinition) (d : RouteDefinition) : RouterError → Prop where
  | missing (page : d.isLayout = false) (bare : d.fragments definitions = []) :
      UrlFault definitions d (.invalidPattern d.name "" .missing)
  | malformed {reason : PatternError} (nested : d.fragments definitions ≠ [])
      (refused : Pattern.compile (Pattern.compose (d.fragments definitions)) = .error reason) :
      UrlFault definitions d
        (.invalidPattern d.name (Pattern.compose (d.fragments definitions)) (.malformed reason))

/-- Whether the route can be activated and its URL matches a path. -/
def Answers (definitions : List RouteDefinition) (d : RouteDefinition) (path : String) : Prop :=
  d.isLayout = false ∧ d.fragments definitions ≠ [] ∧
    ∃ p, Pattern.compile (Pattern.compose (d.fragments definitions)) = .ok p ∧ p.isMatch path = true

end RouteDefinition

namespace CompiledRoute

variable {definitions : List RouteDefinition} {d : RouteDefinition} {e : RouterError}

/-- Without URLs in its lineage a layout has no pattern, and a page is refused. -/
theorem compilePattern_of_bare (bare : d.fragments definitions = []) :
    compilePattern d (d.chain definitions) =
      if d.isLayout then .ok none else .error (.invalidPattern d.name "" .missing) := by
  rw [RouteDefinition.fragments] at bare
  simp only [compilePattern, composedUrl?, bare]

/-- With URLs in its lineage a route has the pattern that they compose, if it can be compiled. -/
theorem compilePattern_of_nested (nested : d.fragments definitions ≠ []) :
    compilePattern d (d.chain definitions) =
      match Pattern.compile (Pattern.compose (d.fragments definitions)) with
      | .ok p => .ok (some p)
      | .error reason =>
          .error (.invalidPattern d.name (Pattern.compose (d.fragments definitions)) (.malformed reason)) := by
  have hurl : composedUrl? (d.chain definitions) = some (Pattern.compose (d.fragments definitions)) := by
    unfold composedUrl?
    split
    · rename_i hbare
      exact absurd hbare nested
    · rfl
  cases hcompile : Pattern.compile (Pattern.compose (d.fragments definitions)) <;>
    simp only [compilePattern, hurl, hcompile]

/-- A route is refused with the error that tells what is wrong with its URL. -/
theorem compile_eq_error_iff : compile definitions d = .error e ↔ d.UrlFault definitions e := by
  have hpattern : compile definitions d = .error e ↔ compilePattern d (d.chain definitions) = .error e := by
    cases hcompile : compilePattern d (d.chain definitions) <;>
      simp [compile, hcompile, bind, Except.bind, pure, Except.pure]
  rw [hpattern]
  by_cases bare : d.fragments definitions = []
  · rw [compilePattern_of_bare bare]
    constructor
    · intro h
      split at h
      · cases h
      · rename_i page
        cases h
        exact .missing (by simpa using page) bare
    · rintro (⟨page, _⟩ | ⟨nested, _⟩)
      · simp [page]
      · exact absurd bare nested
  · rw [compilePattern_of_nested bare]
    constructor
    · intro h
      split at h
      · cases h
      · rename_i reason refused
        cases h
        exact .malformed bare refused
    · rintro (⟨_, hbare⟩ | ⟨_, refused⟩)
      · exact absurd hbare bare
      · rw [refused]

/-- A route is compiled if nothing is wrong with its URL. -/
theorem exists_compile_iff :
    (∃ r, compile definitions d = .ok r) ↔ ∀ e, ¬ d.UrlFault definitions e := by
  simp only [← compile_eq_error_iff]
  cases compile definitions d with
  | ok r => simp
  | error e => simp

/-- The pattern of a compiled route is read from the URL of its definition. -/
theorem Compiled.of_shape {r : CompiledRoute} {p : Pattern} (compiled : r.Compiled definitions)
    (shape : r.pattern = some p) :
    r.definition.fragments definitions ≠ [] ∧
      Pattern.compile (Pattern.compose (r.definition.fragments definitions)) = .ok p := by
  have hpattern := compiled.pattern
  rw [compiled.chain, shape] at hpattern
  exact RouteTable.of_compilePattern_some hpattern

/-- A compiled route answers what its definition answers. -/
theorem Compiled.answers_iff {r : CompiledRoute} (compiled : r.Compiled definitions) {path : String} :
    r.answers path = true ↔ r.definition.Answers definitions path := by
  rw [CompiledRoute.answers_iff]
  constructor
  · rintro ⟨m, hm⟩
    obtain ⟨_, page, p, hp, hread, _⟩ := of_match? hm
    obtain ⟨nested, accepted⟩ := compiled.of_shape hp
    exact ⟨page, nested, p, accepted, by simp [Pattern.isMatch, hread]⟩
  · rintro ⟨page, nested, p, accepted, hread⟩
    have hpattern := compiled.pattern
    rw [compiled.chain, compilePattern_of_nested nested, accepted] at hpattern
    have hp : r.pattern = some p := (Except.ok.inj hpattern).symm
    obtain ⟨captured, hcaptured⟩ := Option.isSome_iff_exists.mp hread
    exact ⟨_, match?_eq_some page hp hcaptured⟩

end CompiledRoute

namespace RouteTable

variable {definitions : List RouteDefinition} {defaultPath : String} {t : RouteTable}

/-! ## The three checks -/

/-- The name that is reported is the first that was given before. -/
theorem of_firstRepeated? {seen names : List String} {name : String} (h : firstRepeated? seen names = some name) :
    ∃ before after, names = before ++ name :: after ∧ before.Nodup ∧ (∀ other ∈ before, other ∉ seen) ∧
      (name ∈ seen ∨ name ∈ before) := by
  fun_induction firstRepeated? seen names with
  | case1 => cases h
  | case2 seen first more hseen =>
    cases h
    exact ⟨[], more, rfl, List.nodup_nil, by simp, .inl (by simpa using hseen)⟩
  | case3 seen first more hseen ih =>
    obtain ⟨before, after, rfl, distinct, fresh, again⟩ := ih h
    have hfirst : first ∉ before := fun hmem => fresh first hmem List.mem_cons_self
    refine ⟨first :: before, after, rfl, List.nodup_cons.mpr ⟨hfirst, distinct⟩, ?_, ?_⟩
    · refine List.forall_mem_cons.mpr ⟨by simpa using hseen, fun other hmem hin => ?_⟩
      exact fresh other hmem (List.mem_cons_of_mem first hin)
    · rcases again with hmem | hmem
      · rcases List.mem_cons.mp hmem with rfl | hmem
        · exact .inr List.mem_cons_self
        · exact .inl hmem
      · exact .inr (List.mem_cons_of_mem first hmem)

/-- The first name that is repeated is found behind names that are all different. -/
theorem firstRepeated?_append {seen before after : List String} {name : String} (distinct : before.Nodup)
    (fresh : ∀ other ∈ before, other ∉ seen) (again : name ∈ seen ∨ name ∈ before) :
    firstRepeated? seen (before ++ name :: after) = some name := by
  induction before generalizing seen with
  | nil =>
    have hseen : name ∈ seen := again.resolve_right List.not_mem_nil
    rw [List.nil_append, firstRepeated?, if_pos (by simpa using hseen)]
  | cons first before ih =>
    obtain ⟨hfirst, hdistinct⟩ := List.nodup_cons.mp distinct
    obtain ⟨hseen, hfresh⟩ := List.forall_mem_cons.mp fresh
    rw [List.cons_append, firstRepeated?, if_neg (by simpa using hseen)]
    refine ih hdistinct ?_ ?_
    · intro other hmem hin
      rcases List.mem_cons.mp hin with rfl | hin
      · exact hfirst hmem
      · exact hfresh other hmem hin
    · rcases again with hmem | hmem
      · exact .inl (List.mem_cons_of_mem first hmem)
      · rcases List.mem_cons.mp hmem with rfl | hmem
        · exact .inl List.mem_cons_self
        · exact .inr hmem

/-- All routes are compiled exactly where no URL is at fault. -/
theorem exists_mapM_compile_iff :
    (∃ routes, definitions.mapM (CompiledRoute.compile definitions) = .ok routes) ↔
      ∀ d ∈ definitions, ∀ e, ¬ d.UrlFault definitions e := by
  constructor
  · rintro ⟨routes, compiled⟩ d hd
    obtain ⟨r, _, hr⟩ := Result.mem_of_mapM compiled hd
    exact CompiledRoute.exists_compile_iff.mp ⟨r, hr⟩
  · intro clear
    exact Result.exists_mapM fun d hd => CompiledRoute.exists_compile_iff.mpr (clear d hd)

/-- Among compiled routes none is chosen for a path if none of the definitions answers it. -/
theorem choose_eq_none_iff_of_mapM {routes : List CompiledRoute} {path : String}
    (compiled : definitions.mapM (CompiledRoute.compile definitions) = .ok routes) :
    (choose routes path).1 = none ↔ ∀ d ∈ definitions, ¬ d.Answers definitions path := by
  rw [choose_eq_none_iff]
  constructor
  · intro hsilent d hd hanswers
    obtain ⟨r, hr, hcompile⟩ := Result.mem_of_mapM compiled hd
    obtain ⟨rfl, hcompiled⟩ := CompiledRoute.compiled_of_compile hcompile
    exact Bool.false_ne_true ((hsilent r hr).symm.trans (hcompiled.answers_iff.mpr hanswers))
  · intro hsilent r hr
    obtain ⟨d, hd, hcompile⟩ := Result.exists_of_mem_mapM compiled hr
    obtain ⟨rfl, hcompiled⟩ := CompiledRoute.compiled_of_compile hcompile
    exact Bool.eq_false_iff.mpr fun hanswers => hsilent r.definition hd (hcompiled.answers_iff.mp hanswers)

/-! ## Accepted and refused -/

/-- What it takes for a table to be accepted. -/
structure WellFormed (definitions : List RouteDefinition) (defaultPath : String) : Prop where
  distinct : (definitions.map (·.name)).Nodup
  readable : ∀ d ∈ definitions, d.fragments definitions ≠ [] →
    ∃ p, Pattern.compile (Pattern.compose (d.fragments definitions)) = .ok p
  rooted : ∀ d ∈ definitions, d.isLayout = false → d.fragments definitions ≠ []
  answered : ∃ d ∈ definitions, d.Answers definitions defaultPath

/-- Why a table is refused, with the error that says so. -/
inductive Refused (definitions : List RouteDefinition) (defaultPath : String) : RouterError → Prop where
  /-- By the earliest route whose name was given before. -/
  | name {before after : List RouteDefinition} {d : RouteDefinition} (split : definitions = before ++ d :: after)
      (distinct : (before.map (·.name)).Nodup) (again : d.name ∈ before.map (·.name)) :
      Refused definitions defaultPath (.duplicateRoute d.name)
  /-- By the earliest route whose URL is at fault, where no name is given twice. -/
  | url {before after : List RouteDefinition} {d : RouteDefinition} {e : RouterError}
      (distinct : (definitions.map (·.name)).Nodup) (split : definitions = before ++ d :: after)
      (clear : ∀ q ∈ before, ∀ other, ¬ q.UrlFault definitions other) (fault : d.UrlFault definitions e) :
      Refused definitions defaultPath e
  /-- By the default path, where nothing else is wrong. -/
  | default (distinct : (definitions.map (·.name)).Nodup)
      (clear : ∀ d ∈ definitions, ∀ e, ¬ d.UrlFault definitions e)
      (unanswered : ∀ d ∈ definitions, ¬ d.Answers definitions defaultPath) :
      Refused definitions defaultPath (.invalidDefault defaultPath)

/-- A table that does not build is refused, with the error that it returns. -/
theorem refused_of_build {e : RouterError} (h : build definitions defaultPath = .error e) :
    Refused definitions defaultPath e := by
  rw [build_eq] at h
  split at h
  · rename_i name hrepeated
    cases h
    obtain ⟨before, after, hsplit, distinct, _, again⟩ := of_firstRepeated? hrepeated
    obtain ⟨earlier, rest, rfl, rfl, hrest⟩ := List.map_eq_append_iff.mp hsplit
    obtain ⟨d, later, rfl, rfl, _⟩ := List.map_eq_cons_iff.mp hrest
    exact .name rfl distinct (again.resolve_left List.not_mem_nil)
  · rename_i hrepeated
    have distinct := (nodup_of_firstRepeated? hrepeated).1
    split at h
    · rename_i other hfailed
      cases h
      obtain ⟨before, d, after, hsplit, hbefore, hfault⟩ := Result.mapM_eq_error_iff.mp hfailed
      refine .url distinct hsplit ?_ (CompiledRoute.compile_eq_error_iff.mp hfault)
      exact fun q hq => CompiledRoute.exists_compile_iff.mp (hbefore q hq)
    · rename_i routes compiled
      split at h
      · cases h
      · rename_i hunmatched
        cases h
        exact .default distinct (exists_mapM_compile_iff.mp ⟨routes, compiled⟩)
          ((choose_eq_none_iff_of_mapM compiled).mp hunmatched)

/-- A table that is refused does not build, and returns the error that says why. -/
theorem build_of_refused {e : RouterError} (h : Refused definitions defaultPath e) :
    build definitions defaultPath = .error e := by
  cases h with
  | @name before after d split distinct again =>
    have hrepeated : firstRepeated? [] (definitions.map (·.name)) = some d.name := by
      rw [split, List.map_append, List.map_cons]
      exact firstRepeated?_append distinct (fun _ _ => List.not_mem_nil) (.inr again)
    simp only [build_eq, hrepeated]
  | @url before after d e distinct split clear fault =>
    have hnames := firstRepeated?_eq_none distinct fun _ _ => List.not_mem_nil
    have hfailed : definitions.mapM (CompiledRoute.compile definitions) = .error e :=
      Result.mapM_eq_error_iff.mpr ⟨before, d, after, split,
        fun q hq => CompiledRoute.exists_compile_iff.mpr (clear q hq), CompiledRoute.compile_eq_error_iff.mpr fault⟩
    simp only [build_eq, hnames, hfailed]
  | default distinct clear unanswered =>
    have hnames := firstRepeated?_eq_none distinct fun _ _ => List.not_mem_nil
    obtain ⟨routes, compiled⟩ := exists_mapM_compile_iff.mpr clear
    have hunmatched := (choose_eq_none_iff_of_mapM compiled).mpr unanswered
    simp only [build_eq, hnames, compiled, hunmatched]

/-- What is well formed is not refused. -/
theorem WellFormed.not_refused (h : WellFormed definitions defaultPath) {e : RouterError} :
    ¬ Refused definitions defaultPath e := by
  intro refused
  cases refused with
  | name split _ again =>
    have distinct := h.distinct
    rw [split, List.map_append, List.map_cons, List.nodup_append] at distinct
    exact distinct.2.2 _ again _ List.mem_cons_self rfl
  | @url before after d _ _ split _ fault =>
    have hmem : d ∈ definitions := by simp [split]
    cases fault with
    | missing page bare => exact h.rooted d hmem page bare
    | malformed nested refused =>
      obtain ⟨p, accepted⟩ := h.readable d hmem nested
      rw [refused] at accepted
      cases accepted
  | default _ _ unanswered =>
    obtain ⟨d, hd, hanswers⟩ := h.answered
    exact unanswered d hd hanswers

/-- What builds has different names, readable URLs and an answer for its default path. -/
theorem wellFormed_of_build (built : build definitions defaultPath = .ok t) :
    WellFormed definitions defaultPath := by
  obtain ⟨wf, rfl⟩ := of_build built
  have compiled := mapM_of_build built
  have hclear := exists_mapM_compile_iff.mp ⟨t.routes, compiled⟩
  refine ⟨wf.nodup, ?_, ?_, ?_⟩
  · intro d hd nested
    cases hcompile : Pattern.compile (Pattern.compose (d.fragments definitions)) with
    | ok p => exact ⟨p, rfl⟩
    | error reason => exact absurd (.malformed nested hcompile) (hclear d hd _)
  · intro d hd page bare
    exact hclear d hd _ (.missing page bare)
  · by_contra hnone
    have hunmatched := (choose_eq_none_iff_of_mapM compiled).mpr fun d hd hanswers => hnone ⟨d, hd, hanswers⟩
    obtain ⟨found, hfound, _⟩ := wf.fallback
    cases hunmatched.symm.trans hfound

/-! ## What an accepted table is sure of -/

/-- What neither links nor resolutions have to make up for in a table. -/
structure Complete (t : RouteTable) (definitions : List RouteDefinition) (defaultPath : String) : Prop where
  registered : t.routes.map (·.definition) = definitions
  start : t.defaultPath = defaultPath
  /-- Every page has a pattern. -/
  pattern : ∀ r ∈ t.routes, r.definition.isLayout = false → ∃ p, r.pattern = some p
  /-- The default route is a page of the table, and the one that the default path is matched to. -/
  fallback : t.fallback ∈ t.routes ∧ t.fallback.definition.isLayout = false ∧
    ∃ found, t.match? defaultPath = some found ∧ found.route = t.fallback
  /-- What nothing matches is activated with what the default route's pattern captures from the default path. -/
  unmatched : ∃ p captured, t.fallback.pattern = some p ∧ p.match? defaultPath = some captured ∧
    (∀ found, t.match? defaultPath = some found → found.captured = captured) ∧
    ∀ path, t.match? path = none → ∀ query services, t.stepPath path query services =
      t.fallback.activate captured (query.filterKeys p.queryNames.contains) services
  /-- A link is refused as one to an unknown route for names alone that are not registered. -/
  link : ∀ name params other, t.href name params = .error (.invalidRouteName other) ↔
    other = name ∧ RouteDefinition.find? definitions name = none

/-- Every page of a table that was built has a pattern. -/
theorem Built.exists_pattern (wf : t.Built definitions) {r : CompiledRoute} (hr : r ∈ t.routes)
    (page : r.definition.isLayout = false) : ∃ p, r.pattern = some p := by
  cases hp : r.pattern with
  | some p => exact ⟨p, rfl⟩
  | none =>
    obtain ⟨_, hlayout⟩ := of_compilePattern_none (hp ▸ (wf.compiled r hr).pattern)
    rw [page] at hlayout
    cases hlayout

/-- A link fails if its route cannot be activated, and otherwise for a parameter of the path alone. -/
theorem Built.href_eq_error_iff (wf : t.Built definitions) {name : String} {params : RouteParams} {e : RouterError} :
    t.href name params = .error e ↔
      t.concrete name = .error e ∨ ∃ r p, t.concrete name = .ok r ∧ r.pattern = some p ∧
        p.reverse (r.schema.materialize Dictionary.empty params) = none ∧
        e = .missingParameter ((p.paramNames.find? fun param =>
          !(r.schema.materialize Dictionary.empty params).contains param).getD "") name := by
  cases hfound : t.concrete name with
  | error other =>
    rw [href_of_not_concrete hfound]
    simp
  | ok r =>
    obtain ⟨hmem, _, page⟩ := of_concrete hfound
    obtain ⟨p, shape⟩ := wf.exists_pattern hmem page
    rw [href_of_concrete hfound shape]
    constructor
    · intro h
      split at h
      · cases h
      · rename_i hpath
        exact .inr ⟨r, p, rfl, shape, hpath, (Except.error.inj h).symm⟩
    · rintro (⟨⟨⟩⟩ | ⟨_, q, ⟨⟩, hq, hpath, rfl⟩)
      obtain rfl := Option.some.inj (shape.symm.trans hq)
      rw [hpath]

/-- A link complains of an unknown name when no route is declared under it, and then names it. -/
theorem Built.href_eq_invalidRouteName_iff (wf : t.Built definitions) {name other : String}
    {params : RouteParams} :
    t.href name params = .error (.invalidRouteName other) ↔
      other = name ∧ RouteDefinition.find? definitions name = none := by
  rw [wf.href_eq_error_iff, wf.concrete_eq_error_iff]
  simp

/-- A table that was built is complete. -/
theorem Built.complete (wf : t.Built definitions) : t.Complete definitions t.defaultPath := by
  obtain ⟨found, hfound, hroute⟩ := wf.fallback
  obtain ⟨hmem, hown⟩ := mem_of_choose hfound
  obtain ⟨_, page, p, hp, hread, _⟩ := CompiledRoute.of_match? hown
  rw [hroute] at hmem page hp
  refine ⟨wf.registered, rfl, fun r => wf.exists_pattern, ⟨hmem, page, found, hfound, hroute⟩,
    ⟨p, found.captured, hp, hread, ?_, ?_⟩, fun name params other => wf.href_eq_invalidRouteName_iff⟩
  · intro other hother
    rw [Option.some.inj (hother.symm.trans hfound)]
  · intro path hnone query services
    rw [wf.stepPath_eq (.inr ⟨hnone, hfound⟩), hroute, hp]
    rfl

/-- **Exactly the well-formed tables are accepted**, and an accepted one has nothing missing. -/
theorem build_accepts_wellFormed (definitions : List RouteDefinition) (defaultPath : String) :
    ((∃ t, build definitions defaultPath = .ok t) ↔ WellFormed definitions defaultPath) ∧
      (∀ e, build definitions defaultPath = .error e ↔ Refused definitions defaultPath e) ∧
      ∀ t, build definitions defaultPath = .ok t → t.Complete definitions defaultPath := by
  refine ⟨⟨?_, ?_⟩, fun e => ⟨refused_of_build, build_of_refused⟩, ?_⟩
  · rintro ⟨t, built⟩
    exact wellFormed_of_build built
  · intro h
    cases hbuild : build definitions defaultPath with
    | ok t => exact ⟨t, rfl⟩
    | error e => exact absurd (refused_of_build hbuild) h.not_refused
  · intro t built
    obtain ⟨wf, rfl⟩ := of_build built
    exact wf.complete

/-- A page whose URL is no pattern. -/
def draftPage : RouteDefinition := (RouteDefinition.named "page").withUrl "/list/:"

/-- The same page as it was meant. -/
def listPage : RouteDefinition := (RouteDefinition.named "page").withUrl "/list/:page"

/-- Drafts of a table, with a page without a URL between the two. -/
def draftRoutes : List RouteDefinition := [draftPage, RouteDefinition.named "text", listPage]

/-- The drafts are refused for one fault after the other. The last route alone makes a table, if the default path is
one of its own. -/
theorem build_accepts_wellFormed_drafts :
    build draftRoutes "/list/1" = .error (.duplicateRoute "page") ∧
      build (draftRoutes.take 2) "/list/1" =
        .error (.invalidPattern "page" "/list/:" (.malformed (.emptyName "/list/:"))) ∧
      build (draftRoutes.drop 1) "/list/1" = .error (.invalidPattern "text" "" .missing) ∧
      build [listPage] "/" = .error (.invalidDefault "/") ∧
      WellFormed [listPage] "/list/1" ∧
      ∃ t, build [listPage] "/list/1" = .ok t ∧ t.Complete [listPage] "/list/1" := by
  have refuse : ∀ {definitions defaultPath e}, Refused definitions defaultPath e →
      build definitions defaultPath = .error e := fun h => ((build_accepts_wellFormed _ _).2.1 _).mpr h
  have hcolon : Pattern.compile (Pattern.compose (draftPage.fragments (draftRoutes.take 2))) =
      .error (.emptyName "/list/:") := by
    decide +kernel
  have hnested : listPage.fragments [listPage] ≠ [] := by decide +kernel
  have hpage : (Pattern.compile (Pattern.compose (listPage.fragments [listPage]))).toOption.map
      (fun p => (p.isMatch "/", p.isMatch "/list/1")) = some (false, true) := by
    decide +kernel
  obtain ⟨p, hp, hmatch⟩ := Option.map_eq_some_iff.mp hpage
  obtain ⟨hroot, hlist⟩ := Prod.mk.inj hmatch
  have accepted := Result.ok_of_toOption hp
  have wellFormed : WellFormed [listPage] "/list/1" := by
    refine ⟨List.nodup_singleton _, ?_, ?_, listPage, List.mem_singleton_self _, rfl, hnested, p, accepted, hlist⟩
    · exact List.forall_mem_singleton.mpr fun _ => ⟨p, accepted⟩
    · exact List.forall_mem_singleton.mpr fun _ => hnested
  have unanswered : ¬ listPage.Answers [listPage] "/" := by
    rintro ⟨_, _, q, haccepted, hread⟩
    obtain rfl := Except.ok.inj (accepted.symm.trans haccepted)
    exact Bool.false_ne_true (hroot.symm.trans hread)
  have clear : ∀ e, ¬ listPage.UrlFault [listPage] e := by
    rintro e (⟨_, bare⟩ | ⟨_, refused⟩)
    · exact hnested bare
    · cases refused.symm.trans accepted
  obtain ⟨t, built⟩ := (build_accepts_wellFormed [listPage] "/list/1").1.mpr wellFormed
  have hthird : draftRoutes = draftRoutes.take 2 ++ listPage :: [] := rfl
  have hfirst : draftRoutes.take 2 = [] ++ draftPage :: [RouteDefinition.named "text"] := rfl
  have hsecond : draftRoutes.drop 1 = [] ++ RouteDefinition.named "text" :: [listPage] := rfl
  refine ⟨refuse (.name hthird (by decide) (by decide)), ?_, ?_, ?_, wellFormed, t, built,
    (build_accepts_wellFormed [listPage] "/list/1").2.2 t built⟩
  · exact refuse (.url (by decide) hfirst (fun _ h => absurd h List.not_mem_nil)
      (.malformed (by decide +kernel) hcolon))
  · exact refuse (.url (by decide) hsecond (fun _ h => absurd h List.not_mem_nil)
      (.missing rfl (by decide +kernel)))
  · exact refuse (.default (List.nodup_singleton _) (List.forall_mem_singleton.mpr clear)
      (List.forall_mem_singleton.mpr unanswered))

end RouteTable

end AdminConsole
