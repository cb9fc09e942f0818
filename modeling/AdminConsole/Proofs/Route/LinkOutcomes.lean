import AdminConsole.Proofs.Pattern.Canonical
import AdminConsole.Proofs.Route.Acceptance
import Mathlib.Data.List.Find

/-!
# What becomes of a link

A link is asked for with a name and some values. It is refused for a name that is not registered, for a layout, and
for a page whose path lacks a value, where a default counts as a value. Main statement: these refusals exclude each
other, there are no others, and what is written otherwise has in its query the names of the query list that have a
value other than a default that is left out, in the order of the list and as often as they stand there.
-/

set_option autoImplicit false

namespace AdminConsole

/-! ## The first that is missing -/

/-- Whether a name is the first of these without a value. -/
def IsFirstMissing (value? : String → Option String) (names : List String) (name : String) : Prop :=
  ∃ before after, names = before ++ name :: after ∧ value? name = none ∧ ∀ other ∈ before, value? other ≠ none

section

variable {value? other? : String → Option String} {names : List String} {name : String}

/-- The first name that a dictionary does not hold is the first one that is missing. -/
theorem find?_eq_some_iff_isFirstMissing {values : Dictionary String} :
    names.find? (fun n => !values.contains n) = some name ↔ IsFirstMissing values.get? names name := by
  rw [List.find?_eq_some_iff_append, IsFirstMissing]
  constructor
  · rintro ⟨missing, before, after, hsplit, hbefore⟩
    refine ⟨before, after, hsplit, by simpa [Dictionary.contains] using missing, fun other hother => ?_⟩
    simpa [Dictionary.contains, Option.isSome_iff_ne_none] using hbefore other hother
  · rintro ⟨before, after, hsplit, missing, hbefore⟩
    refine ⟨by simpa [Dictionary.contains] using missing, before, after, hsplit, fun other hother => ?_⟩
    simpa [Dictionary.contains, Option.isSome_iff_ne_none] using hbefore other hother

/-- The first name that is missing is one of the names, and has no value. -/
theorem IsFirstMissing.mem (h : IsFirstMissing value? names name) : name ∈ names ∧ value? name = none := by
  obtain ⟨before, after, rfl, missing, _⟩ := h
  exact ⟨by simp, missing⟩

/-- One name is the first to be missing if any is missing. -/
theorem exists_isFirstMissing_iff :
    (∃ name, IsFirstMissing value? names name) ↔ ∃ name ∈ names, value? name = none := by
  constructor
  · rintro ⟨name, h⟩
    exact ⟨name, h.mem⟩
  · rintro ⟨name, hname, missing⟩
    induction names with
    | nil => cases hname
    | cons first names ih =>
      cases hfirst : value? first with
      | none => exact ⟨first, [], names, rfl, hfirst, fun _ h => absurd h List.not_mem_nil⟩
      | some value =>
        have hrest : name ∈ names := by
          rcases List.mem_cons.mp hname with rfl | hrest
          · rw [missing] at hfirst
            cases hfirst
          · exact hrest
        obtain ⟨found, before, after, rfl, hfound, hbefore⟩ := ih hrest
        refine ⟨found, first :: before, after, rfl, hfound, List.forall_mem_cons.mpr ⟨?_, hbefore⟩⟩
        rw [hfirst]
        exact Option.some_ne_none value

/-- Which name is the first to be missing depends on the values of these names alone. -/
theorem IsFirstMissing.congr (same : ∀ n ∈ names, value? n = other? n) (h : IsFirstMissing value? names name) :
    IsFirstMissing other? names name := by
  obtain ⟨before, after, rfl, missing, hbefore⟩ := h
  refine ⟨before, after, rfl, ?_, fun other hother => ?_⟩
  · rw [← same name (by simp), missing]
  · rw [← same other (by simp [hother])]
    exact hbefore other hother

/-- A path cannot be written where a value is missing, and then there is a first one that is. -/
theorem Pattern.reverse_eq_none_iff {p : Pattern} {values : Dictionary String} :
    p.reverse values = none ↔ ∃ name, IsFirstMissing values.get? p.paramNames name := by
  rw [exists_isFirstMissing_iff, ← Option.not_isSome_iff_eq_none, isSome_reverse_iff]
  simp [Dictionary.contains]

end

/-! ## What the definitions ask of a link -/

namespace RouteDefinition

/-- The descriptor of a parameter: the last that a route or a level above it declares. -/
def descriptor? (definitions : List RouteDefinition) (d : RouteDefinition) (param : String) :
    Option ParamDescriptor :=
  lastDeclared? ((d.chain definitions).flatMap (·.params)) param

/-- The value of a parameter in a link: the supplied one, or else the default. -/
def linked? (definitions : List RouteDefinition) (d : RouteDefinition) (params : RouteParams) (param : String) :
    Option String :=
  (params.get? param).or ((d.descriptor? definitions param).bind (·.default?))

/-- The value of a parameter in the query of a link, where a default may be left out. -/
def listed? (definitions : List RouteDefinition) (d : RouteDefinition) (params : RouteParams) (param : String) :
    Option String :=
  (d.linked? definitions params param).filter fun value => d.descriptor? definitions param != some ⟨some value, true⟩

/-- Whether a name is that of a page with this pattern. -/
structure IsPage (definitions : List RouteDefinition) (name : String) (d : RouteDefinition) (p : Pattern) : Prop where
  found : find? definitions name = some d
  page : d.isLayout = false
  nested : d.fragments definitions ≠ []
  shape : Pattern.compile (Pattern.compose (d.fragments definitions)) = .ok p

/-- The path of a link to a page, and the names and values in its query. -/
structure LinkParts (definitions : List RouteDefinition) (d : RouteDefinition) (p : Pattern) (params : RouteParams)
    (path : String) (pairs : List (String × String)) : Prop where
  path : ∃ values : RouteParams, (∀ param ∈ p.paramNames, values.get? param = d.linked? definitions params param) ∧
    p.reverse values = some path
  names : pairs.map (·.1) = p.queryNames.filter fun name => (d.listed? definitions params name).isSome
  values : ∀ pair ∈ pairs, d.listed? definitions params pair.1 = some pair.2

end RouteDefinition

/-! ## What a compiled route writes -/

/-- The names that have a value, each with it, in the order of the names and as often as they stand there. -/
theorem eq_filterMap_iff {value? : String → Option String} {names : List String} {pairs : List (String × String)} :
    pairs = names.filterMap (fun name => (value? name).map fun value => (name, value)) ↔
      pairs.map (·.1) = names.filter (fun name => (value? name).isSome) ∧
        ∀ pair ∈ pairs, value? pair.1 = some pair.2 := by
  constructor
  · rintro rfl
    constructor
    · induction names with
      | nil => rfl
      | cons name names ih =>
        rw [List.filterMap_cons, List.filter_cons]
        cases value? name with
        | none => exact ih
        | some value => exact congrArg (name :: ·) ih
    · intro pair hpair
      obtain ⟨name, _, hvalue⟩ := List.mem_filterMap.mp hpair
      obtain ⟨value, hfound, rfl⟩ := Option.map_eq_some_iff.mp hvalue
      exact hfound
  · rintro ⟨hnames, hvalues⟩
    have hpairs : pairs = (pairs.map (·.1)).filterMap fun name => (value? name).map fun value => (name, value) := by
      rw [List.filterMap_map]
      conv_lhs => rw [← List.filterMap_some (l := pairs)]
      refine List.filterMap_congr fun pair hpair => ?_
      simp [hvalues pair hpair]
    rw [hpairs, hnames, List.filterMap_filter]
    refine List.filterMap_congr fun name _ => ?_
    cases value? name <;> rfl

/-- A value is left out of a link if it is the default of a parameter that asks for this. -/
theorem ParamDescriptor.any_isSquashed (descriptor : Option ParamDescriptor) (value : String) :
    (descriptor.any fun d => d.isSquashed (some value)) = (descriptor == some ⟨some value, true⟩) := by
  rw [Bool.eq_iff_iff, beq_iff_eq]
  cases descriptor with
  | none => simp
  | some d =>
    obtain ⟨fallback, squash⟩ := d
    simp only [Option.any_some, isSquashed, Bool.and_eq_true, beq_iff_eq, Option.some.injEq, mk.injEq]
    exact ⟨fun h => ⟨h.2.symm, h.1⟩, fun h => ⟨h.2, h.1.symm⟩⟩

namespace CompiledRoute

variable {definitions : List RouteDefinition} {r : CompiledRoute} {p : Pattern} {params : RouteParams}
  (compiled : r.Compiled definitions) (shape : r.pattern = some p)
include compiled

/-- The schema of a compiled route has the descriptors of its lineage. -/
theorem Compiled.descriptor?_eq (name : String) :
    r.schema.descriptor? name = r.definition.descriptor? definitions name := by
  rw [compiled.schema, descriptor?_eq_lastDeclared?, compiled.chain]
  rfl

include shape

/-- A name that the URL of a route declares has in a link the value that the definitions ask for. -/
theorem Compiled.get?_linked {name : String} (declared : name ∈ p.paramNames ∨ name ∈ p.queryNames) :
    (r.schema.materialize Dictionary.empty params).get? name = r.definition.linked? definitions params name := by
  rw [ParamSchema.get?_materialize_of_mem compiled.nodup_names (compiled.mem_names shape declared),
    ParamSchema.default?, compiled.descriptor?_eq]
  rfl

/-- A declared name stands in the query of a link with the value that may be listed. -/
theorem Compiled.linkValue?_eq {name : String} (declared : name ∈ p.queryNames) :
    RouteTable.linkValue? r.schema (r.schema.materialize Dictionary.empty params) name =
      r.definition.listed? definitions params name := by
  unfold RouteTable.linkValue? RouteDefinition.listed?
  rw [compiled.get?_linked shape (.inr declared), compiled.descriptor?_eq]
  simp only [ParamDescriptor.any_isSquashed]
  rfl

/-- A link has the parts that the pattern and the query write with the values of the schema. -/
theorem Compiled.linkParts_iff {path : String} {pairs : List (String × String)} :
    r.definition.LinkParts definitions p params path pairs ↔
      p.reverse (r.schema.materialize Dictionary.empty params) = some path ∧
        pairs = RouteTable.linkPairs r.schema (r.schema.materialize Dictionary.empty params) p.queryNames := by
  have hvalues : ∀ param ∈ p.paramNames, (r.schema.materialize Dictionary.empty params).get? param =
      r.definition.linked? definitions params param := fun param h => compiled.get?_linked shape (.inl h)
  have hpairs : RouteTable.linkPairs r.schema (r.schema.materialize Dictionary.empty params) p.queryNames =
      p.queryNames.filterMap fun name =>
        (r.definition.listed? definitions params name).map fun value => (name, value) := by
    refine List.filterMap_congr fun name hname => ?_
    rw [compiled.linkValue?_eq shape hname]
  rw [hpairs, eq_filterMap_iff]
  constructor
  · rintro ⟨⟨values, same, hpath⟩, hnames, hlisted⟩
    refine ⟨?_, hnames, hlisted⟩
    rw [← hpath]
    exact Pattern.reverse_congr fun param h => (hvalues param h).trans (same param h).symm
  · rintro ⟨hpath, hnames, hlisted⟩
    exact ⟨⟨_, hvalues, hpath⟩, hnames, hlisted⟩

/-- A parameter is the first to be missing in the values of the schema exactly if it is in the supplied ones and the
defaults. -/
theorem Compiled.isFirstMissing_iff {param : String} :
    IsFirstMissing (r.schema.materialize Dictionary.empty params).get? p.paramNames param ↔
      IsFirstMissing (r.definition.linked? definitions params) p.paramNames param := by
  constructor
  · exact .congr fun param h => compiled.get?_linked shape (.inl h)
  · exact .congr fun param h => (compiled.get?_linked shape (.inl h)).symm

end CompiledRoute

namespace RouteTable

variable {definitions : List RouteDefinition} {t : RouteTable} {name : String} {params : RouteParams}
  {d : RouteDefinition} {p : Pattern}

/-- The pages of a table are its routes that can be activated. -/
theorem Built.isPage_iff (wf : t.Built definitions) :
    RouteDefinition.IsPage definitions name d p ↔
      ∃ r, t.concrete name = .ok r ∧ r.pattern = some p ∧ r.definition = d := by
  constructor
  · intro h
    obtain ⟨r, hr, found, rfl⟩ := wf.concrete_of_known h.found h.page
    obtain ⟨q, shape⟩ := wf.exists_pattern hr h.page
    obtain ⟨_, accepted⟩ := (wf.compiled r hr).of_shape shape
    obtain rfl := Except.ok.inj (accepted.symm.trans h.shape)
    exact ⟨r, found, shape, rfl⟩
  · rintro ⟨r, found, shape, rfl⟩
    obtain ⟨hr, rfl, page⟩ := of_concrete found
    obtain ⟨nested, accepted⟩ := (wf.compiled r hr).of_shape shape
    refine ⟨?_, page, nested, accepted⟩
    rw [wf.find?_definition, wf.find?_eq_some hr]
    rfl

/-- A link complains of the first parameter in the path of its page that has no value. -/
theorem Built.href_eq_missingParameter_iff (wf : t.Built definitions) {param route : String} :
    t.href name params = .error (.missingParameter param route) ↔
      route = name ∧ ∃ d p, RouteDefinition.IsPage definitions name d p ∧
        IsFirstMissing (d.linked? definitions params) p.paramNames param := by
  rw [wf.href_eq_error_iff, wf.concrete_eq_error_iff]
  constructor
  · rintro ((⟨⟨⟩, _⟩ | ⟨⟨⟩, _⟩) | ⟨r, p, found, shape, hpath, ⟨⟩⟩)
    have compiled := wf.compiled r (of_concrete found).1
    refine ⟨rfl, r.definition, p, wf.isPage_iff.mpr ⟨r, found, shape, rfl⟩, ?_⟩
    rw [← compiled.isFirstMissing_iff shape, ← find?_eq_some_iff_isFirstMissing]
    -- The path could not be written, so the search for what is missing finds something.
    obtain ⟨first, missing⟩ := Pattern.reverse_eq_none_iff.mp hpath
    rw [find?_eq_some_iff_isFirstMissing.mpr missing, Option.getD_some]
  · rintro ⟨rfl, d, p, hpage, missing⟩
    obtain ⟨r, found, shape, rfl⟩ := wf.isPage_iff.mp hpage
    have compiled := wf.compiled r (of_concrete found).1
    rw [← compiled.isFirstMissing_iff shape] at missing
    refine .inr ⟨r, p, found, shape, Pattern.reverse_eq_none_iff.mpr ⟨param, missing⟩, ?_⟩
    rw [find?_eq_some_iff_isFirstMissing.mpr missing, Option.getD_some]

/-- A link is written from its parts if it is one to a page and all its parts can be written. -/
theorem Built.href_eq_ok_iff (wf : t.Built definitions) {url : String} :
    t.href name params = .ok url ↔
      ∃ d p path pairs, RouteDefinition.IsPage definitions name d p ∧
        d.LinkParts definitions p params path pairs ∧ url = RouteUrl.assemble path pairs := by
  constructor
  · intro link
    obtain ⟨r, p, _, found, shape, _⟩ := exists_href_iff.mp ⟨url, link⟩
    obtain ⟨path, hpath, rfl⟩ := of_href found shape link
    have compiled := wf.compiled r (of_concrete found).1
    exact ⟨r.definition, p, path, _, wf.isPage_iff.mpr ⟨r, found, shape, rfl⟩,
      (compiled.linkParts_iff shape).mpr ⟨hpath, rfl⟩, rfl⟩
  · rintro ⟨d, p, path, pairs, hpage, parts, rfl⟩
    obtain ⟨r, found, shape, rfl⟩ := wf.isPage_iff.mp hpage
    have compiled := wf.compiled r (of_concrete found).1
    obtain ⟨hpath, rfl⟩ := (compiled.linkParts_iff shape).mp parts
    rw [href_of_concrete found shape, hpath]

/-- A link depends on what the URL of its page declares, and on no other values. -/
theorem Built.href_congr (wf : t.Built definitions) {others : RouteParams}
    (same : ∀ d p, RouteDefinition.IsPage definitions name d p →
      ∀ param, p.declares param = true → params.get? param = others.get? param) :
    t.href name params = t.href name others := by
  cases found : t.concrete name with
  | error e => rw [href_of_not_concrete found, href_of_not_concrete found]
  | ok r =>
    obtain ⟨hr, _, page⟩ := of_concrete found
    obtain ⟨p, shape⟩ := wf.exists_pattern hr page
    have compiled := wf.compiled r hr
    have hvalues : ∀ param, param ∈ p.paramNames ∨ param ∈ p.queryNames →
        (r.schema.materialize Dictionary.empty params).get? param =
          (r.schema.materialize Dictionary.empty others).get? param := by
      intro param declared
      have hparam : p.declares param = true := by simpa [Pattern.declares] using declared
      rw [compiled.get?_linked shape declared, compiled.get?_linked shape declared, RouteDefinition.linked?,
        RouteDefinition.linked?, same _ p (wf.isPage_iff.mpr ⟨r, found, shape, rfl⟩) param hparam]
    -- The path, the query and the search for a missing parameter look at these names alone.
    rw [href_of_concrete found shape, href_of_concrete found shape]
    generalize r.schema.materialize Dictionary.empty params = values at hvalues ⊢
    generalize r.schema.materialize Dictionary.empty others = values' at hvalues ⊢
    have hpath : p.reverse values = p.reverse values' := Pattern.reverse_congr fun n hn => hvalues n (.inl hn)
    have hpairs : linkPairs r.schema values p.queryNames = linkPairs r.schema values' p.queryNames :=
      linkPairs_congr fun n hn => hvalues n (.inr hn)
    have hmissing : (p.paramNames.find? fun n => !values.contains n) =
        p.paramNames.find? fun n => !values'.contains n := by
      refine List.find?_congr fun n hn => ?_
      rw [Dictionary.contains, Dictionary.contains, hvalues n (.inl hn)]
    rw [hpath, hpairs, hmissing]

/-! ## The outcomes -/

/-- What becomes of a link to a name with these values. -/
structure LinkOutcomes (definitions : List RouteDefinition) (t : RouteTable) (name : String) (params : RouteParams) :
    Prop where
  unknown : ∀ other, t.href name params = .error (.invalidRouteName other) ↔
    other = name ∧ RouteDefinition.find? definitions name = none
  layout : ∀ other, t.href name params = .error (.abstractRoute other) ↔
    other = name ∧ ∃ d, RouteDefinition.find? definitions name = some d ∧ d.isLayout = true
  /-- Whatever is neither unknown nor a layout has a pattern. -/
  page : ∀ d, RouteDefinition.find? definitions name = some d → d.isLayout = false →
    ∃ p, RouteDefinition.IsPage definitions name d p ∧ t.patternOf? name = some p
  lacking : (∃ param, t.href name params = .error (.missingParameter param name)) ↔
    ∃ d p, RouteDefinition.IsPage definitions name d p ∧
      ∃ param ∈ p.paramNames, d.linked? definitions params param = none
  /-- It is the first missing parameter in the order of the path that is reported. -/
  missing : ∀ param route, t.href name params = .error (.missingParameter param route) ↔
    route = name ∧ ∃ d p, RouteDefinition.IsPage definitions name d p ∧
      IsFirstMissing (d.linked? definitions params) p.paramNames param
  named : ∀ param route, t.href name params = .error (.missingParameter param route) → param ≠ ""
  written : ∀ url, t.href name params = .ok url ↔
    ∃ d p path pairs, RouteDefinition.IsPage definitions name d p ∧
      d.LinkParts definitions p params path pairs ∧ url = RouteUrl.assemble path pairs
  /-- What is in the query is found there. -/
  read : ∀ d p path pairs, RouteDefinition.IsPage definitions name d p →
    d.LinkParts definitions p params path pairs →
      RouteUrl.split (RouteUrl.assemble path pairs) = (path, Dictionary.ofList pairs)
  /-- There are no other errors. -/
  only : ∀ e, t.href name params = .error e →
    e = .invalidRouteName name ∨ e = .abstractRoute name ∨ ∃ param, e = .missingParameter param name
  /-- Values that the URL of the page does not declare change nothing. -/
  undeclared : ∀ others : RouteParams,
    (∀ d p, RouteDefinition.IsPage definitions name d p →
      ∀ param, p.declares param = true → params.get? param = others.get? param) →
    t.href name params = t.href name others

/-- **A link fails for one of three reasons**, and otherwise lists in its query what has a value that is not left out. -/
theorem href_outcomes {defaultPath : String} (built : build definitions defaultPath = .ok t) (name : String)
    (params : RouteParams) : t.LinkOutcomes definitions name params := by
  obtain ⟨wf, _⟩ := of_build built
  refine ⟨fun other => wf.href_eq_invalidRouteName_iff, ?_, ?_, ?_, fun param route => wf.href_eq_missingParameter_iff, ?_,
    fun url => wf.href_eq_ok_iff, ?_, ?_, fun others => wf.href_congr⟩
  · intro other
    rw [wf.href_eq_error_iff, wf.concrete_eq_error_iff]
    simp
  · intro d known page
    obtain ⟨r, hr, found, rfl⟩ := wf.concrete_of_known known page
    obtain ⟨p, shape⟩ := wf.exists_pattern hr page
    refine ⟨p, wf.isPage_iff.mpr ⟨r, found, shape, rfl⟩, ?_⟩
    obtain ⟨_, rfl, _⟩ := of_concrete found
    rw [patternOf?, wf.find?_eq_some hr, Option.bind_some, shape]
  · simp only [wf.href_eq_missingParameter_iff, true_and]
    constructor
    · rintro ⟨param, d, p, hpage, missing⟩
      exact ⟨d, p, hpage, param, missing.mem⟩
    · rintro ⟨d, p, hpage, hlacking⟩
      obtain ⟨param, missing⟩ := exists_isFirstMissing_iff.mpr hlacking
      exact ⟨param, d, p, hpage, missing⟩
  · intro param route h
    obtain ⟨_, d, p, hpage, missing⟩ := wf.href_eq_missingParameter_iff.mp h
    exact Pattern.name_ne_empty_of_compile hpage.shape missing.mem.1
  · intro d p path pairs hpage parts
    obtain ⟨⟨values, _, hpath⟩, _, _⟩ := parts
    exact RouteUrl.split_assemble (Pattern.question_not_mem_of_reverse hpage.shape hpath) pairs
  · intro e h
    rw [wf.href_eq_error_iff, wf.concrete_eq_error_iff] at h
    rcases h with (⟨rfl, _⟩ | ⟨rfl, _⟩) | ⟨_, _, _, _, _, rfl⟩
    · exact .inl rfl
    · exact .inr (.inl rfl)
    · exact .inr (.inr ⟨_, rfl⟩)

/-- A page of books on a shelf that is a layout. The shelf and the page both have a tab in their query list, and the
group stands in the path and in a query list. -/
def shelfRoutes : List RouteDefinition :=
  [((RouteDefinition.named "shelf.book").withUrl "/:id?tab&log&group").withParam "id" ParamDescriptor.absent,
    ((((RouteDefinition.named "shelf").asLayout).withUrl "/shelf/:group?tab").withParam "group"
      (ParamDescriptor.value "all")).withParam "tab" (ParamDescriptor.value "old").squashed]

/-- Links to the shelf, to a page that is not there, and to a book: without an identifier, with the tab that is left
out, and with another tab and a value that nobody declares. -/
theorem href_outcomes_shelf :
    ∃ t, build shelfRoutes "/shelf/all/7" = .ok t ∧ (∀ name params, t.LinkOutcomes shelfRoutes name params) ∧
      t.href "shelf" Dictionary.empty = .error (.abstractRoute "shelf") ∧
      t.href "shelf.text" Dictionary.empty = .error (.invalidRouteName "shelf.text") ∧
      t.href "shelf.book" (Dictionary.ofList [("log", "a")]) = .error (.missingParameter "id" "shelf.book") ∧
      t.href "shelf.book" (Dictionary.ofList [("id", "7")]) = .ok "/shelf/all/7?group=all" ∧
      t.href "shelf.book" (Dictionary.ofList [("id", "7"), ("tab", "new"), ("page", "2")]) =
        .ok "/shelf/all/7?tab=new&tab=new&group=all" := by
  have hcheck : (build shelfRoutes "/shelf/all/7").toOption.map (fun t =>
      (t.href "shelf.book" (Dictionary.ofList [("log", "a")]),
        t.href "shelf.book" (Dictionary.ofList [("id", "7")]),
        t.href "shelf.book" (Dictionary.ofList [("id", "7"), ("tab", "new"), ("page", "2")]))) =
      some (.error (.missingParameter "id" "shelf.book"), .ok "/shelf/all/7?group=all",
        .ok "/shelf/all/7?tab=new&tab=new&group=all") := by
    decide +kernel
  obtain ⟨t, htable, hlinks⟩ := Option.map_eq_some_iff.mp hcheck
  obtain ⟨hmissing, hwritten⟩ := Prod.mk.inj hlinks
  obtain ⟨hdefault, hother⟩ := Prod.mk.inj hwritten
  have built := Result.ok_of_toOption htable
  refine ⟨t, built, href_outcomes built, ?_, ?_, hmissing, hdefault, hother⟩
  · exact ((href_outcomes built "shelf" Dictionary.empty).layout "shelf").mpr ⟨rfl, _, rfl, rfl⟩
  · exact ((href_outcomes built "shelf.text" Dictionary.empty).unknown "shelf.text").mpr ⟨rfl, rfl⟩

end RouteTable

end AdminConsole
