import AdminConsole.Proofs.Pattern.Reading
import AdminConsole.Proofs.Route.Built
import AdminConsole.Proofs.Route.QueryRoundTrip
import AdminConsole.Proofs.Route.Schema
import AdminConsole.Route.Resolution

/-!
# Links lead back

A link that a table made for a named route is resolved to that route again, if no other route is preferred
for its path, and with the parameters that the link was made from. Two things get lost on the way: what is
neither in the path nor in the query list is not written at all, and an empty segment cannot be told from a
default that was left out. The first part says which parameters stand in a link, the second what the schema
makes of them.
-/

set_option autoImplicit false

namespace AdminConsole

namespace RouteTable

/-! ## What a link carries -/

/-- The value that a link carries for a name of the query list. -/
def linkValue? (schema : ParamSchema) (values : RouteParams) (name : String) : Option String :=
  (values.get? name).filter fun value =>
    !(schema.descriptor? name).any fun d => d.isSquashed (some value)

/-- The query parameters of a link, as pairs. -/
def linkPairs (schema : ParamSchema) (values : RouteParams) (names : List String) :
    List (String × String) :=
  names.filterMap fun name => (linkValue? schema values name).map fun value => (name, value)

/-- The query of a link is written from its pairs. -/
theorem linkQuery_eq_written (schema : ParamSchema) (values : RouteParams) (names : List String) :
    linkQuery schema values names = RouteUrl.written (linkPairs schema values names) := by
  rw [linkQuery, RouteUrl.written, linkPairs, List.map_filterMap]
  congr 1
  funext name
  unfold linkValue?
  cases values.get? name with
  | none => rfl
  | some value =>
    cases hsquash : (schema.descriptor? name).any fun d => d.isSquashed (some value) <;>
      simp [Option.filter_some, hsquash]

/-- Pairs made from a list of names answer for the names of the list, however often one stands there. -/
theorem lookup_filterMap_names {α : Type} (value? : String → Option α) (names : List String)
    (name : String) :
    (names.filterMap fun n => (value? n).map fun value => (n, value)).lookup name =
      if name ∈ names then value? name else none := by
  induction names with
  | nil => rfl
  | cons first names ih =>
    rw [List.filterMap_cons]
    by_cases h : name = first
    · subst h
      rw [if_pos List.mem_cons_self]
      cases hvalue : value? name with
      | none =>
        simp only [Option.map_none, ih, hvalue]
        split <;> rfl
      | some value => simp
    · have hmem : name ∈ first :: names ↔ name ∈ names := by simp [h]
      simp only [hmem, ← ih]
      cases value? first with
      | none => rfl
      | some value => simp [Dictionary.lookup_cons_eq, h]

/-- What is found in the query of a link. -/
theorem get?_linkPairs (schema : ParamSchema) (values : RouteParams) (names : List String)
    (name : String) :
    (Dictionary.ofList (linkPairs schema values names)).get? name =
      if name ∈ names then linkValue? schema values name else none := by
  rw [Dictionary.get?_ofList, linkPairs, ← List.filterMap_reverse,
    lookup_filterMap_names (linkValue? schema values)]
  simp only [List.mem_reverse]

/-- There is no link to what is no page. -/
theorem href_of_not_concrete {t : RouteTable} {name : String} {e : RouterError} (h : t.concrete name = .error e)
    (params : RouteParams) : t.href name params = .error e := by
  rw [href, h]
  rfl

/-- A link carries of its values those of the query list alone. -/
theorem linkPairs_congr {schema : ParamSchema} {values others : RouteParams} {names : List String}
    (same : ∀ name ∈ names, values.get? name = others.get? name) :
    linkPairs schema values names = linkPairs schema others names := by
  refine List.filterMap_congr fun name hname => ?_
  rw [linkValue?, linkValue?, same name hname]

/-- The link to a route that can be activated: the path of its pattern and what the link carries, or the first
parameter of the path without a value. -/
theorem href_of_concrete {t : RouteTable} {name : String} {r : CompiledRoute} {pattern : Pattern}
    (found : t.concrete name = .ok r) (shape : r.pattern = some pattern) (params : RouteParams) :
    t.href name params =
      match pattern.reverse (r.schema.materialize Dictionary.empty params) with
      | some path => .ok (RouteUrl.assemble path
          (linkPairs r.schema (r.schema.materialize Dictionary.empty params) pattern.queryNames))
      | none => .error (.missingParameter ((pattern.paramNames.find? fun param =>
          !(r.schema.materialize Dictionary.empty params).contains param).getD "") name) := by
  unfold href
  rw [found]
  simp only [shape, bind, Except.bind]
  generalize r.schema.materialize Dictionary.empty params = values
  cases pattern.reverse values with
  | none => rfl
  | some path =>
    simp only [linkQuery_eq_written]
    cases linkPairs r.schema values pattern.queryNames <;> rfl

/-- A link is the path of the route's pattern, followed by the query if it carries any parameter. -/
theorem of_href {t : RouteTable} {name url : String} {params : RouteParams} {r : CompiledRoute}
    {pattern : Pattern} (found : t.concrete name = .ok r) (shape : r.pattern = some pattern)
    (link : t.href name params = .ok url) :
    ∃ path, pattern.reverse (r.schema.materialize Dictionary.empty params) = some path ∧
      url = RouteUrl.assemble path (linkPairs r.schema
        (r.schema.materialize Dictionary.empty params) pattern.queryNames) := by
  rw [href_of_concrete found shape] at link
  split at link
  · rename_i path hpath
    exact ⟨path, hpath, (Except.ok.inj link).symm⟩
  · cases link

/-- A link can be made exactly to the concrete routes with a URL for whose path all values are there. -/
theorem exists_href_iff {t : RouteTable} {name : String} {params : RouteParams} :
    (∃ url, t.href name params = .ok url) ↔
      ∃ r pattern path, t.concrete name = .ok r ∧ r.pattern = some pattern ∧
        pattern.reverse (r.schema.materialize Dictionary.empty params) = some path := by
  constructor
  · rintro ⟨url, link⟩
    obtain ⟨r, found, hrest⟩ := Result.ok_of_bind link
    cases shape : r.pattern with
    | none =>
      simp only [shape] at hrest
      cases hrest
    | some pattern =>
      obtain ⟨path, hpath, _⟩ := of_href found shape link
      exact ⟨r, pattern, path, found, shape, hpath⟩
  · rintro ⟨r, pattern, path, found, shape, hpath⟩
    rw [href_of_concrete found shape, hpath]
    exact ⟨_, rfl⟩

/-- Splitting a link gives the path and a query with what the link carries. -/
theorem split_of_href {t : RouteTable} {name url : String} {params : RouteParams}
    {r : CompiledRoute} {pattern : Pattern} {source : String}
    (found : t.concrete name = .ok r) (shape : r.pattern = some pattern)
    (accepted : Pattern.compile source = .ok pattern) (link : t.href name params = .ok url) :
    ∃ path, pattern.reverse (r.schema.materialize Dictionary.empty params) = some path ∧
      RouteUrl.split url = (path, Dictionary.ofList (linkPairs r.schema
        (r.schema.materialize Dictionary.empty params) pattern.queryNames)) := by
  obtain ⟨path, hpath, rfl⟩ := of_href found shape link
  exact ⟨path, hpath, RouteUrl.split_assemble (Pattern.question_not_mem_of_reverse accepted hpath) _⟩

/-! ## Which route is preferred -/

/-- Whether another route is preferred to `r` for a path that both match: one with more literal segments,
or one with as many that was registered before `r`. -/
def Outranked (t : RouteTable) (r : CompiledRoute) (path : String) : Prop :=
  ∃ before after rival own theirs, t.routes = before ++ r :: after ∧
    r.match? path = some own ∧ rival.match? path = some theirs ∧
    (rival ∈ t.routes ∧ own.specificity < theirs.specificity ∨
      rival ∈ before ∧ own.specificity = theirs.specificity)

namespace Built

variable {definitions : List RouteDefinition} {t : RouteTable}

/-- A route stands at one place of the table. -/
theorem before_eq (h : t.Built definitions) {r : CompiledRoute}
    {before after before' after' : List CompiledRoute}
    (hsplit : t.routes = before ++ r :: after) (hsplit' : t.routes = before' ++ r :: after') :
    before = before' ∧ after = after' := by
  have hnodup : (before ++ r :: after).Nodup := hsplit ▸ List.Nodup.of_map _ h.nodup_names
  obtain ⟨_, hrest, hapart⟩ := List.nodup_append.mp hnodup
  have hbefore : r ∉ before := fun hmem => hapart r hmem r List.mem_cons_self rfl
  have hafter : r ∉ after := (List.nodup_cons.mp hrest).1
  have heq : before ++ r :: after = before' ++ r :: after' := by rw [← hsplit, hsplit']
  obtain ⟨rfl, _, rfl⟩ := (List.append_cons_inj_of_notMem hbefore hafter).mp heq
  exact ⟨rfl, rfl⟩

/-- **A route that matches a path is chosen unless it is outranked.** -/
theorem match?_name_iff (h : t.Built definitions) {r : CompiledRoute} (hr : r ∈ t.routes)
    {path : String} {own : RouteMatch} (hown : r.match? path = some own) :
    (t.match? path).map RouteMatch.name = some r.name ↔ ¬ t.Outranked r path := by
  obtain ⟨chosen, hchosen⟩ : ∃ chosen, t.match? path = some chosen := exists_choose hr hown
  obtain ⟨before, after, hsplit, hmatch, hbefore, hafter⟩ := choose_spec hchosen
  rw [hchosen, Option.map_some, Option.some.injEq]
  constructor
  · intro hname
    have hmem : chosen.route ∈ t.routes := by simp [hsplit]
    obtain rfl : chosen.route = r := h.eq_of_name_eq hmem hr hname
    obtain rfl : chosen = own := Option.some.inj (hmatch.symm.trans hown)
    rintro ⟨before', after', rival, own', theirs, hsplit', hown', htheirs, hmore | hearlier⟩
    · obtain rfl : chosen = own' := Option.some.inj (hmatch.symm.trans hown')
      obtain ⟨hrival, hmore⟩ := hmore
      rw [hsplit, List.mem_append, List.mem_cons] at hrival
      -- Wherever a more specific rival stands, it would have been chosen.
      rcases hrival with hrival | rfl | hrival
      · have hlt := hbefore rival hrival theirs htheirs
        omega
      · obtain rfl : chosen = theirs := Option.some.inj (hmatch.symm.trans htheirs)
        omega
      · have hle := hafter rival hrival theirs htheirs
        omega
    · obtain rfl : chosen = own' := Option.some.inj (hmatch.symm.trans hown')
      obtain ⟨hrival, hsame⟩ := hearlier
      obtain ⟨rfl, _⟩ := h.before_eq hsplit hsplit'
      have hlt := hbefore rival hrival theirs htheirs
      omega
  · intro hbest
    refine Decidable.byContradiction fun hname => hbest ?_
    obtain ⟨before', after', hsplit'⟩ := List.append_of_mem hr
    refine ⟨before', after', chosen.route, own, chosen, hsplit', hown, hmatch, ?_⟩
    have hwhere : r ∈ before ∨ r ∈ after := by
      rw [hsplit, List.mem_append, List.mem_cons] at hr
      rcases hr with hr | rfl | hr
      · exact .inl hr
      · exact absurd rfl hname
      · exact .inr hr
    -- What was chosen is more specific, or just as specific and registered before.
    rcases hwhere with hearly | hlate
    · left
      exact ⟨by simp [hsplit], hbefore r hearly own hown⟩
    · have hle := hafter r hlate own hown
      rcases Nat.lt_or_eq_of_le hle with hlt | hsame
      · exact .inl ⟨by simp [hsplit], hlt⟩
      · right
        obtain ⟨between, later, rfl⟩ := List.append_of_mem hlate
        have hthere : t.routes = (before ++ chosen.route :: between) ++ r :: later := by
          rw [hsplit, List.append_assoc, List.cons_append]
        obtain ⟨rfl, _⟩ := h.before_eq hsplit' hthere
        exact ⟨by simp, hsame⟩

end Built

end RouteTable

/-! ## What the parameters come back as -/

namespace ParamSchema

/-- What a parameter comes back as from a link that was made with these values. -/
def readBack? (s : ParamSchema) (pattern : Pattern) (values : RouteParams) (name : String) :
    Option String :=
  if name ∈ pattern.queryNames then values.get? name
  else if name ∈ pattern.paramNames then
    if values.get? name = some "" ∧ s.squashes name = true then s.default? name
    else values.get? name
  else s.default? name

variable {s : ParamSchema} {name : String}

/-- What a link leaves out of its query is the default. -/
theorem linkValue?_or_default {values : RouteParams}
    (hdefault : values.get? name = none → s.default? name = none) :
    (RouteTable.linkValue? s values name).or (s.default? name) = values.get? name := by
  unfold RouteTable.linkValue?
  cases hvalue : values.get? name with
  | none => rw [Option.filter_none, Option.none_or, hdefault hvalue]
  | some value =>
    rw [Option.filter_some]
    split
    · rfl
    · rename_i hsquash
      have hany : (s.descriptor? name).any (fun d => d.isSquashed (some value)) = true := by
        simpa using hsquash
      obtain ⟨d, hdescriptor, hsquashed⟩ := (Option.any_eq_true _ _).mp hany
      simp only [ParamDescriptor.isSquashed, Bool.and_eq_true, beq_iff_eq] at hsquashed
      rw [Option.none_or, ParamSchema.default?, hdescriptor, Option.bind_some, ← hsquashed.2]

/-- **The parameters of a link come back**, given what was captured from its path and that its query holds
what the link carries. -/
theorem get?_materialize_link {definitions : List RouteDefinition} {r : CompiledRoute}
    {pattern : Pattern} {captured : Dictionary String} (compiled : r.Compiled definitions)
    (shape : r.pattern = some pattern) (params : RouteParams)
    (hcaptured : ∀ param, captured.get? param =
      if param ∈ pattern.paramNames then
        (r.schema.materialize Dictionary.empty params).get? param
      else none) :
    (r.schema.materialize captured (RouteTable.declaredQuery r.pattern
      (Dictionary.ofList (RouteTable.linkPairs r.schema
        (r.schema.materialize Dictionary.empty params) pattern.queryNames)))).get? name =
      r.schema.readBack? pattern (r.schema.materialize Dictionary.empty params) name := by
  have nodup := compiled.nodup_names
  by_cases known : name ∈ r.schema.names
  · have hdefault : (r.schema.materialize Dictionary.empty params).get? name = none →
        r.schema.default? name = none := default?_eq_none nodup
    rw [get?_materialize_of_mem nodup known, hcaptured]
    generalize r.schema.materialize Dictionary.empty params = values at hdefault ⊢
    have hread := linkValue?_or_default hdefault
    have hquery : (RouteTable.declaredQuery r.pattern (Dictionary.ofList
        (RouteTable.linkPairs r.schema values pattern.queryNames))).get? name =
          if name ∈ pattern.queryNames then RouteTable.linkValue? r.schema values name
          else none := by
      rw [shape, RouteTable.declaredQuery, Dictionary.get?_filterKeys, RouteTable.get?_linkPairs]
      by_cases hmem : name ∈ pattern.queryNames <;> simp [hmem]
    rw [hquery, readBack?]
    by_cases inQuery : name ∈ pattern.queryNames
    · -- What the query leaves out is the default that the schema fills in again.
      rw [if_pos inQuery, if_pos inQuery, Option.or_assoc, hread]
      split
      · cases values.get? name with
        | none => rfl
        | some value => rw [Option.filter_some]; split <;> rfl
      · rfl
    · rw [if_neg inQuery, if_neg inQuery, Option.or_none]
      by_cases inPath : name ∈ pattern.paramNames
      · rw [if_pos inPath, if_pos inPath]
        cases hvalue : values.get? name with
        | none => simp [hdefault hvalue]
        | some value =>
          rw [Option.filter_some]
          -- An empty value that was captured is taken for the default if the parameter asks for this.
          by_cases hlost : value = "" ∧ r.schema.squashes name = true
          · obtain ⟨rfl, hsquash⟩ := hlost
            simp [hsquash]
          · have hkept : (!(value.isEmpty && r.schema.squashes name)) = true := by
              simpa [imp_iff_not_or] using hlost
            rw [if_pos hkept, if_neg (by simpa using hlost), Option.some_or]
      · rw [if_neg inPath, if_neg inPath, Option.filter_none, Option.none_or]
  · have inQuery : name ∉ pattern.queryNames := fun h =>
      known (compiled.mem_names shape (.inr h))
    have inPath : name ∉ pattern.paramNames := fun h =>
      known (compiled.mem_names shape (.inl h))
    obtain ⟨hnone, hdefault⟩ := get?_materialize_of_not_mem nodup known captured
      (RouteTable.declaredQuery r.pattern (Dictionary.ofList (RouteTable.linkPairs r.schema
        (r.schema.materialize Dictionary.empty params) pattern.queryNames)))
    rw [hnone, readBack?, if_neg inQuery, if_neg inPath, hdefault]

end ParamSchema

namespace RouteTable

/-- A link to a concrete route can be made with a value for each parameter of its path. -/
theorem Built.exists_href {definitions : List RouteDefinition} {t : RouteTable} (wf : t.Built definitions)
    {name : String} {r : CompiledRoute} {pattern : Pattern} (found : t.concrete name = .ok r)
    (shape : r.pattern = some pattern) {params : RouteParams}
    (given : ∀ param ∈ pattern.paramNames, ∃ value, params.get? param = some value) :
    ∃ url, t.href name params = .ok url := by
  have compiled := wf.compiled r (of_concrete found).1
  have hvalues : ∀ param ∈ pattern.paramNames, ∃ value,
      (r.schema.materialize Dictionary.empty params).get? param = some value := by
    intro param hparam
    obtain ⟨value, hvalue⟩ := given param hparam
    refine ⟨value, ?_⟩
    rw [ParamSchema.get?_materialize_of_mem compiled.nodup_names (compiled.mem_names shape (.inl hparam)),
      hvalue]
    rfl
  obtain ⟨path, hpath⟩ := Pattern.exists_fill hvalues
  exact exists_href_iff.mpr ⟨r, pattern, String.ofList path, found, shape, by
    rw [Pattern.reverse, hpath]; rfl⟩

section

variable {definitions : List RouteDefinition} {t : RouteTable} {name url : String} {params : RouteParams}
  {r : CompiledRoute} {pattern : Pattern} (wf : t.Built definitions) (found : t.concrete name = .ok r)
  (shape : r.pattern = some pattern) (link : t.href name params = .ok url)
include wf found shape link

/-- The parts of a link: its path, and a query with what it carries. -/
theorem Built.split_href :
    pattern.reverse (r.schema.materialize Dictionary.empty params) = some (RouteUrl.split url).1 ∧
      (RouteUrl.split url).2 = Dictionary.ofList (linkPairs r.schema
        (r.schema.materialize Dictionary.empty params) pattern.queryNames) := by
  obtain ⟨source, accepted⟩ := (wf.compiled r (of_concrete found).1).accepted shape
  obtain ⟨path, hpath, hsplit⟩ := split_of_href found shape accepted link
  rw [hsplit]
  exact ⟨hpath, rfl⟩

variable (sep : Pattern.isSeparated pattern.pieces = true)
include sep

/-- The route of a link matches its path, and captures the parameters of the path as they were written. -/
theorem Built.match?_href :
    ∃ captured, r.match? (RouteUrl.split url).1 = some ⟨r, captured, pattern.literalSegments⟩ ∧
      ∀ param, captured.get? param =
        if param ∈ pattern.paramNames then
          (r.schema.materialize Dictionary.empty params).get? param
        else none := by
  obtain ⟨hr, _, hlayout⟩ := of_concrete found
  obtain ⟨source, accepted⟩ := (wf.compiled r hr).accepted shape
  obtain ⟨hpath, _⟩ := wf.split_href found shape link
  obtain ⟨captured, hmatch, hcaptured⟩ :=
    Pattern.match?_of_reverse sep (Pattern.nodup_paramNames accepted) hpath
  exact ⟨captured, CompiledRoute.match?_eq_some hlayout shape hmatch, hcaptured⟩

/-- Where the route of a link is chosen for its path it is activated with what is read back. -/
theorem Built.stepPath_href
    (chosen : (t.match? (RouteUrl.split url).1).map RouteMatch.name = some name)
    (services : GuardServices) :
    ∃ values, t.stepPath (RouteUrl.split url).1 (RouteUrl.split url).2 services =
        r.activateWith values services ∧
      ∀ param, values.get? param = r.schema.readBack? pattern
        (r.schema.materialize Dictionary.empty params) param := by
  obtain ⟨hr, rfl, _⟩ := of_concrete found
  obtain ⟨captured, hown, hcaptured⟩ := wf.match?_href found shape link sep
  obtain ⟨m, hm, hsame⟩ := Option.map_eq_some_iff.mp chosen
  obtain ⟨hmem, htheirs⟩ := mem_of_choose hm
  rw [wf.eq_of_name_eq hmem hr hsame, hown] at htheirs
  obtain rfl := Option.some.inj htheirs
  refine ⟨_, ?_, fun param =>
    ParamSchema.get?_materialize_link (wf.compiled r hr) shape params hcaptured⟩
  rw [(wf.split_href found shape link).2]
  simp only [stepPath, wf.lead_eq (.inl hm), CompiledRoute.activate]

end

/-- **A link leads back.** Take a concrete route between whose path parameters a landmark stands each
time, and a link to it. The route's pattern matches the path of the link, and the path is resolved to the
route exactly if it is not outranked there. In that case the route is activated with the parameters of the
link: those that stand in it as they were, apart from empty segments of squashed parameters, and all others
with their defaults. -/
theorem resolve_href {definitions : List RouteDefinition} {defaultPath : String} {t : RouteTable}
    {name url : String} {params : RouteParams} {r : CompiledRoute} {pattern : Pattern}
    (built : build definitions defaultPath = .ok t) (found : t.concrete name = .ok r)
    (shape : r.pattern = some pattern) (sep : Pattern.isSeparated pattern.pieces = true)
    (link : t.href name params = .ok url) :
    pattern.isMatch (RouteUrl.split url).1 = true ∧
    ((t.match? (RouteUrl.split url).1).map RouteMatch.name = some name ↔
      ¬ t.Outranked r (RouteUrl.split url).1) ∧
    ((t.match? (RouteUrl.split url).1).map RouteMatch.name = some name →
      ∀ services, ∃ values,
        t.stepPath (RouteUrl.split url).1 (RouteUrl.split url).2 services =
          r.activateWith values services ∧
        ∀ param, values.get? param = r.schema.readBack? pattern
          (r.schema.materialize Dictionary.empty params) param) := by
  obtain ⟨wf, _⟩ := of_build built
  obtain ⟨captured, hown, _⟩ := wf.match?_href found shape link sep
  obtain ⟨_, _, q, hq, hmatch, _⟩ := CompiledRoute.of_match? hown
  obtain rfl := Option.some.inj (shape.symm.trans hq)
  obtain ⟨hr, rfl, _⟩ := of_concrete found
  exact ⟨by simp [Pattern.isMatch, hmatch], wf.match?_name_iff hr hown,
    wf.stepPath_href found shape link sep⟩

/-- A start page, and a page of jobs in groups where the group of all jobs is an empty segment. -/
def jobRoutes : List RouteDefinition :=
  [(RouteDefinition.named "home").withUrl "/",
    ((RouteDefinition.named "job").withUrl "/:group/:name?log").withParam "group"
      (ParamDescriptor.value "all").squashed]

/-- A link with an empty group, and with a slash and a letter beyond ASCII in the values. -/
theorem resolve_href_job :
    ∃ t r pattern, build jobRoutes "/" = .ok t ∧ t.concrete "job" = .ok r ∧
      r.pattern = some pattern ∧ Pattern.isSeparated pattern.pieces = true ∧
      t.href "job" (Dictionary.ofList [("group", ""), ("name", "a/b"), ("log", "ü")]) =
        .ok "//a%2Fb?log=%C3%BC" ∧
      ∀ services, ∃ values,
        t.stepPath "//a%2Fb" (Dictionary.ofList [("log", "ü")]) services =
          r.activateWith values services ∧
        values.get? "group" = some "all" ∧ values.get? "name" = some "a/b" ∧
        values.get? "log" = some "ü" := by
  have hcheck : (build jobRoutes "/").toOption.map (fun t =>
      (t.href "job" (Dictionary.ofList [("group", ""), ("name", "a/b"), ("log", "ü")])).toOption) =
        some (some "//a%2Fb?log=%C3%BC") := by
    decide +kernel
  have hroute : (build jobRoutes "/").toOption.map (fun t =>
      (t.concrete "job").toOption.map fun r => (r.schema, r.pattern)) =
        some (some (⟨[("group", some ⟨some "all", true⟩), ("name", none), ("log", none)]⟩,
          some ⟨"/:group/:name?log", [.literal ['/'], .param .colon "group", .literal ['/'],
            .param .colon "name"], ["log"]⟩)) := by
    decide +kernel
  have hname : (build jobRoutes "/").toOption.map (fun t =>
      (t.match? "//a%2Fb").map RouteMatch.name) = some (some "job") := by
    decide +kernel
  obtain ⟨t, htable, hlink⟩ := Option.map_eq_some_iff.mp hcheck
  rw [htable] at hroute hname
  obtain ⟨r, hr, hparts⟩ := Option.map_eq_some_iff.mp (Option.some.inj hroute)
  obtain ⟨hschema, hpattern⟩ := Prod.mk.inj hparts
  have hbuild := Result.ok_of_toOption htable
  have hconcrete := Result.ok_of_toOption hr
  have hhref := Result.ok_of_toOption hlink
  have hsplit : RouteUrl.split "//a%2Fb?log=%C3%BC" =
      ("//a%2Fb", Dictionary.ofList [("log", "ü")]) := by
    decide +kernel
  have hresolve := resolve_href hbuild hconcrete hpattern (by decide) hhref
  rw [hsplit, hschema] at hresolve
  refine ⟨t, r, _, hbuild, hconcrete, hpattern, by decide, hhref, fun services => ?_⟩
  obtain ⟨values, hstep, hread⟩ := hresolve.2.2 (Option.some.inj hname) services
  refine ⟨values, hstep, ?_⟩
  rw [hread, hread, hread]
  decide +kernel

end RouteTable

end AdminConsole
