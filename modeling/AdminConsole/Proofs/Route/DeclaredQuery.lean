import AdminConsole.Proofs.Pattern.Reading
import AdminConsole.Proofs.Route.Built
import AdminConsole.Proofs.Route.Schema
import AdminConsole.Route.Resolution

/-!
# What a query can decide

Which route a path leads to does not depend on the query, and of the query only the names in the route's query list
are read. Main statement: two queries that agree on these names are resolved alike, whatever else stands in them,
and where a name is captured from the path too, the path decides, unless the captured value is empty and the
parameter is squashed.
-/

set_option autoImplicit false

namespace AdminConsole

namespace RouteTable

variable {definitions : List RouteDefinition} {t : RouteTable} {path : String} {m : RouteMatch} {p : Pattern}

/-- The route that a path leads to captures its values from the path or from the default path. -/
theorem LeadsTo.exists_read (h : t.LeadsTo path m) :
    m.route ∈ t.routes ∧ ∃ p, m.route.pattern = some p ∧
      (p.match? path = some m.captured ∨ t.match? path = none ∧ p.match? t.defaultPath = some m.captured) := by
  have hmatch : ∀ {other}, t.match? other = some m →
      m.route ∈ t.routes ∧ ∃ p, m.route.pattern = some p ∧ p.match? other = some m.captured := by
    intro other hother
    obtain ⟨hmem, hown⟩ := mem_of_choose hother
    obtain ⟨_, _, p, shape, read, _⟩ := CompiledRoute.of_match? hown
    exact ⟨hmem, p, shape, read⟩
  rcases h with h | ⟨hnone, h⟩
  · obtain ⟨hmem, p, shape, read⟩ := hmatch h
    exact ⟨hmem, p, shape, .inl read⟩
  · obtain ⟨hmem, p, shape, read⟩ := hmatch h
    exact ⟨hmem, p, shape, .inr ⟨hnone, read⟩⟩

/-- A resolution of a path activates the route that the path leads to, with what the pattern captures and what it
declares of the query. -/
theorem Built.stepPath_eq (wf : t.Built definitions) (h : t.LeadsTo path m) (query : Dictionary String)
    (services : GuardServices) :
    t.stepPath path query services =
      m.route.activate m.captured (declaredQuery m.route.pattern query) services := by
  simp only [stepPath, wf.lead_eq h]

/-- A resolution looks at a query in its first step only. -/
theorem resolvePath_congr {query other : Dictionary String} {services : GuardServices}
    (same : t.stepPath path query services = t.stepPath path other services) :
    t.resolvePath path query services = t.resolvePath path other services := by
  have hstep : t.step (.path path query) services = t.step (.path path other) services :=
    congrArg Except.ok same
  unfold resolvePath resolve follow
  rw [hstep]
  rfl

/-- Of a query the values remain whose names the pattern declares. -/
theorem get?_declaredQuery (p : Pattern) (query : Dictionary String) (name : String) :
    (declaredQuery (some p) query).get? name = if name ∈ p.queryNames then query.get? name else none := by
  simp [declaredQuery]

/-! ## Where the parameters of a step come from -/

/-- A value that the path gives stays, unless it is empty and the parameter is squashed. -/
theorem get?_materialize_captured {r : CompiledRoute} (compiled : r.Compiled definitions)
    (shape : r.pattern = some p) {captured : Dictionary String} (read : p.match? path = some captured)
    (supplied : Dictionary String) {name value : String} (given : captured.get? name = some value)
    (kept : ¬ (value = "" ∧ r.schema.squashes name = true)) :
    (r.schema.materialize captured supplied).get? name = some value := by
  have hparam : name ∈ p.paramNames := by
    by_contra hother
    rw [Pattern.get?_eq_none_of_match? read hother] at given
    cases given
  have hvalue : (!(value.isEmpty && r.schema.squashes name)) = true := by
    simpa [imp_iff_not_or] using kept
  rw [ParamSchema.get?_materialize_of_mem compiled.nodup_names (compiled.mem_names shape (.inl hparam)), given,
    Option.filter_some, if_pos hvalue]
  rfl

/-- A name of the query list has its value from the query where the path gives none, or one that does not stay. -/
theorem get?_materialize_query {r : CompiledRoute} (compiled : r.Compiled definitions)
    (shape : r.pattern = some p) {captured query : Dictionary String} {name value : String}
    (declared : name ∈ p.queryNames) (given : query.get? name = some value)
    (free : ∀ other, captured.get? name = some other → other = "" ∧ r.schema.squashes name = true) :
    (r.schema.materialize captured (declaredQuery r.pattern query)).get? name = some value := by
  have hnone : ((captured.get? name).filter fun other => !(other.isEmpty && r.schema.squashes name)) = none := by
    cases hcaptured : captured.get? name with
    | none => rfl
    | some other =>
      obtain ⟨rfl, hsquashes⟩ := free other hcaptured
      simp [hsquashes]
  rw [ParamSchema.get?_materialize_of_mem compiled.nodup_names (compiled.mem_names shape (.inr declared)), hnone,
    shape, get?_declaredQuery, if_pos declared, given]
  rfl

/-- What a query can decide where a path leads to this match, whose pattern is `p`. -/
structure QueryScope (t : RouteTable) (path : String) (m : RouteMatch) (p : Pattern) : Prop where
  leads : t.LeadsTo path m
  shape : m.route.pattern = some p
  /-- The captured values are those of the path, or of the default path where no route matches. -/
  read : p.match? path = some m.captured ∨ t.match? path = none ∧ p.match? t.defaultPath = some m.captured
  /-- What is not in the query list has no influence on any step or resolution. -/
  ignored : ∀ query other : Dictionary String, (∀ name ∈ p.queryNames, query.get? name = other.get? name) →
    ∀ services, t.stepPath path query services = t.stepPath path other services ∧
      t.resolvePath path query services = t.resolvePath path other services
  /-- The path goes before the query, and the query before the defaults. -/
  order : ∀ query services, ∃ params, t.stepPath path query services = m.route.activateWith params services ∧
    (∀ name value, m.captured.get? name = some value →
      ¬ (value = "" ∧ m.route.schema.squashes name = true) → params.get? name = some value) ∧
    ∀ name ∈ p.queryNames, ∀ value, query.get? name = some value →
      (∀ other, m.captured.get? name = some other → other = "" ∧ m.route.schema.squashes name = true) →
        params.get? name = some value

/-- **Undeclared query values have no influence**, and declared ones replace no value of the path. -/
theorem undeclared_query_ignored {defaultPath : String} (built : build definitions defaultPath = .ok t)
    (path : String) : ∃ m p, t.QueryScope path m p := by
  obtain ⟨wf, _⟩ := of_build built
  obtain ⟨m, leads⟩ := wf.exists_leadsTo path
  obtain ⟨hmem, p, shape, read⟩ := leads.exists_read
  have compiled := wf.compiled m.route hmem
  obtain ⟨source, hsource⟩ : ∃ source, p.match? source = some m.captured := by
    rcases read with h | ⟨_, h⟩
    · exact ⟨path, h⟩
    · exact ⟨t.defaultPath, h⟩
  refine ⟨m, p, leads, shape, read, ?_, ?_⟩
  · intro query query' agree services
    have hsame : ∀ name, (declaredQuery m.route.pattern query).get? name =
        (declaredQuery m.route.pattern query').get? name := by
      intro name
      rw [shape, get?_declaredQuery, get?_declaredQuery]
      split
      · rename_i declared
        exact agree name declared
      · rfl
    have hstep : t.stepPath path query services = t.stepPath path query' services := by
      rw [wf.stepPath_eq leads, wf.stepPath_eq leads, CompiledRoute.activate, CompiledRoute.activate,
        ParamSchema.materialize_congr m.route.schema m.captured hsame]
    exact ⟨hstep, resolvePath_congr hstep⟩
  · intro query services
    refine ⟨_, wf.stepPath_eq leads query services, ?_, ?_⟩
    · intro name value given kept
      exact get?_materialize_captured compiled shape hsource _ given kept
    · intro name declared value given free
      exact get?_materialize_query compiled shape declared given free

/-- A start page, and a view of an item in a group, with a tab from the query. The group of all items is an empty
segment, and an address is known to the view by its descriptor alone. -/
def viewRoutes : List RouteDefinition :=
  [(RouteDefinition.named "home").withUrl "/",
    (((RouteDefinition.named "view").withUrl "/view/:name/:group?tab&group").withParam "group"
      (ParamDescriptor.value "all").squashed).withParam "url" (ParamDescriptor.value "").squashed]

/-- A query for the view, with values for its item and its address as well. -/
def viewQuery : Dictionary String :=
  Dictionary.ofList [("group", "new"), ("name", "b"), ("tab", "log"), ("url", "larva")]

/-- The item stays what the path says, the empty group is the query's, and the address has no influence. -/
theorem undeclared_query_ignored_view :
    ∃ t m p, build viewRoutes "/" = .ok t ∧ t.QueryScope "/view/a/" m p ∧ m.name = "view" ∧
      p.queryNames = ["tab", "group"] ∧ ∀ services,
        t.stepPath "/view/a/" viewQuery services =
          t.stepPath "/view/a/" (Dictionary.ofList [("group", "new"), ("tab", "log")]) services ∧
        ∃ params, t.stepPath "/view/a/" viewQuery services = m.route.activateWith params services ∧
          params.get? "name" = some "a" ∧ params.get? "group" = some "new" := by
  have hcheck : (build viewRoutes "/").toOption.map (fun t => (t.match? "/view/a/").map fun m =>
      (m.name, m.captured)) = some (some ("view", Dictionary.ofList [("group", ""), ("name", "a")])) := by
    decide +kernel
  have hroute : (build viewRoutes "/").toOption.map (fun t => (t.match? "/view/a/").map fun m =>
      (m.route.pattern.map (·.queryNames), m.route.schema.squashes "group")) =
        some (some (some ["tab", "group"], true)) := by
    decide +kernel
  obtain ⟨t, htable, hmatch⟩ := Option.map_eq_some_iff.mp hcheck
  obtain ⟨m, hm, hparts⟩ := Option.map_eq_some_iff.mp hmatch
  obtain ⟨hname, hcaptured⟩ := Prod.mk.inj hparts
  rw [htable, Option.map_some, hm] at hroute
  obtain ⟨hnames, hlost⟩ := Prod.mk.inj (Option.some.inj (Option.some.inj hroute))
  have built := Result.ok_of_toOption htable
  obtain ⟨m', p, scope⟩ := undeclared_query_ignored built "/view/a/"
  obtain rfl : m = m' := by
    rcases scope.leads with h | ⟨h, _⟩
    · exact Option.some.inj (hm.symm.trans h)
    · cases hm.symm.trans h
  rw [scope.shape, Option.map_some, Option.some.injEq] at hnames
  refine ⟨t, m, p, built, scope, hname, hnames, fun services => ⟨?_, ?_⟩⟩
  · refine (scope.ignored _ _ ?_ services).1
    rw [hnames]
    decide +kernel
  · obtain ⟨params, hstep, hpath, hquery⟩ := scope.order viewQuery services
    rw [hcaptured] at hpath hquery
    refine ⟨params, hstep, hpath "name" "a" (by decide +kernel) (by simp), ?_⟩
    refine hquery "group" (by simp [hnames]) "new" (by decide +kernel) ?_
    intro other hother
    have hempty : (Dictionary.ofList [("group", ""), ("name", "a")]).get? "group" = some "" := by
      decide +kernel
    exact ⟨Option.some.inj (hother.symm.trans hempty), hlost⟩

end RouteTable

end AdminConsole
