import AdminConsole.Proofs.Keyed
import AdminConsole.Proofs.Result
import AdminConsole.Proofs.Route.Ranking
import AdminConsole.Proofs.Route.Schema
import AdminConsole.Route.Link

/-!
# What holds of every built table

A table that was built has one route for each registered definition, in the same order, each name once, and
every route is what compiling its definition gives. Of the routes that match a path the chosen one has the
most literal segments, and is the first registered of those that have as many. The main statements,
`of_build` and `choose_spec`, say this once for all that follows.
-/

set_option autoImplicit false

namespace AdminConsole

namespace CompiledRoute

/-- What compiling a definition gives. -/
structure Compiled (definitions : List RouteDefinition) (r : CompiledRoute) : Prop where
  chain : r.chain = r.definition.chain definitions
  pattern : compilePattern r.definition r.chain = .ok r.pattern
  schema : r.schema = compileSchema r.pattern r.chain
  metadata : r.metadata = compileMetadata r.chain
  dependencies : r.dependencies = (r.chain.flatMap (·.dependencies)).eraseDups

/-- A route that was compiled is that of its definition, and has its lineage and its schema from it. -/
theorem compiled_of_compile {definitions : List RouteDefinition} {d : RouteDefinition}
    {r : CompiledRoute} (h : compile definitions d = .ok r) :
    r.definition = d ∧ Compiled definitions r := by
  obtain ⟨pattern, hpattern, h⟩ := Result.ok_of_bind h
  obtain rfl := Except.ok.inj h
  exact ⟨rfl, ⟨rfl, hpattern, rfl, rfl, rfl⟩⟩

/-- A pattern of a compiled route was read from the composed URL of its chain. -/
theorem compile_of_compilePattern {d : RouteDefinition} {chain : List RouteDefinition}
    {p : Pattern} (h : compilePattern d chain = .ok (some p)) :
    ∃ url, composedUrl? chain = some url ∧ Pattern.compile url = .ok p := by
  unfold compilePattern at h
  split at h
  · split at h <;> cases h
  · rename_i url hurl
    split at h
    · rename_i q hq
      cases h
      exact ⟨url, hurl, hq⟩
    · cases h

section

variable {definitions : List RouteDefinition} {r : CompiledRoute} (compiled : r.Compiled definitions)
include compiled

/-- The pattern of a compiled route is one that was accepted. -/
theorem Compiled.accepted {p : Pattern} (shape : r.pattern = some p) :
    ∃ source, Pattern.compile source = .ok p := by
  have hpattern := compiled.pattern
  rw [shape] at hpattern
  obtain ⟨source, _, accepted⟩ := compile_of_compilePattern hpattern
  exact ⟨source, accepted⟩

/-- A compiled route knows each parameter once. -/
theorem Compiled.nodup_names : r.schema.names.Nodup := by
  rw [compiled.schema]
  exact nodup_names_compileSchema r.pattern r.chain

/-- A compiled route knows the parameters of its path and of its query list. -/
theorem Compiled.mem_names {p : Pattern} (shape : r.pattern = some p) {name : String}
    (h : name ∈ p.paramNames ∨ name ∈ p.queryNames) : name ∈ r.schema.names := by
  rw [compiled.schema, shape]
  exact mem_names_compileSchema r.chain (List.mem_append.mpr h)

end

end CompiledRoute

namespace RouteTable

/-- What holds of a table built from these definitions. -/
structure Built (definitions : List RouteDefinition) (t : RouteTable) : Prop where
  /-- No name is registered twice. -/
  nodup : (definitions.map (·.name)).Nodup
  /-- There is one route for each definition, in the same order. -/
  registered : t.routes.map (·.definition) = definitions
  compiled : ∀ r ∈ t.routes, r.Compiled definitions
  /-- The default route is the one that is chosen for the default path. -/
  fallback : ∃ found, (choose t.routes t.defaultPath).1 = some found ∧ found.route = t.fallback

/-- A list in which no name was seen before has no name twice. -/
theorem nodup_of_firstRepeated? {seen names : List String} (h : firstRepeated? seen names = none) :
    names.Nodup ∧ ∀ name ∈ names, name ∉ seen := by
  induction names generalizing seen with
  | nil => exact ⟨List.nodup_nil, fun _ hmem => absurd hmem List.not_mem_nil⟩
  | cons name names ih =>
    unfold firstRepeated? at h
    split at h
    · cases h
    · rename_i hseen
      obtain ⟨hnodup, hfresh⟩ := ih h
      have hname : name ∉ seen := by simpa using hseen
      refine ⟨List.nodup_cons.mpr ⟨fun hmem => hfresh name hmem List.mem_cons_self, hnodup⟩, ?_⟩
      intro other hother
      rcases List.mem_cons.mp hother with rfl | hmem
      · exact hname
      · exact fun hin => hfresh other hmem (List.mem_cons_of_mem name hin)

/-- The checks of a table, one after the other. -/
theorem build_eq (definitions : List RouteDefinition) (defaultPath : String) :
    build definitions defaultPath =
      match firstRepeated? [] (definitions.map (·.name)) with
      | some name => .error (.duplicateRoute name)
      | none =>
          match definitions.mapM (CompiledRoute.compile definitions) with
          | .error e => .error e
          | .ok routes =>
              match (choose routes defaultPath).1 with
              | some found => .ok ⟨routes, defaultPath, found.route⟩
              | none => .error (.invalidDefault defaultPath) := by
  unfold build
  cases firstRepeated? [] (definitions.map (·.name)) with
  | some name => rfl
  | none =>
    cases definitions.mapM (CompiledRoute.compile definitions) with
    | error e => rfl
    | ok routes =>
      simp only [bind, Except.bind]
      cases (choose routes defaultPath).1 <;> rfl

/-- A table is built of different names, compiled routes and a default path that one of them matches. -/
theorem build_eq_ok_iff {definitions : List RouteDefinition} {defaultPath : String} {t : RouteTable} :
    build definitions defaultPath = .ok t ↔
      firstRepeated? [] (definitions.map (·.name)) = none ∧
      definitions.mapM (CompiledRoute.compile definitions) = .ok t.routes ∧
      t.defaultPath = defaultPath ∧
      ∃ found, (choose t.routes t.defaultPath).1 = some found ∧ found.route = t.fallback := by
  rw [build_eq]
  constructor
  · intro h
    split at h
    · cases h
    · rename_i hnames
      split at h
      · cases h
      · rename_i routes compiled
        split at h
        · rename_i found matched
          obtain rfl := Except.ok.inj h
          exact ⟨hnames, compiled, rfl, found, matched, rfl⟩
        · cases h
  · rintro ⟨hnames, compiled, rfl, found, matched, hroute⟩
    simp only [hnames, compiled, matched, hroute]

/-- **A built table is well formed.** -/
theorem of_build {definitions : List RouteDefinition} {defaultPath : String} {t : RouteTable}
    (h : build definitions defaultPath = .ok t) :
    t.Built definitions ∧ t.defaultPath = defaultPath := by
  obtain ⟨hnames, compiled, hdefault, matched⟩ := build_eq_ok_iff.mp h
  refine ⟨⟨(nodup_of_firstRepeated? hnames).1, ?_, ?_, matched⟩, hdefault⟩
  · exact Result.map_of_mapM (fun hd => (CompiledRoute.compiled_of_compile hd).1) compiled
  · intro r hr
    obtain ⟨d, _, hd⟩ := Result.exists_of_mem_mapM compiled hr
    exact (CompiledRoute.compiled_of_compile hd).2

namespace Built

variable {definitions : List RouteDefinition} {t : RouteTable}

/-- The routes of a table that was built have different names. -/
theorem nodup_names (h : t.Built definitions) : (t.routes.map (·.name)).Nodup := by
  have hnames : t.routes.map (·.name) = definitions.map (·.name) := by
    rw [← h.registered, List.map_map]
    rfl
  rw [hnames]
  exact h.nodup

/-- Two routes of one name are one route. -/
theorem eq_of_name_eq (h : t.Built definitions) {r s : CompiledRoute} (hr : r ∈ t.routes)
    (hs : s ∈ t.routes) (hname : r.name = s.name) : r = s := by
  exact List.inj_on_of_nodup_map h.nodup_names hr hs hname

/-- A route is found under its name. -/
theorem find?_eq_some (h : t.Built definitions) {r : CompiledRoute} (hr : r ∈ t.routes) :
    t.find? r.name = some r :=
  Keyed.find?_eq_some h.nodup_names hr

/-- Routes and definitions are found under the same names. -/
theorem find?_definition (h : t.Built definitions) (name : String) :
    RouteDefinition.find? definitions name = (t.find? name).map (·.definition) := by
  rw [← h.registered, RouteDefinition.find?, List.find?_map]
  rfl

/-- A definition that is registered is found under its name. -/
theorem definition_mem (h : t.Built definitions) {r : CompiledRoute} (hr : r ∈ t.routes) :
    r.definition ∈ definitions := by
  rw [← h.registered]
  exact List.mem_map_of_mem hr

end Built

/-- A route that can be activated stands in the table under its name and is no layout. -/
theorem of_concrete {t : RouteTable} {name : String} {r : CompiledRoute}
    (h : t.concrete name = .ok r) : r ∈ t.routes ∧ r.name = name ∧ r.definition.isLayout = false := by
  unfold concrete at h
  split at h
  · cases h
  · rename_i s hs
    split at h
    · cases h
    · rename_i hlayout
      cases h
      have hfound := List.find?_some hs
      exact ⟨List.mem_of_find?_eq_some hs, by simpa using hfound, by simpa using hlayout⟩

namespace Built

variable {definitions : List RouteDefinition} {t : RouteTable} {name : String} {d : RouteDefinition}

/-- A name under which nothing is declared is an invalid one. -/
theorem concrete_of_unknown (h : t.Built definitions)
    (unknown : RouteDefinition.find? definitions name = none) :
    t.concrete name = .error (.invalidRouteName name) := by
  rw [h.find?_definition, Option.map_eq_none_iff] at unknown
  rw [concrete, unknown]

/-- A layout is abstract. -/
theorem concrete_of_layout (h : t.Built definitions)
    (known : RouteDefinition.find? definitions name = some d) (layout : d.isLayout = true) :
    t.concrete name = .error (.abstractRoute name) := by
  rw [h.find?_definition] at known
  obtain ⟨r, hr, rfl⟩ := Option.map_eq_some_iff.mp known
  simp only [concrete, hr, if_pos layout]

/-- A page is found under its name, as it was compiled. -/
theorem concrete_of_known (h : t.Built definitions)
    (known : RouteDefinition.find? definitions name = some d) (concrete : d.isLayout = false) :
    ∃ r ∈ t.routes, t.concrete name = .ok r ∧ r.definition = d := by
  rw [h.find?_definition] at known
  obtain ⟨r, hr, rfl⟩ := Option.map_eq_some_iff.mp known
  refine ⟨r, List.mem_of_find?_eq_some hr, ?_, rfl⟩
  simp [RouteTable.concrete, hr, concrete]

end Built

end RouteTable

/-! ## The chosen match -/

namespace CompiledRoute

/-- A match of a route is its own, with the specificity of its pattern, and no layout has one. -/
theorem of_match? {r : CompiledRoute} {path : String} {m : RouteMatch}
    (h : r.match? path = some m) :
    m.route = r ∧ r.definition.isLayout = false ∧ ∃ p, r.pattern = some p ∧
      p.match? path = some m.captured ∧ m.specificity = p.literalSegments := by
  unfold match? at h
  split at h
  · cases h
  · rename_i hlayout
    simp only [Option.bind_eq_bind, Option.bind_eq_some_iff, Option.pure_def,
      Option.some.injEq] at h
    obtain ⟨p, hp, captured, hcaptured, rfl⟩ := h
    exact ⟨rfl, by simpa using hlayout, p, hp, hcaptured, rfl⟩

/-- A page matches a path that its pattern matches, with the values that the pattern captures. -/
theorem match?_eq_some {r : CompiledRoute} {p : Pattern} {path : String}
    {captured : Dictionary String} (hlayout : r.definition.isLayout = false)
    (hp : r.pattern = some p) (hmatch : p.match? path = some captured) :
    r.match? path = some ⟨r, captured, p.literalSegments⟩ := by
  simp [match?, hlayout, hp, hmatch]

end CompiledRoute

namespace RouteTable

/-- **The chosen route** matches the path with more literal segments than all that match and were
registered before it, and with no fewer than all that match and were registered after it. -/
theorem choose_spec {routes : List CompiledRoute} {path : String} {m : RouteMatch}
    (h : (choose routes path).1 = some m) :
    ∃ before after, routes = before ++ m.route :: after ∧ m.route.match? path = some m ∧
      (∀ r ∈ before, ∀ n, r.match? path = some n → n.specificity < m.specificity) ∧
      ∀ r ∈ after, ∀ n, r.match? path = some n → n.specificity ≤ m.specificity := by
  unfold choose at h
  split at h
  · cases h
  · rename_i first more hmatches
    obtain ⟨before, after, _, kept⟩ := RouteMatch.exists_kept path first more
    have hm : (RouteMatch.choose path first more).1 = m := Option.some.inj h
    rw [hm] at kept
    rw [matchesOf, kept.split, List.filterMap_eq_append_iff] at hmatches
    obtain ⟨earlier, rest, hroutes, hearlier, hrest⟩ := hmatches
    obtain ⟨skipped, r, later, rfl, hskipped, hr, hlater⟩ := List.filterMap_eq_cons_iff.mp hrest
    obtain rfl := (CompiledRoute.of_match? hr).1
    refine ⟨earlier ++ skipped, later, by rw [hroutes, List.append_assoc], hr, ?_, ?_⟩
    · intro r hmem n hn
      rcases List.mem_append.mp hmem with hmem | hmem
      · exact kept.less n (hearlier ▸ List.mem_filterMap.mpr ⟨r, hmem, hn⟩)
      · rw [hskipped r hmem] at hn
        cases hn
    · intro r hmem n hn
      exact kept.atMost n (hlater ▸ List.mem_filterMap.mpr ⟨r, hmem, hn⟩)

/-- What is chosen for a path is a match of one of the routes. -/
theorem mem_of_choose {routes : List CompiledRoute} {path : String} {m : RouteMatch}
    (h : (choose routes path).1 = some m) : m.route ∈ routes ∧ m.route.match? path = some m := by
  obtain ⟨before, after, hroutes, hmatch, _⟩ := choose_spec h
  exact ⟨by simp [hroutes], hmatch⟩

/-- Nothing is chosen only if nothing matches. -/
theorem match?_eq_none_of_choose {routes : List CompiledRoute} {path : String}
    (h : (choose routes path).1 = none) {r : CompiledRoute} (hr : r ∈ routes) :
    r.match? path = none := by
  unfold choose at h
  split at h
  · rename_i hmatches
    exact List.filterMap_eq_nil_iff.mp hmatches r hr
  · cases h

/-- Something is chosen for a path that some route matches. -/
theorem exists_choose {routes : List CompiledRoute} {path : String} {r : CompiledRoute} {m : RouteMatch}
    (hr : r ∈ routes) (hm : r.match? path = some m) : ∃ n, (choose routes path).1 = some n := by
  cases hchosen : (choose routes path).1 with
  | some n => exact ⟨n, rfl⟩
  | none =>
    rw [match?_eq_none_of_choose hchosen hr] at hm
    cases hm

/-! ## Where a path leads -/

/-- The match that a path leads to: its own, or that of the default path where no route matches. -/
def LeadsTo (t : RouteTable) (path : String) (m : RouteMatch) : Prop :=
  t.match? path = some m ∨ t.match? path = none ∧ t.match? t.defaultPath = some m

namespace Built

variable {definitions : List RouteDefinition} {t : RouteTable} {path : String} {m : RouteMatch}

/-- The default route captures from the default path what it captures when it is matched once more. -/
theorem of_match?_defaultPath (wf : t.Built definitions) (h : t.match? t.defaultPath = some m) :
    m.route = t.fallback ∧ m.captured = t.recaptured := by
  obtain ⟨found, hfound, hroute⟩ := wf.fallback
  obtain rfl : found = m := Option.some.inj (hfound.symm.trans h)
  obtain ⟨_, _, p, hp, hread, _⟩ := CompiledRoute.of_match? (mem_of_choose hfound).2
  refine ⟨hroute, ?_⟩
  rw [recaptured, ← hroute, hp, Option.bind_some, hread]
  rfl

/-- **Every path leads to a match of the table.** -/
theorem exists_leadsTo (wf : t.Built definitions) (path : String) : ∃ m, t.LeadsTo path m := by
  obtain ⟨found, hfound, _⟩ := wf.fallback
  cases h : t.match? path with
  | some m => exact ⟨m, .inl h⟩
  | none => exact ⟨found, .inr ⟨h, hfound⟩⟩

/-- The route that a path leads to and its values are those of the match. -/
theorem lead_eq (wf : t.Built definitions) (h : t.LeadsTo path m) : t.lead path = (m.route, m.captured) := by
  rcases h with h | ⟨h, hdefault⟩
  · simp only [lead, h]
  · obtain ⟨hroute, hcaptured⟩ := wf.of_match?_defaultPath hdefault
    simp only [lead, h, hroute, hcaptured]

end Built

end RouteTable

end AdminConsole
