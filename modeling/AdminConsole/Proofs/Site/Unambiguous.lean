import AdminConsole.Proofs.Site.Survey

/-!
# The console's table is unambiguous

Nearly all pages of the console have patterns that no path matches together. The exception are the two pages
about a trigger of a monitor: a trigger that is called `new` cannot be told from a new one. The page that adds a
trigger has more literal segments, so it is preferred and there is no tie. Main statement: every path matches one
page at most, but for the paths of new triggers, and no path meets a tie.
-/

set_option autoImplicit false

namespace AdminConsole.Site

open Pattern (capture)

/-- Whether a path is one at which a trigger is added to a monitor. -/
def IsNewTrigger (path : String) : Prop :=
  ∃ monitor : String, path = "/monitors/" ++ monitor ++ "/triggers/new" ∧ '/' ∉ monitor.toList ∧
    (Percent.decode monitor).isSome = true

/-! ## The paths of the two pages -/

/-- The page for a new trigger matches these paths alone. -/
theorem capture_addPieces_iff {path : List Char} {texts : List (List Char)} :
    capture addPieces path = some texts ↔
      ∃ monitor, path = "/monitors/".toList ++ monitor ++ "/triggers/new".toList ∧ '/' ∉ monitor ∧
        texts = [monitor] := by
  have ends : Pattern.StartAtSlash [.literal "/triggers/new".toList] := Pattern.startAtSlash_literal
  simp only [addPieces, Pattern.capture_literal_eq_some_iff, Pattern.capture_param_eq_some_iff ends,
    Pattern.capture_nil_eq_some_iff]
  constructor
  · rintro ⟨_, rfl, monitor, _, _, rfl, hfree, ⟨_, rfl, rfl, rfl⟩, rfl⟩
    exact ⟨monitor, by simp, hfree, rfl⟩
  · rintro ⟨monitor, rfl, hfree, rfl⟩
    exact ⟨_, List.append_assoc .., monitor, _, [], rfl, hfree, ⟨[], by simp, rfl, rfl⟩, rfl⟩

/-- The page of a trigger matches the path for a new one, and takes its last segment for the trigger. -/
theorem capture_editPieces {monitor : List Char} (free : '/' ∉ monitor) :
    capture editPieces ("/monitors/".toList ++ monitor ++ "/triggers/new".toList) =
      some [monitor, "new".toList] := by
  have ends : Pattern.StartAtSlash [.literal "/triggers/".toList, .param .colon "trigger"] :=
    Pattern.startAtSlash_literal
  simp only [editPieces, Pattern.capture_literal_eq_some_iff, Pattern.capture_param_eq_some_iff ends,
    Pattern.capture_param_eq_some_iff Pattern.startAtSlash_nil, Pattern.capture_nil_eq_some_iff]
  exact ⟨_, List.append_assoc .., monitor, _, ["new".toList], rfl, free,
    ⟨"new".toList, rfl, "new".toList, [], [], rfl, by decide, ⟨rfl, rfl⟩, rfl⟩, rfl⟩

/-- The page that adds a trigger matches exactly the paths of new triggers. -/
theorem isMatch_addPieces_iff {p : Pattern} (h : p.pieces = addPieces) (path : String) :
    p.isMatch path = true ↔ IsNewTrigger path := by
  simp only [Pattern.isMatch_iff, h, capture_addPieces_iff]
  constructor
  · rintro ⟨_, ⟨monitor, hpath, hfree, rfl⟩, hdecoded⟩
    refine ⟨String.ofList monitor, String.ext (by simpa using hpath), by simpa using hfree, ?_⟩
    simpa [Percent.decode] using hdecoded
  · rintro ⟨monitor, rfl, hfree, hdecoded⟩
    refine ⟨[monitor.toList], ⟨monitor.toList, by simp, hfree, rfl⟩, ?_⟩
    simpa [Percent.decode] using hdecoded

/-- The page that edits a trigger matches the paths of new triggers too. -/
theorem isMatch_editPieces {p : Pattern} (h : p.pieces = editPieces) {path : String}
    (new : IsNewTrigger path) : p.isMatch path = true := by
  obtain ⟨monitor, rfl, hfree, hdecoded⟩ := new
  refine Pattern.isMatch_iff.mpr ⟨[monitor.toList, "new".toList], ?_, ?_⟩
  · rw [h, String.toList_append, String.toList_append, capture_editPieces hfree]
  · have hnew : (Percent.decodeChars "new".toList).isSome = true := by decide
    simpa [Percent.decode] using ⟨hdecoded, hnew⟩

/-! ## The pages that match -/

section

variable {t : RouteTable} (s : Surveyed t) (path : String)
include s

/-- A page with a path like this matches what its pattern matches. -/
theorem exists_mem_matchesOf_iff {name : String} {pieces : List Piece} {literals : Nat}
    (h : hasPath t name pieces literals = true) :
    ∃ p : Pattern, p.pieces = pieces ∧
      ((∃ m ∈ RouteTable.matchesOf t.routes path, m.name = name) ↔ p.isMatch path = true) ∧
      ∀ m ∈ RouteTable.matchesOf t.routes path, m.name = name → m.specificity = literals := by
  obtain ⟨r, p, hr, hp, hpieces, hliterals⟩ := exists_of_hasPath h
  obtain ⟨hmem, rfl, hlayout⟩ := RouteTable.of_concrete hr
  have hown : ∀ m ∈ RouteTable.matchesOf t.routes path, m.name = r.name → r.match? path = some m := by
    intro m hm hname
    obtain ⟨q, hq, hmatch⟩ := List.mem_filterMap.mp hm
    obtain rfl := (CompiledRoute.of_match? hmatch).1
    rwa [s.built.eq_of_name_eq hq hmem hname] at hmatch
  refine ⟨p, hpieces, ⟨?_, ?_⟩, ?_⟩
  · rintro ⟨m, hm, hname⟩
    obtain ⟨_, _, q, hq, hmatch, _⟩ := CompiledRoute.of_match? (hown m hm hname)
    obtain rfl := Option.some.inj (hp.symm.trans hq)
    simp [Pattern.isMatch, hmatch]
  · intro hmatch
    obtain ⟨captured, hcaptured⟩ := Option.isSome_iff_exists.mp hmatch
    exact ⟨_, List.mem_filterMap.mpr ⟨r, hmem, CompiledRoute.match?_eq_some hlayout hp hcaptured⟩, rfl⟩
  · intro m hm hname
    obtain ⟨_, _, q, hq, _, hspecificity⟩ := CompiledRoute.of_match? (hown m hm hname)
    obtain rfl := Option.some.inj (hp.symm.trans hq)
    exact hspecificity.trans hliterals

/-- Where more than one page matches these are the page that edits a trigger and the one that adds it. -/
theorem matchesOf_cases :
    RouteTable.matchesOf t.routes path = [] ∨ (∃ m, RouteTable.matchesOf t.routes path = [m]) ∨
      ∃ m n, RouteTable.matchesOf t.routes path = [m, n] ∧ m.name = editTrigger ∧ n.name = addTrigger := by
  have hpairs := RouteTable.pairwise_matchesOf s.segmented path
  simp only [s.rivals, List.mem_singleton, Prod.mk.injEq] at hpairs
  generalize RouteTable.matchesOf t.routes path = found at hpairs
  match found with
  | [] => exact .inl rfl
  | [m] => exact .inr (.inl ⟨m, rfl⟩)
  | [m, n] =>
    obtain ⟨hm, hn⟩ := List.rel_of_pairwise_cons hpairs List.mem_cons_self
    exact .inr (.inr ⟨m, n, rfl, hm, hn⟩)
  | m :: n :: k :: more =>
    -- The second page would have to be both of the two.
    obtain ⟨_, hn⟩ := List.rel_of_pairwise_cons hpairs List.mem_cons_self
    obtain ⟨hn', _⟩ := List.rel_of_pairwise_cons (List.Pairwise.of_cons hpairs) List.mem_cons_self
    exact absurd (hn'.symm.trans hn) (by decide)

/-- Two pages match exactly the paths of new triggers. -/
theorem matchesOf_of_isNewTrigger_iff :
    IsNewTrigger path ↔
      ∃ m n, RouteTable.matchesOf t.routes path = [m, n] ∧ m.name = editTrigger ∧ n.name = addTrigger := by
  obtain ⟨p, hp, hadds, _⟩ := exists_mem_matchesOf_iff s path s.adds
  obtain ⟨q, hq, hedits, _⟩ := exists_mem_matchesOf_iff s path s.edits
  rw [isMatch_addPieces_iff hp path] at hadds
  constructor
  · intro hnew
    obtain ⟨m, hm, hmname⟩ := hedits.mpr (isMatch_editPieces hq hnew)
    obtain ⟨n, hn, hnname⟩ := hadds.mpr hnew
    rcases matchesOf_cases s path with hnone | ⟨k, hone⟩ | hpair
    · rw [hnone] at hm
      cases hm
    · rw [hone, List.mem_singleton] at hm hn
      rw [hm, ← hn, hnname] at hmname
      exact absurd hmname (by decide)
    · exact hpair
  · rintro ⟨m, n, hmatches, _, hn⟩
    exact hadds.mp ⟨n, by simp [hmatches], hn⟩

/-- Where a trigger is added, the page that adds one has more literal segments. -/
theorem choose_of_isNewTrigger (new : IsNewTrigger path) :
    (t.match? path).map RouteMatch.name = some addTrigger ∧ t.ambiguities path = [] := by
  obtain ⟨m, n, hmatches, hm, hn⟩ := (matchesOf_of_isNewTrigger_iff s path).mp new
  obtain ⟨_, _, _, hadds⟩ := exists_mem_matchesOf_iff s path s.adds
  obtain ⟨_, _, _, hedits⟩ := exists_mem_matchesOf_iff s path s.edits
  have hless := hedits m (by simp [hmatches]) hm
  have hmore := hadds n (by simp [hmatches]) hn
  simp [RouteTable.match?, RouteTable.ambiguities, RouteTable.choose, hmatches, RouteMatch.choose, hless,
    hmore, hn]

/-- No tie is met for any path. -/
theorem ambiguities_eq_nil : t.ambiguities path = [] := by
  rcases matchesOf_cases s path with hnone | ⟨m, hone⟩ | hpair
  · simp [RouteTable.ambiguities, RouteTable.choose, hnone]
  · simp [RouteTable.ambiguities, RouteTable.choose, RouteMatch.choose, hone]
  · exact (choose_of_isNewTrigger s path ((matchesOf_of_isNewTrigger_iff s path).mpr hpair)).2

end

/-- **The console's table is unambiguous.** It is built, and a path matches one page at most, unless it is one at
which a trigger is added to a monitor. Such a path matches the page that edits a trigger and the page that adds
one, and the latter is chosen. So no path meets a tie, and neither does a destination while it is resolved. -/
theorem console_unambiguous :
    ∃ t, table = .ok t ∧
      (∀ path, ¬ IsNewTrigger path → (RouteTable.matchesOf t.routes path).length ≤ 1) ∧
      (∀ path, IsNewTrigger path →
        (RouteTable.matchesOf t.routes path).map RouteMatch.name = [editTrigger, addTrigger] ∧
          (t.match? path).map RouteMatch.name = some addTrigger) ∧
      (∀ path, t.ambiguities path = []) ∧
      ∀ destination services, (t.resolve destination services).ambiguities = [] := by
  obtain ⟨t, htable, s⟩ := exists_surveyed
  refine ⟨t, htable, ?_, ?_, ambiguities_eq_nil s, ?_⟩
  · intro path hold
    rcases matchesOf_cases s path with hnone | ⟨m, hone⟩ | hpair
    · simp [hnone]
    · simp [hone]
    · exact absurd ((matchesOf_of_isNewTrigger_iff s path).mpr hpair) hold
  · intro path hnew
    obtain ⟨m, n, hmatches, hm, hn⟩ := (matchesOf_of_isNewTrigger_iff s path).mp hnew
    exact ⟨by simp [hmatches, hm, hn], (choose_of_isNewTrigger s path hnew).1⟩
  · intro destination services
    exact RouteTable.ambiguities_follow (ambiguities_eq_nil s) _ [] destination services

/-- A path at which a trigger is added, and one at which none is. -/
theorem console_unambiguous_triggers :
    ∃ t, table = .ok t ∧ IsNewTrigger "/monitors/m/triggers/new" ∧
      (t.match? "/monitors/m/triggers/new").map RouteMatch.name = some addTrigger ∧
      ¬ IsNewTrigger "/monitors" ∧ (RouteTable.matchesOf t.routes "/monitors").length ≤ 1 := by
  obtain ⟨t, htable, hone, htwo, _⟩ := console_unambiguous
  have hnew : IsNewTrigger "/monitors/m/triggers/new" := ⟨"m", by decide, by decide, by decide⟩
  have hold : ¬ IsNewTrigger "/monitors" := by
    rintro ⟨monitor, hpath, _⟩
    have hlength := congrArg (fun path => path.toList.length) hpath
    simp at hlength
  exact ⟨t, htable, hnew, (htwo _ hnew).2, hold, hone _ hold⟩

end AdminConsole.Site
