import AdminConsole.Proofs.Route.Built

/-!
# The preferred route of a path

Several routes may match a path. Main statement: the one that is taken is the first registered of the pages that
match with the most literal segments, with the values that its own pattern captures, and none is taken only where no
page matches. A tie is reported for every other page that matches as well, in the order of registration. The other
ties that are reported are between pages that match the path equally well among themselves, but less well.
-/

set_option autoImplicit false

namespace AdminConsole

namespace CompiledRoute

/-- Whether the route can be activated and its pattern matches a path. -/
def answers (r : CompiledRoute) (path : String) : Bool :=
  !r.definition.isLayout && r.pattern.any (·.isMatch path)

/-- The number of literal segments of the route's pattern. -/
def literalSegments (r : CompiledRoute) : Nat :=
  r.pattern.elim 0 (·.literalSegments)

variable {r : CompiledRoute} {path : String} {m : RouteMatch}

/-- A match is as specific as its route has literal segments. -/
theorem specificity_eq (h : r.match? path = some m) : m.specificity = r.literalSegments := by
  obtain ⟨_, _, p, hp, _, hspecificity⟩ := of_match? h
  rw [literalSegments, hp, hspecificity]
  rfl

/-- A route answers the paths that it matches. -/
theorem answers_iff : r.answers path = true ↔ ∃ m, r.match? path = some m := by
  constructor
  · intro h
    obtain ⟨hpage, hmatch⟩ : r.definition.isLayout = false ∧ r.pattern.any (·.isMatch path) = true := by
      simpa [answers] using h
    obtain ⟨p, hp, hread⟩ := (Option.any_eq_true _ _).mp hmatch
    obtain ⟨captured, hcaptured⟩ := Option.isSome_iff_exists.mp hread
    exact ⟨_, match?_eq_some hpage hp hcaptured⟩
  · rintro ⟨m, hm⟩
    obtain ⟨_, hpage, p, hp, hread, _⟩ := of_match? hm
    simp [answers, hpage, hp, Pattern.isMatch, hread]

/-- A route does not answer the paths that it does not match. -/
theorem answers_eq_false_iff : r.answers path = false ↔ r.match? path = none := by
  rw [← Bool.not_eq_true, answers_iff, Option.eq_none_iff_forall_ne_some, not_exists]

end CompiledRoute

namespace RouteTable

variable {definitions : List RouteDefinition} {t : RouteTable} {path : String} {m : RouteMatch}

/-- Every route that answers has one match, and the matches stand in the order of the routes. -/
theorem map_route_matchesOf (routes : List CompiledRoute) (path : String) :
    (matchesOf routes path).map (·.route) = routes.filter (·.answers path) := by
  induction routes with
  | nil => rfl
  | cons r routes ih =>
    cases hmatch : r.match? path with
    | none =>
      have hcons : matchesOf (r :: routes) path = matchesOf routes path := List.filterMap_cons_none hmatch
      have hsilent := CompiledRoute.answers_eq_false_iff.mpr hmatch
      rw [hcons, ih, List.filter_cons_of_neg (by simp [hsilent])]
    | some m =>
      have hcons : matchesOf (r :: routes) path = m :: matchesOf routes path := List.filterMap_cons_some hmatch
      have hanswers := CompiledRoute.answers_iff.mpr ⟨m, hmatch⟩
      rw [hcons, List.map_cons, ih, (CompiledRoute.of_match? hmatch).1, List.filter_cons_of_pos (by simp [hanswers])]

/-- No route is chosen exactly where no route answers. -/
theorem choose_eq_none_iff {routes : List CompiledRoute} :
    (choose routes path).1 = none ↔ ∀ r ∈ routes, r.answers path = false := by
  constructor
  · intro hnone r hr
    exact CompiledRoute.answers_eq_false_iff.mpr (match?_eq_none_of_choose hnone hr)
  · intro hsilent
    have hmatches : matchesOf routes path = [] :=
      List.filterMap_eq_nil_iff.mpr fun r hr => CompiledRoute.answers_eq_false_iff.mp (hsilent r hr)
    rw [choose, hmatches]

/-- Every match of a list of routes is as specific as its route has literal segments. -/
theorem specificity_of_mem_matchesOf {routes : List CompiledRoute} (hm : m ∈ matchesOf routes path) :
    m.specificity = m.route.literalSegments := by
  obtain ⟨r, _, hmatch⟩ := List.mem_filterMap.mp hm
  rw [(CompiledRoute.of_match? hmatch).1]
  exact CompiledRoute.specificity_eq hmatch

/-- Matches are told apart by their names. -/
theorem Built.nodup_matchesOf (wf : t.Built definitions) (path : String) :
    ((matchesOf t.routes path).map RouteMatch.name).Nodup := by
  have hnames : (matchesOf t.routes path).map RouteMatch.name =
      (t.routes.filter (·.answers path)).map CompiledRoute.name := by
    rw [← map_route_matchesOf, List.map_map]
    rfl
  rw [hnames]
  exact wf.nodup_names.sublist (List.filter_sublist.map CompiledRoute.name)

/-- The match of a path was kept from among those of all routes. -/
theorem exists_kept_of_match? (h : t.match? path = some m) :
    ∃ before after early, RouteMatch.Kept path (matchesOf t.routes path) before after early
      (t.ambiguities path) m := by
  unfold match? choose at h
  unfold ambiguities choose
  split at h
  · cases h
  · rename_i first more hmatches
    obtain ⟨before, after, early, kept⟩ := RouteMatch.exists_kept path first more
    obtain rfl : (RouteMatch.choose path first more).1 = m := Option.some.inj h
    simp only [hmatches]
    exact ⟨before, after, early, kept⟩

section

variable (h : t.match? path = some m)
include h

/-- The match of a path is as specific as its route has literal segments. -/
theorem specificity_of_match? : m.specificity = m.route.literalSegments :=
  CompiledRoute.specificity_eq (mem_of_choose h).2

/-- The ties of the route that is taken, as they are found among the routes. -/
theorem Built.filter_ambiguities (wf : t.Built definitions) :
    (t.ambiguities path).filter (fun tie => tie.chosen == m.name) =
      (t.routes.filter fun r => r.answers path &&
        (r.literalSegments == m.route.literalSegments && r.name != m.name)).map fun r => ⟨path, m.name, r.name⟩ := by
  obtain ⟨before, after, early, kept⟩ := exists_kept_of_match? h
  let rival (r : CompiledRoute) : Bool := r.literalSegments == m.route.literalSegments && r.name != m.name
  have hmatches : (matchesOf t.routes path).filter (fun n => n.specificity == m.specificity && n.name != m.name) =
      (matchesOf t.routes path).filter (rival ∘ (·.route)) := by
    apply List.filter_congr
    intro n hn
    rw [specificity_of_mem_matchesOf hn, specificity_of_match? h]
    rfl
  have hroutes : t.routes.filter (fun r => r.answers path && rival r) =
      ((matchesOf t.routes path).map (·.route)).filter rival := by
    rw [map_route_matchesOf, List.filter_filter]
    exact List.filter_congr fun r _ => Bool.and_comm _ _
  calc (t.ambiguities path).filter (fun tie => tie.chosen == m.name)
      = ((matchesOf t.routes path).filter (rival ∘ (·.route))).map fun n => ⟨path, m.name, n.name⟩ := by
        rw [kept.filter_ties (wf.nodup_matchesOf path), hmatches]
    _ = (t.routes.filter fun r => r.answers path && rival r).map fun r => ⟨path, m.name, r.name⟩ := by
        rw [hroutes, List.filter_map, List.map_map]
        rfl

/-- Any other tie is one of two routes that were given up for the one that is taken. -/
theorem exists_of_mem_ambiguities {tie : Ambiguity} (htie : tie ∈ t.ambiguities path)
    (other : tie.chosen ≠ m.name) :
    ∃ r s, [r, s].Sublist t.routes ∧ r.answers path = true ∧ s.answers path = true ∧
      r.literalSegments = s.literalSegments ∧ r.literalSegments < m.route.literalSegments ∧
      tie = ⟨path, r.name, s.name⟩ := by
  obtain ⟨before, after, early, kept⟩ := exists_kept_of_match? h
  obtain ⟨a, b, hsub, hsame, hless, rfl⟩ := kept.exists_of_mem_ties htie other
  have ha := specificity_of_mem_matchesOf (hsub.subset List.mem_cons_self)
  have hb := specificity_of_mem_matchesOf (hsub.subset (List.mem_cons_of_mem a List.mem_cons_self))
  have hanswering : [a.route, b.route].Sublist (t.routes.filter (·.answers path)) :=
    map_route_matchesOf t.routes path ▸ hsub.map RouteMatch.route
  have hanswers : ∀ r ∈ [a.route, b.route], r.answers path = true := fun r hr =>
    (List.mem_filter.mp (hanswering.subset hr)).2
  refine ⟨a.route, b.route, hanswering.trans List.filter_sublist, hanswers a.route (by simp),
    hanswers b.route (by simp), ?_, ?_, rfl⟩
  · rw [← ha, ← hb, hsame]
  · rw [← ha, ← specificity_of_match? h]
    exact hless

end

/-- What makes a match the preferred one of a path, and which ties are reported with it. -/
structure Preferred (t : RouteTable) (path : String) (m : RouteMatch) : Prop where
  page : m.route.definition.isLayout = false
  captured : ∃ p, m.route.pattern = some p ∧ p.match? path = some m.captured
  /-- Nothing that answers and was registered earlier is as specific, and nothing at all is more specific. -/
  first : ∃ before after, t.routes = before ++ m.route :: after ∧
    (∀ r ∈ before, r.answers path = true → r.literalSegments < m.route.literalSegments) ∧
    ∀ r ∈ after, r.answers path = true → r.literalSegments ≤ m.route.literalSegments
  /-- The ties of the route itself. -/
  rivals : (t.ambiguities path).filter (fun tie => tie.chosen == m.name) =
    (t.routes.filter fun r => r.answers path &&
      (r.literalSegments == m.route.literalSegments && r.name != m.name)).map fun r => ⟨path, m.name, r.name⟩
  /-- The ties of routes that were given up later. -/
  others : ∀ tie ∈ t.ambiguities path, tie.chosen ≠ m.name → ∃ r s, [r, s].Sublist t.routes ∧
    r.answers path = true ∧ s.answers path = true ∧ r.literalSegments = s.literalSegments ∧
    r.literalSegments < m.route.literalSegments ∧ tie = ⟨path, r.name, s.name⟩

/-- The match of a path is the preferred one. -/
theorem Built.preferred (wf : t.Built definitions) (h : t.match? path = some m) : t.Preferred path m := by
  obtain ⟨before, after, hroutes, hown, hbefore, hafter⟩ := choose_spec h
  obtain ⟨_, page, p, hp, hread, _⟩ := CompiledRoute.of_match? hown
  refine ⟨page, ⟨p, hp, hread⟩, ⟨before, after, hroutes, ?_, ?_⟩, wf.filter_ambiguities h,
    fun tie => exists_of_mem_ambiguities h⟩
  · intro r hr hanswers
    obtain ⟨n, hn⟩ := CompiledRoute.answers_iff.mp hanswers
    have hless := hbefore r hr n hn
    rwa [CompiledRoute.specificity_eq hn, specificity_of_match? h] at hless
  · intro r hr hanswers
    obtain ⟨n, hn⟩ := CompiledRoute.answers_iff.mp hanswers
    have hatMost := hafter r hr n hn
    rwa [CompiledRoute.specificity_eq hn, specificity_of_match? h] at hatMost

/-- **The most specific route is preferred**, the first registered one of several, and its rivals are reported. -/
theorem most_specific_preferred {defaultPath : String} (built : build definitions defaultPath = .ok t)
    (path : String) :
    t.routes.map (·.definition) = definitions ∧
      (t.match? path = none ↔ ∀ r ∈ t.routes, r.answers path = false) ∧
      (t.match? path = none → t.ambiguities path = []) ∧
      ∀ m, t.match? path = some m → t.Preferred path m := by
  obtain ⟨wf, _⟩ := of_build built
  refine ⟨wf.registered, choose_eq_none_iff, ?_, fun m hm => wf.preferred hm⟩
  intro hnone
  unfold match? choose at hnone
  unfold ambiguities choose
  split at hnone
  · rfl
  · cases hnone

/-- A start page, two pages that match all paths of two segments, and two that match those below `/list`. -/
def tiedRoutes : List RouteDefinition :=
  [(RouteDefinition.named "home").withUrl "/", (RouteDefinition.named "cell").withUrl "/:row/:column",
    (RouteDefinition.named "pair").withUrl "/:first/:second", (RouteDefinition.named "page").withUrl "/list/:page",
    (RouteDefinition.named "text").withUrl "/list/:text"]

/-- Below `/list` the first of the two pages is taken. The tie of the other two was met before it. -/
theorem most_specific_preferred_page :
    ∃ t m, build tiedRoutes "/" = .ok t ∧ t.match? "/list/2" = some m ∧ t.Preferred "/list/2" m ∧
      (m.name, m.captured) = ("page", Dictionary.ofList [("page", "2")]) ∧
      t.ambiguities "/list/2" = [⟨"/list/2", "cell", "pair"⟩, ⟨"/list/2", "page", "text"⟩] := by
  have hcheck : (build tiedRoutes "/").toOption.map (fun t => (t.match? "/list/2").map fun m =>
      (m.name, m.captured)) = some (some ("page", Dictionary.ofList [("page", "2")])) := by
    decide +kernel
  have hties : (build tiedRoutes "/").toOption.map (fun t => t.ambiguities "/list/2") =
      some [⟨"/list/2", "cell", "pair"⟩, ⟨"/list/2", "page", "text"⟩] := by
    decide +kernel
  obtain ⟨t, htable, hmatch⟩ := Option.map_eq_some_iff.mp hcheck
  obtain ⟨m, hm, hparts⟩ := Option.map_eq_some_iff.mp hmatch
  rw [htable, Option.map_some] at hties
  have built := Result.ok_of_toOption htable
  exact ⟨t, m, built, hm, (most_specific_preferred built "/list/2").2.2.2 m hm, hparts, Option.some.inj hties⟩

end RouteTable

end AdminConsole
