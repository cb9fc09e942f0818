import AdminConsole.Proofs.Pattern.Segments
import AdminConsole.Proofs.Route.Built
import AdminConsole.Route.Resolution

/-!
# Routes that can match a common path

Which routes of a table compete for a path can be read off their patterns, if these are made of whole segments.
The pairs that can compete are the rivals of the table. Main statement: the routes that match a path are rivals,
each two of them. So a table without rivals never meets a tie.
-/

set_option autoImplicit false

namespace AdminConsole

namespace CompiledRoute

/-- Whether there can be a path that both routes match. -/
def meets (r s : CompiledRoute) : Bool :=
  !r.definition.isLayout && !s.definition.isLayout &&
    match r.pattern, s.pattern with
    | some p, some q => Segment.meet p.segments q.segments
    | _, _ => false

/-- Whether each segment of the route's pattern is plain text or one parameter. -/
def isSegmented (r : CompiledRoute) : Bool :=
  r.pattern.all Pattern.isSegmented

variable {r s : CompiledRoute} {path : String} {m n : RouteMatch}

/-- Routes that match a common path meet. -/
theorem meets_of_match? (hr : r.isSegmented = true) (hs : s.isSegmented = true)
    (hm : r.match? path = some m) (hn : s.match? path = some n) : r.meets s = true := by
  obtain ⟨_, hlayout, p, hp, hmatch, _⟩ := of_match? hm
  obtain ⟨_, hlayout', q, hq, hmatch', _⟩ := of_match? hn
  rw [isSegmented, hp, Option.all_some] at hr
  rw [isSegmented, hq, Option.all_some] at hs
  have hmatches : p.isMatch path = true := by simp [Pattern.isMatch, hmatch]
  have hmatches' : q.isMatch path = true := by simp [Pattern.isMatch, hmatch']
  have hmeet := Pattern.meet_of_isMatch hr hs hmatches hmatches'
  simp [meets, hlayout, hlayout', hp, hq, hmeet]

end CompiledRoute

namespace RouteTable

/-- The names of the routes that meet, in pairs in which the first registered stands first. -/
def rivals : List CompiledRoute → List (String × String)
  | [] => []
  | r :: more => (more.filter r.meets).map (fun s => (r.name, s.name)) ++ rivals more

/-- **The routes that match a path are rivals**, each two of them. -/
theorem pairwise_matchesOf {routes : List CompiledRoute}
    (segmented : ∀ r ∈ routes, r.isSegmented = true) (path : String) :
    (matchesOf routes path).Pairwise fun m n => (m.name, n.name) ∈ rivals routes := by
  rw [matchesOf, List.pairwise_filterMap]
  induction routes with
  | nil => exact List.Pairwise.nil
  | cons r more ih =>
    obtain ⟨hr, hmore⟩ := List.forall_mem_cons.mp segmented
    -- A pair with the first route is one that meets, any other pair is one of the rest.
    refine List.pairwise_cons.mpr ⟨?_, (ih hmore).imp ?_⟩
    · intro s hs m hm n hn
      have hmeets := CompiledRoute.meets_of_match? hr (hmore s hs) hm hn
      obtain rfl := (CompiledRoute.of_match? hm).1
      obtain rfl := (CompiledRoute.of_match? hn).1
      exact List.mem_append_left _ (List.mem_map_of_mem (List.mem_filter.mpr ⟨hs, hmeets⟩))
    · intro s u hpair m hm n hn
      exact List.mem_append_right _ (hpair m hm n hn)

/-! ## Ties -/

/-- No tie is met while a destination is resolved if none is met for any path. -/
theorem ambiguities_follow {t : RouteTable} (clear : ∀ path, t.ambiguities path = []) (left : Nat)
    (trail : List String) (destination : Destination) (services : GuardServices) :
    (t.follow left trail destination services).ambiguities = [] := by
  have hstep : ∀ destination, t.stepAmbiguities destination = [] := by
    intro destination
    cases destination with
    | path path query => exact clear path
    | route name params => rfl
  fun_induction follow t left trail destination services with
  | case1 => exact hstep _
  | case2 => exact hstep _
  | case3 => exact hstep _
  | case4 trail destination services ties source target after hstep' left rest ih =>
    show ties ++ rest.ambiguities = []
    rw [ih]
    exact List.append_eq_nil_iff.mpr ⟨hstep _, rfl⟩

end RouteTable

end AdminConsole
