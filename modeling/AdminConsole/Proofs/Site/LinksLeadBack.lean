import AdminConsole.Proofs.Route.Locations
import AdminConsole.Proofs.Site.Unambiguous

/-!
# The console's links lead back to their pages

A link to a page of the console is read from the location of the browser as it was, its path leads to the page,
and the page gets the parameters again that its URL declares. One link goes astray: the one to edit a trigger
that is called `new`, which leads to the page that adds a trigger.
-/

set_option autoImplicit false

namespace AdminConsole.Site

/-! ## The link to edit a trigger -/

/-- A path to edit a trigger is one at which a trigger is added if the trigger is called `new`. -/
theorem isNewTrigger_of_reverse_iff {p : Pattern} {values : Dictionary String} {path : String}
    (shape : p.pieces = editPieces) (h : p.reverse values = some path) :
    IsNewTrigger path ↔ values.get? "trigger" = some "new" := by
  obtain ⟨chars, hfill, rfl⟩ := Option.map_eq_some_iff.mp h
  rw [shape] at hfill
  obtain ⟨trigger, htrigger⟩ := Pattern.get?_of_fill hfill (show "trigger" ∈ _ by decide)
  have hread := Pattern.decodeChars_writtenText values "trigger"
  rw [htrigger, Option.getD_some] at hread
  rw [htrigger, Option.some.injEq]
  constructor
  · rintro ⟨monitor, hpath, hfree, _⟩
    -- Read back from the path, the trigger is what stands behind the last slash.
    have hcapture := Pattern.capture_of_fill (by decide) hfill
    have hchars : chars = "/monitors/".toList ++ monitor.toList ++ "/triggers/new".toList := by
      simpa using congrArg String.toList hpath
    rw [hchars, capture_editPieces hfree] at hcapture
    have hwritten : "new".toList = Pattern.writtenText values "trigger" :=
      (List.cons.inj (List.cons.inj (Option.some.inj hcapture)).2).1
    rw [← hwritten] at hread
    exact Option.some.inj (hread.symm.trans (by decide))
  · rintro rfl
    obtain ⟨tail, htail, rfl⟩ := Pattern.fill_literal hfill
    obtain ⟨_, rest, hrest, rfl⟩ := Pattern.fill_param htail
    obtain ⟨last, hlast, rfl⟩ := Pattern.fill_literal hrest
    obtain ⟨_, none, hnone, rfl⟩ := Pattern.fill_param hlast
    obtain rfl : [] = none := Option.some.inj hnone
    have hnew : Pattern.writtenText values "trigger" = "new".toList := by
      rw [Pattern.writtenText, htrigger]
      decide
    have hmonitor := Pattern.decodeChars_writtenText values "monitor"
    refine ⟨String.ofList (Pattern.writtenText values "monitor"), ?_, ?_, ?_⟩
    · apply String.ext
      simp [hnew]
    · rw [String.toList_ofList]
      exact Percent.not_mem_encodeChars (by decide)
    · simp [Percent.decode, hmonitor]

/-! ## What is read back -/

/-- What `isLinkable` looks for. -/
structure Linkable (r : CompiledRoute) (pattern : Pattern) : Prop where
  rooted : (Pattern.leadingText pattern.pieces).head? = some '/'
  whole : '#' ∉ Pattern.literalText pattern.pieces
  separated : Pattern.isSeparated pattern.pieces = true
  /-- Where a default is left out of the path it is the empty text. -/
  squashed : ∀ name ∈ pattern.paramNames, r.schema.squashes name = true → r.schema.default? name = some ""

/-- A route that passes the check can be linked to and read back. -/
theorem linkable_of_isLinkable {r : CompiledRoute} {pattern : Pattern} (h : isLinkable r = true)
    (shape : r.pattern = some pattern) : Linkable r pattern := by
  rw [isLinkable, shape, Option.all_some] at h
  simp only [Bool.and_eq_true, isRooted, beq_iff_eq, Bool.not_eq_true', List.all_eq_true,
    Bool.or_eq_true] at h
  obtain ⟨⟨⟨hrooted, hwhole⟩, hseparated⟩, hsquashed⟩ := h
  refine ⟨hrooted, by simpa using hwhole, hseparated, ?_⟩
  intro name hname hsquashes
  rcases hsquashed name hname with hkept | hdefault
  · rw [hsquashes] at hkept
    cases hkept
  · exact hdefault

/-- What the URL of a page declares comes back as it was. -/
theorem Linkable.readBack? {r : CompiledRoute} {pattern : Pattern} (h : Linkable r pattern)
    (values : RouteParams) {param : String} (declared : pattern.declares param = true) :
    r.schema.readBack? pattern values param = values.get? param := by
  unfold ParamSchema.readBack?
  split
  · rfl
  · rename_i hquery
    have hpath : param ∈ pattern.paramNames := by
      simpa [Pattern.declares, hquery] using declared
    rw [if_pos hpath]
    split
    · rename_i hempty
      rw [h.squashed param hpath hempty.2, hempty.1]
    · rfl

/-- What it means that a link that was made with these parameters leads back to its page. -/
structure LeadsBack (t : RouteTable) (r : CompiledRoute) (pattern : Pattern) (params : RouteParams)
    (url : String) : Prop where
  page : (t.match? (RouteUrl.split url).1).map RouteMatch.name = some r.name
  /-- The page is activated with the same value for each parameter that its URL declares. -/
  values : ∀ services, ∃ values,
    t.stepPath (RouteUrl.split url).1 (RouteUrl.split url).2 services = r.activateWith values services ∧
      ∀ param, pattern.declares param = true →
        values.get? param = (r.schema.materialize Dictionary.empty params).get? param

section

variable {t : RouteTable} (s : Surveyed t)
include s

/-! ## Which page is chosen -/

/-- A page is chosen for every path it matches, but for the page that edits a trigger where one is added. -/
theorem match?_name_of_match? {r : CompiledRoute} (hr : r ∈ t.routes) {path : String} {m : RouteMatch}
    (hm : r.match? path = some m) (clear : ¬ (r.name = editTrigger ∧ IsNewTrigger path)) :
    (t.match? path).map RouteMatch.name = some r.name := by
  obtain rfl := (CompiledRoute.of_match? hm).1
  have hmem : m ∈ RouteTable.matchesOf t.routes path := List.mem_filterMap.mpr ⟨m.route, hr, hm⟩
  rcases matchesOf_cases s path with hnone | ⟨k, hone⟩ | ⟨e, a, hpair, he, ha⟩
  · rw [hnone] at hmem
    cases hmem
  · rw [hone, List.mem_singleton] at hmem
    simp [RouteTable.match?, RouteTable.choose, RouteMatch.choose, hone, hmem, RouteMatch.name]
  · have hnew := (matchesOf_of_isNewTrigger_iff s path).mpr ⟨e, a, hpair, he, ha⟩
    rw [hpair, List.mem_cons, List.mem_singleton] at hmem
    rcases hmem with rfl | rfl
    · exact absurd ⟨he, hnew⟩ clear
    · rw [(choose_of_isNewTrigger s path hnew).1, ← ha]
      rfl

/-- The page that edits a trigger, with its path and its trigger. -/
theorem of_concrete_editTrigger {r : CompiledRoute} {pattern : Pattern}
    (found : t.concrete editTrigger = .ok r) (shape : r.pattern = some pattern) :
    pattern.pieces = editPieces ∧ ∀ params : RouteParams,
      (r.schema.materialize Dictionary.empty params).get? "trigger" = (params.get? "trigger").or (some "") := by
  obtain ⟨r', p, hfound, hshape, hpieces, _⟩ := exists_of_hasPath s.edits
  obtain rfl : r = r' := Except.ok.inj (found.symm.trans hfound)
  obtain rfl : pattern = p := Option.some.inj (shape.symm.trans hshape)
  have hdefault := s.trigger
  rw [found] at hdefault
  have compiled := s.built.compiled r (RouteTable.of_concrete found).1
  have known : "trigger" ∈ r.schema.names := by
    refine compiled.mem_names shape (.inl ?_)
    rw [Pattern.paramNames, hpieces]
    decide
  refine ⟨hpieces, fun params => ?_⟩
  rw [ParamSchema.get?_materialize_of_mem compiled.nodup_names known, eq_of_beq hdefault]
  rfl

/-- A link to edit a trigger leads to a path at which one is added if the trigger is called `new`. -/
theorem isNewTrigger_of_href_iff {url : String} {params : RouteParams}
    (link : t.href editTrigger params = .ok url) :
    IsNewTrigger (RouteUrl.split url).1 ↔ params.get? "trigger" = some "new" := by
  obtain ⟨r, pattern, _, found, shape, _⟩ := RouteTable.exists_href_iff.mp ⟨url, link⟩
  obtain ⟨hpieces, htrigger⟩ := of_concrete_editTrigger s found shape
  rw [isNewTrigger_of_reverse_iff hpieces (s.built.split_href found shape link).1, htrigger]
  cases params.get? "trigger" <;> simp

end

/-- **The console's links lead back to their pages.** The table is built, and a link to a page comes back from its
location in both modes. It leads to the page itself, which gets all parameters again that its URL declares,
unless it is a link to edit a trigger that is called `new`: that one leads to the page that adds a trigger. -/
theorem console_links_lead_back :
    ∃ t, table = .ok t ∧ ∀ name params url, t.href name params = .ok url →
      (∀ mode : LocationMode, mode.routeUrl (mode.location url) = url) ∧
      ∃ r pattern, t.concrete name = .ok r ∧ r.pattern = some pattern ∧
        (¬ (name = editTrigger ∧ params.get? "trigger" = some "new") → LeadsBack t r pattern params url) ∧
        (name = editTrigger → params.get? "trigger" = some "new" →
          (t.match? (RouteUrl.split url).1).map RouteMatch.name = some addTrigger) := by
  obtain ⟨t, htable, s⟩ := exists_surveyed
  refine ⟨t, htable, fun name params url link => ?_⟩
  obtain ⟨r, pattern, _, found, shape, _⟩ := RouteTable.exists_href_iff.mp ⟨url, link⟩
  obtain ⟨hr, rfl, _⟩ := RouteTable.of_concrete found
  have hlinkable := linkable_of_isLinkable (s.linkable r hr) shape
  refine ⟨s.built.routeUrl_location_href found shape link hlinkable.rooted hlinkable.whole, r, pattern,
    found, shape, ?_, ?_⟩
  · intro clear
    obtain ⟨captured, hown, _⟩ := s.built.match?_href found shape link hlinkable.separated
    have hpage : (t.match? (RouteUrl.split url).1).map RouteMatch.name = some r.name := by
      refine match?_name_of_match? s hr hown ?_
      rintro ⟨hname, hnew⟩
      rw [hname] at link
      exact clear ⟨hname, (isNewTrigger_of_href_iff s link).mp hnew⟩
    refine ⟨hpage, fun services => ?_⟩
    obtain ⟨values, hstep, hread⟩ :=
      s.built.stepPath_href found shape link hlinkable.separated hpage services
    exact ⟨values, hstep, fun param declared =>
      (hread param).trans (hlinkable.readBack? _ declared)⟩
  · intro hname hnew
    rw [hname] at link
    exact (choose_of_isNewTrigger s _ ((isNewTrigger_of_href_iff s link).mpr hnew)).1

/-- Links to edit two triggers of a monitor, one of which is called `new`. -/
theorem console_links_lead_back_triggers :
    ∃ t old new, table = .ok t ∧
      t.href editTrigger (Dictionary.ofList [("monitor", "m"), ("trigger", "old")]) = .ok old ∧
      (t.match? (RouteUrl.split old).1).map RouteMatch.name = some editTrigger ∧
      t.href editTrigger (Dictionary.ofList [("monitor", "m"), ("trigger", "new")]) = .ok new ∧
      (t.match? (RouteUrl.split new).1).map RouteMatch.name = some addTrigger := by
  obtain ⟨t, htable, hlinks⟩ := console_links_lead_back
  obtain ⟨other, hother, s⟩ := exists_surveyed
  obtain rfl : t = other := Except.ok.inj (htable.symm.trans hother)
  obtain ⟨r, pattern, found, shape, hpieces, _⟩ := exists_of_hasPath s.edits
  have hlink : ∀ trigger, ∃ url,
      t.href editTrigger (Dictionary.ofList [("monitor", "m"), ("trigger", trigger)]) = .ok url := by
    intro trigger
    refine s.built.exists_href found shape ?_
    rw [Pattern.paramNames, hpieces]
    intro param hparam
    have hcases : param = "monitor" ∨ param = "trigger" := by
      simpa [editPieces, Piece.name?, eq_comm] using hparam
    rw [Dictionary.get?_ofList_of_nodup _ (by simp)]
    rcases hcases with rfl | rfl
    · exact ⟨"m", rfl⟩
    · exact ⟨trigger, rfl⟩
  obtain ⟨old, hold⟩ := hlink "old"
  obtain ⟨new, hnew⟩ := hlink "new"
  obtain ⟨_, r', _, found', _, hback, _⟩ := hlinks editTrigger _ old hold
  obtain ⟨_, _, _, _, _, _, hastray⟩ := hlinks editTrigger _ new hnew
  have hname : r'.name = editTrigger := (RouteTable.of_concrete found').2.1
  have hpage := (hback (by decide)).page
  rw [hname] at hpage
  exact ⟨t, old, new, htable, hold, hpage, hnew, hastray rfl (by decide)⟩

end AdminConsole.Site
