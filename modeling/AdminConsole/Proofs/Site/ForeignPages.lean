import AdminConsole.Proofs.Pattern.Reading
import AdminConsole.Proofs.Site.AlwaysResolves
import AdminConsole.Proofs.Site.Survey
import AdminConsole.Proofs.Text.Splitting

/-!
# No URL opens or embeds a foreign page

One page of the console opens the document that it is given, or embeds it, and three pages embed a document of
their own. A URL can lead to the first of them, but cannot give it a document, because the page declares none in
its path or query. Main statement: what is opened outside the console is opened because somebody asks for it by
name, and what is embedded when a URL is resolved is one of the three fixed documents.
-/

set_option autoImplicit false

namespace AdminConsole.Site

open RouteDefinition

/-- The pages that embed a document of their own, with this document. -/
def embedded : List (String × String) :=
  [("pages.larva", "larva"), ("pages.ladybug", "iaf/testtool"), ("pages.ladybug_beta", "iaf/ladybug")]

/-- Whether a page shows or opens a document. -/
def showsDocument (name : String) : Bool :=
  name == customPage || (embedded.lookup name).isSome

/-! ## The guards -/

/-- Where the console's guards redirect to. -/
def retreats : List Destination := toRoute "login" :: exits

/-- Whether a guard has nothing to do with documents. -/
structure IsInward (guard : Guard) : Prop where
  services : ∀ context services, (guard context services).services = services
  extra : ∀ context services,
    (guard context services).metadata.extra? embeddedUrl = context.metadata.extra? embeddedUrl
  redirect : ∀ context services target,
    (guard context services).redirect = some target → target ∈ retreats

/-- The guards of the pages that show no document. -/
theorem inward_guards_routes :
    (routes.filter fun d => !showsDocument d.name).filterMap (·.guard) =
      [requireLogin, storageTitle, storageMessageTrail, configurationDetails, releaseKnown] := rfl

/-- The guards of pages that show no document are inward. -/
theorem isInward_of_mem {guard : Guard}
    (h : guard ∈ (routes.filter fun d => !showsDocument d.name).filterMap (·.guard)) : IsInward guard := by
  suffices hall : ∀ context services, (guard context services).services = services ∧
      (guard context services).metadata.extra? embeddedUrl = context.metadata.extra? embeddedUrl ∧
      ∀ target, (guard context services).redirect = some target → target ∈ retreats from
    ⟨fun c s => (hall c s).1, fun c s => (hall c s).2.1, fun c s => (hall c s).2.2⟩
  intro context services
  rw [inward_guards_routes] at h
  simp only [List.mem_cons, List.not_mem_nil, or_false] at h
  rcases h with rfl | rfl | rfl | rfl | rfl
  · unfold requireLogin
    split <;> simp [Guard.proceed, Guard.redirectTo, retreats]
  · simp [storageTitle, Guard.proceed, RouteMetadata.extra?]
  · simp [storageMessageTrail, Guard.proceed, RouteMetadata.extra?]
  · unfold configurationDetails
    dsimp only
    split <;> simp [Guard.proceed, Guard.redirectTo, RouteMetadata.extra?, retreats, exits]
  · unfold releaseKnown
    split <;> simp [Guard.proceed, Guard.redirectTo, RouteMetadata.extra?, RouteMetadata.setExtra,
      embeddedUrl, retreats, exits]

/-- Guards that have nothing to do with documents have nothing to do with them together. -/
theorem isInward_runAll {guards : List Guard} (h : ∀ guard ∈ guards, IsInward guard) :
    IsInward fun context services =>
      Guard.runAll context.routeName context.params guards context.metadata services := by
  induction guards with
  | nil => exact ⟨fun _ _ => rfl, fun _ _ => rfl, fun _ _ _ h => by cases h⟩
  | cons guard guards ih =>
    obtain ⟨hguard, hguards⟩ := List.forall_mem_cons.mp h
    have hmore := ih hguards
    constructor
    · intro context services
      have hfirst := hguard.services context services
      cases hredirect : (guard context services).redirect with
      | some target => simpa only [Guard.runAll, hredirect] using hfirst
      | none =>
        simp only [Guard.runAll, hredirect]
        exact (hmore.services { context with metadata := (guard context services).metadata } _).trans hfirst
    · intro context services
      have hfirst := hguard.extra context services
      cases hredirect : (guard context services).redirect with
      | some target => simpa only [Guard.runAll, hredirect] using hfirst
      | none =>
        simp only [Guard.runAll, hredirect]
        exact (hmore.extra { context with metadata := (guard context services).metadata } _).trans hfirst
    · intro context services target htarget
      cases hredirect : (guard context services).redirect with
      | some first =>
        simp only [Guard.runAll, hredirect] at htarget
        obtain rfl := Option.some.inj htarget
        exact hguard.redirect context services _ hredirect
      | none =>
        simp only [Guard.runAll, hredirect] at htarget
        exact hmore.redirect { context with metadata := (guard context services).metadata } _ target htarget

/-- The guards of the pages that show documents. -/
theorem outward_guards_routes :
    (routes.filter fun d => showsDocument d.name).map (fun d => (d.name, d.guard)) =
      [(customPage, some customView), ("pages.larva", some (embed "larva")),
        ("pages.ladybug", some (embed "iaf/testtool")), ("pages.ladybug_beta", some (embed "iaf/ladybug"))] :=
  rfl

/-- Pages that show documents stand directly below the layout, and nothing stands below them. -/
theorem documents_apart :
    (routes.all fun d =>
      if showsDocument d.name then ancestorNames d.name == [layoutName]
      else (d.chain routes).all fun q => !showsDocument q.name) = true := by
  decide +kernel

/-- No page embeds a document before its guards have run. -/
theorem nothing_embedded :
    (routes.all fun d => d.metadata.all fun m => m.extra? embeddedUrl == none) = true := by
  decide +kernel

section

variable {t : RouteTable} (wf : t.Built routes) {r : CompiledRoute} (hr : r ∈ t.routes)
include wf hr

/-- All guards of a page that shows no document are inward, those of its lineage included. -/
theorem isInward_of_mem_guards (h : showsDocument r.name = false) {guard : Guard} (hguard : guard ∈ r.guards) :
    IsInward guard := by
  have hapart := List.all_eq_true.mp documents_apart r.definition (wf.definition_mem hr)
  rw [show showsDocument r.definition.name = false from h] at hapart
  obtain ⟨q, hq, hown⟩ := List.mem_filterMap.mp hguard
  have hregistered := (((wf.isLineage_chain hr).members q).mp hq).1
  rw [(wf.compiled r hr).chain] at hq
  have hplain := List.all_eq_true.mp hapart q hq
  exact isInward_of_mem (List.mem_filterMap.mpr ⟨q, List.mem_filter.mpr ⟨hregistered, hplain⟩, hown⟩)

/-- A page that shows a document requires a signed-in user first. -/
theorem guards_of_showsDocument (h : showsDocument r.name = true) :
    (r.name = customPage ∧ r.guards = [requireLogin, customView]) ∨
      ∃ document, embedded.lookup r.name = some document ∧ r.guards = [requireLogin, embed document] := by
  have hregistered := wf.definition_mem hr
  have hapart := List.all_eq_true.mp documents_apart r.definition hregistered
  rw [show showsDocument r.definition.name = true from h, if_pos rfl, beq_iff_eq] at hapart
  obtain ⟨layout, hlayout, hlogin⟩ := Option.bind_eq_some_iff.mp guard_layout
  have hchain : r.chain = [layout, r.definition] := by
    rw [(wf.compiled r hr).chain, chain, hapart, List.filterMap_cons_some hlayout]
    rfl
  have hown : (r.name, r.definition.guard) ∈
      (routes.filter fun d => showsDocument d.name).map fun d => (d.name, d.guard) :=
    List.mem_map.mpr ⟨r.definition, List.mem_filter.mpr ⟨hregistered, h⟩, rfl⟩
  have hguards : ∀ guard, r.definition.guard = some guard → r.guards = [requireLogin, guard] := by
    intro guard hguard
    simp [CompiledRoute.guards, hchain, hlogin, hguard]
  rw [outward_guards_routes] at hown
  simp only [List.mem_cons, Prod.mk.injEq, List.not_mem_nil, or_false] at hown
  rcases hown with ⟨hname, hguard⟩ | ⟨hname, hguard⟩ | ⟨hname, hguard⟩ | ⟨hname, hguard⟩
  · exact .inl ⟨hname, hguards _ hguard⟩
  · exact .inr ⟨"larva", by rw [hname]; rfl, hguards _ hguard⟩
  · exact .inr ⟨"iaf/testtool", by rw [hname]; rfl, hguards _ hguard⟩
  · exact .inr ⟨"iaf/ladybug", by rw [hname]; rfl, hguards _ hguard⟩

/-- No page declares a document to be embedded. -/
theorem extra_metadata : r.metadata.extra? embeddedUrl = none := by
  rw [(wf.compiled r hr).metadata, CompiledRoute.compileMetadata]
  cases hfound : r.chain.reverse.findSome? (·.metadata) with
  | none => rfl
  | some m =>
    obtain ⟨d, hd, hm⟩ := List.exists_of_findSome?_eq_some hfound
    have hregistered := (((wf.isLineage_chain hr).members d).mp (List.mem_reverse.mp hd)).1
    have hnone := List.all_eq_true.mp nothing_embedded d hregistered
    rw [hm, Option.all_some, beq_iff_eq] at hnone
    exact hnone

end

/-! ## What an activation comes to -/

/-- The address that parameters ask to be shown. -/
def address (params : RouteParams) : String := (params.get? "url").getD ""

/-- The window that parameters ask a page to be opened in. -/
def window (params : RouteParams) : String := (params.get? "name").getD ""

/-- Whether this is the address of a page outside the console. -/
def IsForeign (address : String) : Prop := "http".toList <:+: address.toList

/-- Whether an address is that of a foreign page can be read off it. -/
instance (address : String) : Decidable (IsForeign address) := decidable_of_iff _ Text.occursIn_iff

/-- The empty address is not that of a foreign page. -/
theorem not_isForeign_empty : ¬ IsForeign "" := by
  intro h
  simp [IsForeign] at h

/-- What the guard of the page does that shows or opens what it is asked for. -/
theorem customView_cases (context : GuardContext) (services : GuardServices) :
    (address context.params = "" ∧
      customView context services =
        Guard.redirectTo (toRoute "pages.status") context.metadata services) ∨
    (IsForeign (address context.params) ∧
      customView context services =
        Guard.proceed (context.metadata.setExtra openedUrl (address context.params))
          (services.openPage (address context.params) (window context.params))) ∨
    (address context.params ≠ "" ∧ ¬ IsForeign (address context.params) ∧
      customView context services =
        Guard.proceed
          (context.metadata.setExtra embeddedUrl (services.serverPath ++ address context.params))
          services) := by
  unfold customView
  dsimp only
  rw [show paramText context "url" = address context.params from rfl]
  split
  · rename_i hempty
    exact .inl ⟨by simpa using hempty, rfl⟩
  · rename_i hgiven
    split
    · rename_i hforeign
      exact .inr (.inl ⟨Text.occursIn_iff.mp hforeign, rfl⟩)
    · rename_i hinside
      exact .inr (.inr ⟨by simpa using hgiven, fun h => hinside (Text.occursIn_iff.mpr h), rfl⟩)

/-- A page with one guard of its own shows what this guard leaves, to signed-in users. -/
theorem result_of_guards {a : Activation} {guard : Guard} (h : a.route.guards = [requireLogin, guard]) :
    a.result =
      if a.services.signedIn then guard ⟨a.route.name, a.params, a.route.metadata⟩ a.services
      else Guard.redirectTo (toRoute "login") a.route.metadata a.services := by
  rw [Activation.result, h]
  cases hsigned : a.services.signedIn with
  | false => simp [Guard.runAll, requireLogin, hsigned, Guard.redirectTo]
  | true =>
    simp only [Guard.runAll, requireLogin, hsigned, if_true, Guard.proceed]
    generalize guard ⟨a.route.name, a.params, a.route.metadata⟩ a.services = result
    obtain ⟨redirect, metadata, services⟩ := result
    cases redirect <;> rfl

/-- What an activation of a page of the console comes to. -/
inductive Outcome (a : Activation) : Prop where
  /-- It is redirected, and nothing is opened. -/
  | retreats (target : Destination) (listed : target ∈ retreats) (redirect : a.result.redirect = some target)
      (services : a.result.services = a.services)
      (unasked : ¬ (a.route.name = customPage ∧ a.services.signedIn = true ∧ IsForeign (address a.params)))
  /-- The page is shown, with its own document if it has one. -/
  | shown (ordinary : a.route.name ≠ customPage) (passed : a.result.redirect = none)
      (services : a.result.services = a.services)
      (extra : a.result.metadata.extra? embeddedUrl =
        (embedded.lookup a.route.name).map fun document => a.services.serverPath ++ document)
  /-- A document of the server is shown that was asked for. -/
  | framed (custom : a.route.name = customPage) (passed : a.result.redirect = none)
      (services : a.result.services = a.services) (asked : address a.params ≠ "")
      (inside : ¬ IsForeign (address a.params))
  /-- A page outside is opened that was asked for. -/
  | opened (custom : a.route.name = customPage) (passed : a.result.redirect = none)
      (signedIn : a.services.signedIn = true) (foreign : IsForeign (address a.params))
      (services : a.result.services = a.services.openPage (address a.params) (window a.params))

/-- **Every activation comes to one of these.** -/
theorem outcome {t : RouteTable} (wf : t.Built routes) {a : Activation} (ha : a.route ∈ t.routes) :
    Outcome a := by
  -- Most pages have inward guards only; the others have `requireLogin` and one guard of their own.
  cases hdocument : showsDocument a.route.name with
  | false =>
    obtain ⟨hcustom, hlookup⟩ : a.route.name ≠ customPage ∧ embedded.lookup a.route.name = none := by
      simpa [showsDocument] using hdocument
    have hinward := isInward_runAll fun guard hguard => isInward_of_mem_guards wf ha hdocument hguard
    have hservices : a.result.services = a.services :=
      hinward.services ⟨a.route.name, a.params, a.route.metadata⟩ a.services
    cases hresult : a.result.redirect with
    | some target =>
      have hlisted : target ∈ retreats :=
        hinward.redirect ⟨a.route.name, a.params, a.route.metadata⟩ a.services target hresult
      exact .retreats target hlisted hresult hservices fun h => hcustom h.1
    | none =>
      have hextra : a.result.metadata.extra? embeddedUrl = a.route.metadata.extra? embeddedUrl :=
        hinward.extra ⟨a.route.name, a.params, a.route.metadata⟩ a.services
      refine .shown hcustom hresult hservices ?_
      rw [hextra, extra_metadata wf ha, hlookup]
      rfl
  | true =>
    rcases guards_of_showsDocument wf ha hdocument with ⟨hcustom, hguards⟩ | ⟨document, hlookup, hguards⟩
    · have hresult := result_of_guards hguards
      cases hsigned : a.services.signedIn with
      | false =>
        rw [hsigned, if_neg Bool.false_ne_true] at hresult
        exact .retreats (toRoute "login") (by simp [retreats]) (by rw [hresult]; rfl) (by rw [hresult]; rfl)
          fun h => by simp [hsigned] at h
      | true =>
        rw [hsigned, if_pos rfl] at hresult
        rcases customView_cases ⟨a.route.name, a.params, a.route.metadata⟩ a.services with
          ⟨hempty, hguard⟩ | ⟨hforeign, hguard⟩ | ⟨hasked, hinside, hguard⟩
        · rw [hguard] at hresult
          refine .retreats (toRoute "pages.status") (by simp [retreats, exits]) (by rw [hresult]; rfl)
            (by rw [hresult]; rfl) ?_
          rintro ⟨_, _, hforeign⟩
          rw [show address a.params = "" from hempty] at hforeign
          exact not_isForeign_empty hforeign
        · rw [hguard] at hresult
          exact .opened hcustom (by rw [hresult]; rfl) hsigned hforeign (by rw [hresult]; rfl)
        · rw [hguard] at hresult
          exact .framed hcustom (by rw [hresult]; rfl) (by rw [hresult]; rfl) hasked hinside
    · have hcustom : a.route.name ≠ customPage := by
        intro hname
        rw [hname] at hlookup
        cases hlookup
      have hresult := result_of_guards hguards
      cases hsigned : a.services.signedIn with
      | false =>
        rw [hsigned, if_neg Bool.false_ne_true] at hresult
        exact .retreats (toRoute "login") (by simp [retreats]) (by rw [hresult]; rfl) (by rw [hresult]; rfl)
          fun h => hcustom h.1
      | true =>
        rw [hsigned, if_pos rfl, embed] at hresult
        refine .shown hcustom (by rw [hresult]; rfl) (by rw [hresult]; rfl) ?_
        rw [hresult, hlookup]
        simp [Guard.proceed, RouteMetadata.setExtra, RouteMetadata.extra?]

/-! ## Destinations that ask for nothing -/

/-- Whether a destination gives no address to the page that shows or opens documents. -/
def AsksNothing (t : RouteTable) (destination : Destination) : Prop :=
  ∀ found, t.arrival destination = .ok found → found.1.name = customPage → address found.2 = ""

/-- What it means that a resolution opens nothing, and shows no document but those that pages have. -/
structure StaysInside (services : GuardServices) (resolution : Resolution) : Prop where
  untouched : resolution.services = services
  page : ∀ route, resolution.result = .ok route → route.name ≠ customPage
  extra : ∀ route, resolution.result = .ok route → route.metadata.extra? embeddedUrl =
    (embedded.lookup route.name).map fun document => services.serverPath ++ document

/-- What an entry asks to be opened outside: the page it gives an address of, where this is foreign and the user
is signed in. -/
def requested (services : GuardServices) : RouteEntry → List (String × String)
  | .named name params =>
      if name = customPage ∧ services.signedIn = true ∧ IsForeign (address params) then
        [(address params, window params)]
      else []
  | _ => []

/-- A resolution by the name of another page asks for no foreign page. -/
theorem asksNothing_route {t : RouteTable} {name : String} (other : name ≠ customPage)
    (params : RouteParams) : AsksNothing t (.route name params) := by
  intro found harrival hcustom
  obtain ⟨r, hr, rfl⟩ := Result.ok_of_map harrival
  exact absurd ((RouteTable.of_concrete hr).2.1.symm.trans hcustom) other

section

variable {t : RouteTable} (s : Surveyed t)
include s

/-- The page that shows or opens documents declares no address in its URL. -/
theorem isSealed_of_custom {r : CompiledRoute} (hr : r ∈ t.routes) (custom : r.name = customPage) :
    isSealed r = true := by
  obtain ⟨r', hr', hsealed⟩ := (Option.any_eq_true _ _).mp s.custom
  obtain ⟨hmem, hname, _⟩ := RouteTable.of_concrete (Result.ok_of_toOption hr')
  rw [s.built.eq_of_name_eq hr hmem (custom.trans hname.symm)]
  exact hsealed

/-- What is not captured of the address and the window is taken from the supplied parameters. -/
theorem asked_materialize {r : CompiledRoute} (hr : r ∈ t.routes) (custom : r.name = customPage)
    (captured supplied : Dictionary String) :
    (captured.get? "url" = none →
      address (r.schema.materialize captured supplied) = address supplied) ∧
    (captured.get? "name" = none →
      window (r.schema.materialize captured supplied) = window supplied) := by
  have nodup := (s.built.compiled r hr).nodup_names
  have hsealed := isSealed_of_custom s hr custom
  simp only [isSealed, Bool.and_eq_true, beq_iff_eq] at hsealed
  obtain ⟨⟨haddress, hwindow⟩, _⟩ := hsealed
  exact ⟨fun h => ParamSchema.getD_materialize nodup haddress h supplied,
    fun h => ParamSchema.getD_materialize nodup hwindow h supplied⟩

/-- **A path asks for nothing**, with any query. -/
theorem asksNothing_path (path : String) (query : Dictionary String) : AsksNothing t (.path path query) := by
  rintro found harrival hcustom
  obtain ⟨hr, _⟩ := s.built.of_arrival harrival
  obtain ⟨m, leads⟩ := s.built.exists_leadsTo path
  rw [RouteTable.arrival, s.built.lead_eq leads] at harrival
  obtain rfl := Except.ok.inj harrival
  -- The match was chosen for this path, or for the default path if nothing matches.
  obtain ⟨path', hmatch⟩ : ∃ path', t.match? path' = some m := by
    rcases leads with hmatch | ⟨_, hmatch⟩
    · exact ⟨path, hmatch⟩
    · exact ⟨t.defaultPath, hmatch⟩
  obtain ⟨_, hown⟩ := RouteTable.mem_of_choose hmatch
  obtain ⟨_, _, p, hp, hcaptured, _⟩ := CompiledRoute.of_match? hown
  have hsealed := isSealed_of_custom s hr hcustom
  simp only [isSealed, hp, Option.all_some, Bool.and_eq_true, Bool.not_eq_true', Pattern.declares,
    Bool.or_eq_false_iff] at hsealed
  obtain ⟨_, hpath, hquery⟩ := hsealed
  have hunseen : m.captured.get? "url" = none :=
    Pattern.get?_eq_none_of_match? hcaptured (by simpa using hpath)
  rw [(asked_materialize s hr hcustom _ _).1 hunseen, hp, RouteTable.declaredQuery, address,
    Dictionary.get?_filterKeys, hquery]
  rfl

/-- Nothing is asked for where the guards redirect to. -/
theorem asksNothing_of_mem_retreats {target : Destination} (h : target ∈ retreats) : AsksNothing t target := by
  simp only [retreats, exits, List.mem_cons, List.not_mem_nil, or_false] at h
  rcases h with rfl | rfl | rfl | rfl
  · exact asksNothing_route (by decide) _
  · exact asksNothing_route (by decide) _
  · exact asksNothing_route (by decide) _
  · exact asksNothing_path s _ _

/-- **Where nothing is asked for** a resolution stays inside. -/
theorem staysInside_follow {destination : Destination} (h : AsksNothing t destination) (left : Nat)
    (trail : List String) (services : GuardServices) :
    StaysInside services (t.follow left trail destination services) := by
  suffices hends : (t.follow left trail destination services).services = services ∧
      ∀ route, (t.follow left trail destination services).result = .ok route →
        route.name ≠ customPage ∧ route.metadata.extra? embeddedUrl =
          (embedded.lookup route.name).map fun document => services.serverPath ++ document from
    ⟨hends.1, fun route hroute => (hends.2 route hroute).1, fun route hroute => (hends.2 route hroute).2⟩
  -- All along the redirects nothing is asked for, and the services are those of the beginning.
  refine @RouteTable.ends_of_step t (fun target found => AsksNothing t target ∧ found = services)
    (fun result found => found = services ∧ ∀ route, result = .ok route →
      route.name ≠ customPage ∧ route.metadata.extra? embeddedUrl =
        (embedded.lookup route.name).map fun document => services.serverPath ++ document)
    ?_ ?_ ?_ left trail destination services ⟨h, rfl⟩
  · rintro destination found e ⟨_, rfl⟩ _
    exact ⟨rfl, fun route hroute => by cases hroute⟩
  · rintro destination found source target after ⟨_, rfl⟩ hstep
    obtain ⟨r, params, harrival, _, hredirect, rfl⟩ := RouteTable.of_step_redirect hstep
    have houtcome : Outcome ⟨r, params, found⟩ := outcome s.built (s.built.of_arrival harrival).1
    cases houtcome with
    | retreats other listed redirect same =>
      obtain rfl := Option.some.inj (hredirect.symm.trans redirect)
      exact ⟨asksNothing_of_mem_retreats s listed, same⟩
    | shown _ passed => cases hredirect.symm.trans passed
    | framed _ passed => cases hredirect.symm.trans passed
    | opened _ passed => cases hredirect.symm.trans passed
  · rintro destination found route after trail ⟨hasks, rfl⟩ hstep
    obtain ⟨r, params, harrival, hpassed, hdefinition, _, hmetadata, rfl⟩ :=
      RouteTable.of_step_resolved hstep
    have houtcome : Outcome ⟨r, params, found⟩ := outcome s.built (s.built.of_arrival harrival).1
    cases houtcome with
    | retreats _ _ redirect => cases hpassed.symm.trans redirect
    | shown ordinary _ same extra =>
      refine ⟨same, ?_⟩
      rintro other ⟨⟩
      rw [ResolvedRoute.name, hdefinition, hmetadata]
      exact ⟨ordinary, extra⟩
    | framed custom _ _ asked => exact absurd (hasks _ harrival custom) asked
    | opened custom _ _ foreign =>
      rw [show address params = "" from hasks _ harrival custom] at foreign
      exact absurd foreign not_isForeign_empty

/-! ## What is opened -/

/-- **The page that shows or opens documents opens** what it is asked for if that is outside the console. -/
theorem services_resolve_custom (params : RouteParams) (services : GuardServices) :
    (t.resolve (.route customPage params) services).services =
      { services with opened := services.opened ++ requested services (.named customPage params) } := by
  obtain ⟨r, hfound, _⟩ := (Option.any_eq_true _ _).mp s.custom
  have hconcrete := Result.ok_of_toOption hfound
  obtain ⟨hr, hname, _⟩ := RouteTable.of_concrete hconcrete
  have harrival : t.arrival (.route customPage params) =
      .ok (r, r.schema.materialize Dictionary.empty params) := by
    rw [RouteTable.arrival, hconcrete]
    rfl
  obtain ⟨haddress, hwindow⟩ := asked_materialize s hr hname Dictionary.empty params
  have hasked := haddress (Dictionary.get?_empty "url")
  have houtcome : Outcome ⟨r, r.schema.materialize Dictionary.empty params, services⟩ := outcome s.built hr
  cases houtcome with
  | retreats target listed redirect same unasked =>
    obtain ⟨left, hleft⟩ : ∃ left, RouterError.maxRedirects = left + 1 := ⟨_, rfl⟩
    have hinside := staysInside_follow s (asksNothing_of_mem_retreats s listed) left [r.name] services
    have hnothing : requested services (.named customPage params) = [] := by
      rw [hname, hasked] at unasked
      exact if_neg unasked
    rw [hnothing, List.append_nil, RouteTable.resolve, hleft, RouteTable.follow,
      RouteTable.step_of_redirect harrival redirect, same]
    exact hinside.untouched
  | shown ordinary => exact absurd hname ordinary
  | framed custom passed same asked inside =>
    have hnothing : requested services (.named customPage params) = [] := by
      rw [hasked] at inside
      exact if_neg fun h => inside h.2.2
    rw [hnothing, List.append_nil, RouteTable.resolve, RouteTable.follow_of_passed harrival passed]
    exact same
  | opened custom passed signedIn foreign same =>
    have hrequested : requested services (.named customPage params) = [(address params, window params)] := by
      rw [hasked] at foreign
      exact if_pos ⟨rfl, signedIn, foreign⟩
    rw [hasked, hwindow (Dictionary.get?_empty "name")] at same
    rw [hrequested, RouteTable.resolve, RouteTable.follow_of_passed harrival passed]
    exact same

end

/-- **No URL opens or embeds a foreign page.** The console's table is built. Whoever the user is and whatever the
session holds, a URL or path with any query stays inside: nothing is opened, the page that shows or opens
documents is not reached, and what is embedded is the document of one of three pages. All that is opened in any
way is what an entry asks for by the name of that page, once, and nothing else is done to the services. -/
theorem no_foreign_page :
    ∃ t, table = .ok t ∧ ∀ services,
      (∀ url, StaysInside services (t.resolveUrl url services)) ∧
      (∀ path query, StaysInside services (t.resolvePath path query services)) ∧
      ∀ entry, (t.enter services entry).services =
        { services with opened := services.opened ++ requested services entry } := by
  obtain ⟨t, htable, s⟩ := exists_surveyed
  have hpath : ∀ services path query, StaysInside services (t.resolvePath path query services) :=
    fun services path query => staysInside_follow s (asksNothing_path s path query) _ [] services
  refine ⟨t, htable, fun services => ⟨fun url => hpath services _ _, hpath services, ?_⟩⟩
  intro entry
  cases entry with
  | path path query => simp [RouteTable.enter, (hpath services path query).untouched, requested]
  | url url =>
    have hurl : (t.resolveUrl url services).services = services := (hpath services _ _).untouched
    simp [RouteTable.enter, hurl, requested]
  | named name params =>
    by_cases hname : name = customPage
    · subst hname
      exact services_resolve_custom s params services
    · have hinside : StaysInside services (t.resolveNamed name params services) :=
        staysInside_follow s (asksNothing_route hname params) _ [] services
      simp [RouteTable.enter, requested, hname, hinside.untouched]

example :
    requested RouteTable.signedInServices
        (.named customPage (Dictionary.ofList [("name", "docs"), ("url", "http://localhost/")])) =
      [("http://localhost/", "docs")] := by
  decide

end AdminConsole.Site
