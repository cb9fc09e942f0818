import AdminConsole.Proofs.Pattern.Composition
import AdminConsole.Proofs.Route.Built
import AdminConsole.Proofs.Route.Declarations
import AdminConsole.Proofs.Route.Lineage

/-!
# What nested routes inherit

A route inherits from the registered routes whose names are the beginnings of its own, wherever these stand in
the list. Main statement: the URL is put together from the fragments of its lineage, the bundles are those of
all levels in order, a parameter has the descriptor that the innermost level gives it last, the names of the
parameters stand in the order in which they were first met, and the metadata is that of the innermost level
that has any.
-/

set_option autoImplicit false

namespace AdminConsole

/-- Whether the last member of a list that gives anything gives this. -/
def LastGives {α β : Type} (give : α → Option β) (xs : List α) (b : β) : Prop :=
  ∃ before x after, xs = before ++ x :: after ∧ give x = some b ∧ ∀ y ∈ after, give y = none

/-- What is found first from the end is what the last member gives that gives anything. -/
theorem findSome?_reverse_eq_some_iff {α β : Type} {give : α → Option β} {xs : List α} {b : β} :
    xs.reverse.findSome? give = some b ↔ LastGives give xs b := by
  rw [List.findSome?_eq_some_iff]
  constructor
  · rintro ⟨later, x, earlier, hsplit, hgives, hlater⟩
    refine ⟨earlier.reverse, x, later.reverse, ?_, hgives, fun y hy => hlater y (List.mem_reverse.mp hy)⟩
    rw [← List.reverse_reverse xs, hsplit]
    simp
  · rintro ⟨before, x, after, rfl, hgives, hafter⟩
    exact ⟨after.reverse, x, before.reverse, by simp, hgives, fun y hy => hafter y (List.mem_reverse.mp hy)⟩

namespace RouteTable

/-- What a route has from the levels of its lineage, which declared these parameters. -/
structure Inherits (t : RouteTable) (r : CompiledRoute) (lineage : List RouteDefinition)
    (declared : RouteDefinition → List (String × ParamDescriptor)) : Prop where
  found : t.find? r.name = some r
  missing : t.patternOf? r.name = none ↔ ∀ q ∈ lineage, q.url = none
  /-- Only a layout can be without a URL. -/
  layout : t.patternOf? r.name = none → r.definition.isLayout = true
  /-- The URL is read from the composed fragments, and is nothing but these fragments in their order. -/
  pattern : ∀ p, t.patternOf? r.name = some p →
    Pattern.compile (Pattern.compose (lineage.filterMap (·.url))) = .ok p ∧
      p.pieces.flatMap Piece.spelled = (lineage.filterMap (·.url)).flatMap Pattern.fragmentPath ∧
      p.queryNames = (lineage.filterMap (·.url)).flatMap Pattern.fragmentNames
  dependencies : r.dependencies = (lineage.flatMap (·.dependencies)).eraseDups
  descriptor : ∀ name x, r.schema.descriptor? name = some x ↔
    LastGives (fun q => lastDeclared? (declared q) name) lineage x
  names : t.paramNames? r.name =
    some (((t.patternOf? r.name).elim [] fun p => p.paramNames ++ p.queryNames) ++
      lineage.flatMap fun q => (declared q).map (·.1)).eraseDups
  metadata : ∀ m, LastGives (·.metadata) lineage m → r.metadata = m
  bare : (∀ q ∈ lineage, q.metadata = none) → r.metadata = RouteMetadata.empty

variable {definitions : List RouteDefinition} {t : RouteTable}

/-- A lineage composes no URL if no member has one. -/
theorem composedUrl?_eq_none_iff (chain : List RouteDefinition) :
    CompiledRoute.composedUrl? chain = none ↔ ∀ q ∈ chain, q.url = none := by
  rw [← List.filterMap_eq_nil_iff, CompiledRoute.composedUrl?]
  split <;> simp_all

/-- A pattern is missing only where there is no fragment, and then the route is a layout. -/
theorem of_compilePattern_none {d : RouteDefinition} {chain : List RouteDefinition}
    (h : CompiledRoute.compilePattern d chain = .ok none) :
    (∀ q ∈ chain, q.url = none) ∧ d.isLayout = true := by
  unfold CompiledRoute.compilePattern at h
  split at h
  · rename_i hurl
    split at h
    · rename_i hlayout
      exact ⟨(composedUrl?_eq_none_iff chain).mp hurl, hlayout⟩
    · cases h
  · split at h <;> cases h

/-- A pattern that is not missing was read from the fragments. -/
theorem of_compilePattern_some {d : RouteDefinition} {chain : List RouteDefinition} {p : Pattern}
    (h : CompiledRoute.compilePattern d chain = .ok (some p)) :
    chain.filterMap (·.url) ≠ [] ∧
      Pattern.compile (Pattern.compose (chain.filterMap (·.url))) = .ok p := by
  obtain ⟨url, hurl, hcompile⟩ := CompiledRoute.compile_of_compilePattern h
  unfold CompiledRoute.composedUrl? at hurl
  split at hurl
  · cases hurl
  · rename_i hfragments
    cases hurl
    exact ⟨hfragments, hcompile⟩

/-- A compiled route inherits from its lineage, if the lineage consists of declared routes. -/
theorem inherits_of_compiled (wf : t.Built definitions)
    {declared : RouteDefinition → List (String × ParamDescriptor)}
    (hdeclared : ∀ q ∈ definitions, q.params = declareAll (declared q)) {r : CompiledRoute}
    (hr : r ∈ t.routes) (hchain : ∀ q ∈ r.chain, q ∈ definitions) : t.Inherits r r.chain declared := by
  have compiled := wf.compiled r hr
  have hfound := wf.find?_eq_some hr
  have hpattern : t.patternOf? r.name = r.pattern := by rw [patternOf?, hfound, Option.bind_some]
  have hparams : ∀ q ∈ r.chain, q.params = declareAll (declared q) := fun q hq => hdeclared q (hchain q hq)
  refine ⟨hfound, ?_, ?_, ?_, compiled.dependencies, ?_, ?_, ?_, ?_⟩
  · rw [hpattern]
    constructor
    · intro hnone
      exact (of_compilePattern_none (hnone ▸ compiled.pattern)).1
    · intro hnone
      cases hp : r.pattern with
      | none => rfl
      | some p =>
        obtain ⟨hfragments, _⟩ := of_compilePattern_some (hp ▸ compiled.pattern)
        exact absurd (List.filterMap_eq_nil_iff.mpr hnone) hfragments
  · rw [hpattern]
    intro hnone
    exact (of_compilePattern_none (hnone ▸ compiled.pattern)).2
  · rw [hpattern]
    intro p hp
    obtain ⟨_, hcompile⟩ := of_compilePattern_some (hp ▸ compiled.pattern)
    exact ⟨hcompile, Pattern.of_compile_compose hcompile⟩
  · intro name x
    rw [compiled.schema, CompiledRoute.descriptor?_compileSchema r.pattern hparams,
      findSome?_reverse_eq_some_iff]
  · rw [hpattern, paramNames?, hfound, Option.map_some, compiled.schema,
      CompiledRoute.names_compileSchema r.pattern hparams]
  · intro m hm
    rw [compiled.metadata, CompiledRoute.compileMetadata, findSome?_reverse_eq_some_iff.mpr hm, Option.getD_some]
  · intro hnone
    have hnothing : r.chain.reverse.findSome? (·.metadata) = none :=
      List.findSome?_eq_none_iff.mpr fun q hq => hnone q (List.mem_reverse.mp hq)
    rw [compiled.metadata, CompiledRoute.compileMetadata, hnothing, Option.getD_none]

/-- **Nesting is the dotted name**: in every table that is built, each registered route has one lineage, which is
made of the registered routes whose names with a dot begin its own, and inherits from it by the rule that
belongs to each thing. -/
theorem inherits_of_build {defaultPath : String} (built : build definitions defaultPath = .ok t)
    {declared : RouteDefinition → List (String × ParamDescriptor)}
    (hdeclared : ∀ q ∈ definitions, q.params = declareAll (declared q)) {d : RouteDefinition}
    (hd : d ∈ definitions) :
    ∃ r lineage, r.definition = d ∧ RouteDefinition.IsLineage definitions d lineage ∧
      (∀ other, RouteDefinition.IsLineage definitions d other → other = lineage) ∧
      t.Inherits r lineage declared := by
  obtain ⟨wf, _⟩ := of_build built
  obtain ⟨r, hr, rfl⟩ := List.mem_map.mp (wf.registered.symm ▸ hd)
  have hlineage := RouteDefinition.isLineage_chain wf.nodup hd
  have hchain := (wf.compiled r hr).chain
  rw [← hchain] at hlineage
  refine ⟨r, r.chain, rfl, hlineage, fun other hother => hother.eq hlineage, ?_⟩
  exact inherits_of_compiled wf hdeclared hr fun q hq => ((hlineage.members q).mp hq).1

/-- An item of a shop, which describes its tab twice. -/
def shopItem : RouteDefinition :=
  ((((RouteDefinition.named "shop.old.item").withUrl "/item/:id?log").withParam "tab"
    (ParamDescriptor.value "all")).withParam "id" ParamDescriptor.absent).withParam "tab"
      (ParamDescriptor.value "new").squashed

/-- The shop is registered after the item, and the level between the two is not registered. -/
def shopRoutes : List RouteDefinition :=
  [shopItem, (((RouteDefinition.named "shop").asLayout.withUrl "/shop?tab").withParam "tab"
    (ParamDescriptor.value "old")).withMetadata (RouteMetadata.titled "Shop")]

/-- What the routes of the shop declared. -/
def shopDeclared (d : RouteDefinition) : List (String × ParamDescriptor) :=
  if d.isLayout then [("tab", ParamDescriptor.value "old")]
  else [("tab", ParamDescriptor.value "all"), ("id", ParamDescriptor.absent),
    ("tab", (ParamDescriptor.value "new").squashed)]

/-- The item's URL begins with that of the shop; it has the last of its own descriptors, and the shop's title. -/
theorem inherits_of_build_shop :
    ∃ t r lineage, build shopRoutes "/shop/item/1" = .ok t ∧
      (∀ q ∈ shopRoutes, q.params = declareAll (shopDeclared q)) ∧ shopItem ∈ shopRoutes ∧
      r.definition = shopItem ∧ lineage.map (·.name) = ["shop", "shop.old.item"] ∧
      t.Inherits r lineage shopDeclared ∧
      (t.patternOf? "shop.old.item").map (·.source) = some "/shop/item/:id?tab&log" ∧
      t.paramNames? "shop.old.item" = some ["id", "tab", "log"] ∧
      r.schema.descriptor? "tab" = some ⟨some "new", true⟩ ∧ r.metadata = RouteMetadata.titled "Shop" := by
  have hcheck : (build shopRoutes "/shop/item/1").toOption.map (fun t =>
      ((t.patternOf? "shop.old.item").map (·.source), t.paramNames? "shop.old.item",
        (t.find? "shop.old.item").map fun r => (r.schema.descriptor? "tab", r.metadata))) =
      some (some "/shop/item/:id?tab&log", some ["id", "tab", "log"],
        some (some ⟨some "new", true⟩, RouteMetadata.titled "Shop")) := by
    decide +kernel
  have hdeclared : ∀ q ∈ shopRoutes, q.params = declareAll (shopDeclared q) := by
    decide +kernel
  have hchain : (shopItem.chain shopRoutes).map (·.name) = ["shop", "shop.old.item"] := by
    decide +kernel
  have hitem : shopItem ∈ shopRoutes := List.mem_cons_self
  obtain ⟨t, htable, hvalues⟩ := Option.map_eq_some_iff.mp hcheck
  obtain ⟨hpattern, hrest⟩ := Prod.mk.inj hvalues
  obtain ⟨hnames, hroute⟩ := Prod.mk.inj hrest
  have built := Result.ok_of_toOption htable
  obtain ⟨r, lineage, hdefinition, _, honly, hinherits⟩ := inherits_of_build built hdeclared hitem
  have hlineage := honly _ (RouteDefinition.isLineage_chain (of_build built).1.nodup hitem)
  have hname : r.name = "shop.old.item" := by rw [CompiledRoute.name, hdefinition]; rfl
  rw [← hname, hinherits.found] at hroute
  obtain ⟨hdescriptor, hmetadata⟩ := Prod.mk.inj (Option.some.inj hroute)
  exact ⟨t, r, lineage, built, hdeclared, hitem, hdefinition, by rw [← hlineage, hchain], hinherits, hpattern,
    hnames, hdescriptor, hmetadata⟩

end RouteTable

end AdminConsole
