import AdminConsole.Proofs.Pattern.Grammar
import AdminConsole.Proofs.Route.Locations

/-!
# Which links come back from locations

The mark `!` in front of a fragment belongs to the location and not to the URL in it, and a `#` ends a path. So there
are links that are not read again as they were put in. Main statement: which links these are can be told from the
pattern of the route and the values that are empty. In a fragment they are those in which an exclamation mark comes
first, be it that parameters without text stand before it in the pattern. In a path they are those whose pattern has a
`#` in its path.
-/

set_option autoImplicit false

namespace AdminConsole

namespace Symbol

/-! ## Characters that no value is written with -/

/-- Whether a character comes first once values are filled in. Nothing stands before it but parameters with the empty
value. -/
inductive ComesFirst (values : Dictionary String) (c : Char) : List Symbol → Prop
  | char (more : List Symbol) : ComesFirst values c (.char c :: more)
  | param {spelling : Spelling} {name : String} {more : List Symbol} (empty : values.get? name = some "")
      (behind : ComesFirst values c more) : ComesFirst values c (.param spelling name :: more)

variable {values : Dictionary String} {c : Char} {symbols : List Symbol} {path : List Char}

/-- A path that is filled in starts with a character that values never contain exactly if the symbols bring it first.
-/
theorem head?_fill_iff (foreign : Percent.isWritten c = false)
    (filled : Pattern.fill values (pieces symbols) = some path) :
    path.head? = some c ↔ ComesFirst values c symbols := by
  induction symbols generalizing path with
  | nil =>
    obtain rfl : [] = path := Option.some.inj filled
    exact iff_of_false (by simp) (by nofun)
  | cons symbol symbols ih =>
    cases symbol with
    | char d =>
      rw [fill_char] at filled
      obtain ⟨rest, _, rfl⟩ := Option.map_eq_some_iff.mp filled
      constructor
      · intro hfirst
        obtain rfl := Option.some.inj hfirst
        exact .char symbols
      · intro hfirst
        cases hfirst
        rfl
    | param spelling name =>
      rw [fill_param] at filled
      obtain ⟨value, hvalue, hmore⟩ := Option.bind_eq_some_iff.mp filled
      obtain ⟨rest, hrest, rfl⟩ := Option.map_eq_some_iff.mp hmore
      cases hencoded : Percent.encodeChars value.toList with
      | nil =>
        -- An empty value leaves the start of the path to the symbols after it.
        have hempty : value = "" := String.toList_inj.mp (Percent.encodeChars_inj.mp hencoded)
        rw [List.nil_append, ih hrest]
        constructor
        · intro behind
          exact .param (hempty ▸ hvalue) behind
        · intro hfirst
          cases hfirst with
          | param empty behind => exact behind
      | cons d text =>
        -- A value is never written with the foreign character.
        have hwritten : Percent.isWritten d = true :=
          Percent.isWritten_of_mem_encodeChars (hencoded ▸ List.mem_cons_self)
        refine iff_of_false (fun hfirst => ?_) fun hfirst => ?_
        · obtain rfl := Option.some.inj hfirst
          exact Bool.false_ne_true (foreign.symm.trans hwritten)
        · cases hfirst with
          | param empty behind =>
            obtain rfl := Option.some.inj (hvalue.symm.trans empty)
            cases hencoded

/-- A path that is filled in contains a character that values never contain exactly if it is a symbol. -/
theorem mem_fill_iff (foreign : Percent.isWritten c = false)
    (filled : Pattern.fill values (pieces symbols) = some path) : c ∈ path ↔ .char c ∈ symbols := by
  induction symbols generalizing path with
  | nil =>
    obtain rfl : [] = path := Option.some.inj filled
    simp
  | cons symbol symbols ih =>
    cases symbol with
    | char d =>
      rw [fill_char] at filled
      obtain ⟨rest, hrest, rfl⟩ := Option.map_eq_some_iff.mp filled
      rw [List.mem_cons, List.mem_cons, ih hrest, Symbol.char.injEq]
    | param spelling name =>
      rw [fill_param] at filled
      obtain ⟨value, _, hmore⟩ := Option.bind_eq_some_iff.mp filled
      obtain ⟨rest, hrest, rfl⟩ := Option.map_eq_some_iff.mp hmore
      have hvalue : c ∉ Percent.encodeChars value.toList := Percent.not_mem_encodeChars foreign
      simp [hvalue, ih hrest]

end Symbol

namespace RouteTable

/-- What becomes of a link with these values that is put into the location of a browser. -/
structure Located (values : RouteParams) (pattern : Pattern) (url : String) : Prop where
  written : Symbol.Writes pattern.symbols (Pattern.splitQuery pattern.source.toList).1
  hash : LocationMode.hash.routeUrl (LocationMode.hash.location url) = url ↔
    ¬ Symbol.ComesFirst values '!' pattern.symbols
  html5 : LocationMode.html5.routeUrl (LocationMode.html5.location url) = url ↔
    '#' ∉ (Pattern.splitQuery pattern.source.toList).1
  noScheme : ¬ "://".toList <:+: url.toList

variable {definitions : List RouteDefinition} {t : RouteTable} {name url : String} {params : RouteParams}
  {r : CompiledRoute} {pattern : Pattern}

section

variable (wf : t.Built definitions) (found : t.concrete name = .ok r) (shape : r.pattern = some pattern)
  (link : t.href name params = .ok url)
include wf found shape link

/-- A link consists of a path that its pattern fills in and of a query. -/
theorem Built.exists_fill_of_href :
    ∃ path pairs, url = RouteUrl.assemble (String.ofList path) pairs ∧
      Pattern.fill (r.schema.materialize Dictionary.empty params) (Symbol.pieces pattern.symbols) = some path := by
  obtain ⟨source, accepted⟩ := (wf.compiled r (of_concrete found).1).accepted shape
  obtain ⟨path, hpath, rfl⟩ := of_href found shape link
  obtain ⟨chars, hfill, rfl⟩ := Option.map_eq_some_iff.mp hpath
  rw [(Pattern.grammatical_of_compile accepted).2] at hfill
  exact ⟨chars, _, rfl, hfill⟩

variable {c : Char} (foreign : Percent.isWritten c = false) (separator : c ∉ ['?', '&', '='])
include foreign separator

/-- A link starts with a character that values never contain exactly if the symbols of its pattern bring it first. -/
theorem Built.head?_href_iff :
    url.toList.head? = some c ↔
      Symbol.ComesFirst (r.schema.materialize Dictionary.empty params) c pattern.symbols := by
  obtain ⟨path, pairs, rfl, hfill⟩ := wf.exists_fill_of_href found shape link
  have hquery : c ≠ '?' := fun hsame => separator (by simp [hsame])
  rw [RouteUrl.head?_assemble_iff hquery, String.toList_ofList, Symbol.head?_fill_iff foreign hfill]

/-- A link contains a character that values never contain exactly if it is a symbol of its pattern. -/
theorem Built.mem_href_iff : c ∈ url.toList ↔ .char c ∈ pattern.symbols := by
  obtain ⟨path, pairs, rfl, hfill⟩ := wf.exists_fill_of_href found shape link
  rw [RouteUrl.mem_assemble_iff foreign separator, String.toList_ofList, Symbol.mem_fill_iff foreign hfill]

omit foreign separator

/-- A link is located as its pattern and its values decide. -/
theorem Built.located_href : Located (r.schema.materialize Dictionary.empty params) pattern url := by
  obtain ⟨source, accepted⟩ := (wf.compiled r (of_concrete found).1).accepted shape
  obtain ⟨_, _, _, _, rfl, _⟩ := Pattern.compile_eq_ok_iff.mp accepted
  have hwrites : Symbol.Writes pattern.symbols (Pattern.splitQuery pattern.source.toList).1 :=
    (Pattern.grammatical_of_compile accepted).1.path
  have hmark : url.toList.head? = some '!' ↔
      Symbol.ComesFirst (r.schema.materialize Dictionary.empty params) '!' pattern.symbols :=
    wf.head?_href_iff found shape link rfl (by decide)
  have hhash : '#' ∈ url.toList ↔ .char '#' ∈ pattern.symbols :=
    wf.mem_href_iff found shape link rfl (by decide)
  have hcolon : ':' ∉ url.toList := wf.colon_not_mem_href found shape link
  exact {
    written := hwrites
    hash := LocationMode.routeUrl_location_hash_iff.trans (not_congr hmark)
    html5 := by rw [LocationMode.routeUrl_location_html5_iff hcolon, hhash, hwrites.mem_iff (by decide) rfl]
    noScheme := fun hscheme => hcolon (hscheme.subset (by decide)) }

end

/-- **Which links come back.** In a fragment a link is read again unless an exclamation mark comes first in it, in a
path unless the path of its pattern has a `#`, and whatever its values are, it names no scheme. -/
theorem links_come_back_from_locations {defaultPath : String} (built : build definitions defaultPath = .ok t)
    (link : t.href name params = .ok url) :
    ∃ r pattern, t.concrete name = .ok r ∧ r.pattern = some pattern ∧
      Located (r.schema.materialize Dictionary.empty params) pattern url := by
  obtain ⟨r, pattern, _, found, shape, _⟩ := exists_href_iff.mp ⟨url, link⟩
  exact ⟨r, pattern, found, shape, (of_build built).1.located_href found shape link⟩

/-- A start page, and a page in any language whose path goes on with an exclamation mark. -/
def markedRoutes : List RouteDefinition :=
  [(RouteDefinition.named "home").withUrl "/", (RouteDefinition.named "about").withUrl ":lang!/about"]

/-- A value may look like a scheme or a fragment, because it is encoded. -/
theorem links_come_back_from_locations_about :
    ∃ t r pattern, build markedRoutes "/" = .ok t ∧
      t.href "about" (Dictionary.ofList [("lang", "nl://#")]) = .ok "nl%3A%2F%2F%23!/about" ∧
      t.concrete "about" = .ok r ∧ r.pattern = some pattern ∧
      Located (r.schema.materialize Dictionary.empty (Dictionary.ofList [("lang", "nl://#")])) pattern
        "nl%3A%2F%2F%23!/about" := by
  have hcheck : (build markedRoutes "/").toOption.map (fun t =>
      (t.href "about" (Dictionary.ofList [("lang", "nl://#")])).toOption) =
        some (some "nl%3A%2F%2F%23!/about") := by
    decide +kernel
  obtain ⟨t, htable, hlink⟩ := Option.map_eq_some_iff.mp hcheck
  have built := Result.ok_of_toOption htable
  have link := Result.ok_of_toOption hlink
  obtain ⟨r, pattern, found, shape, located⟩ := links_come_back_from_locations built link
  exact ⟨t, r, pattern, built, link, found, shape, located⟩

/-- The mark need not come first in the pattern: without a language it comes first in the link, and is taken for that
of the fragment. -/
theorem link_loses_mark_behind_empty_value :
    ∃ t, build markedRoutes "/" = .ok t ∧
      (t.concrete "about").toOption.bind (fun r => r.pattern.map Pattern.source) = some ":lang!/about" ∧
      t.href "about" (Dictionary.ofList [("lang", "")]) = .ok "!/about" ∧
      LocationMode.hash.routeUrl (LocationMode.hash.location "!/about") = "/about" := by
  have hcheck : (build markedRoutes "/").toOption.map (fun t =>
      ((t.concrete "about").toOption.bind (fun r => r.pattern.map Pattern.source),
        (t.href "about" (Dictionary.ofList [("lang", "")])).toOption)) =
          some (some ":lang!/about", some "!/about") := by
    decide +kernel
  obtain ⟨t, htable, hparts⟩ := Option.map_eq_some_iff.mp hcheck
  obtain ⟨hsource, hlink⟩ := Prod.mk.inj hparts
  exact ⟨t, Result.ok_of_toOption htable, hsource, Result.ok_of_toOption hlink, by decide +kernel⟩

end RouteTable

end AdminConsole
