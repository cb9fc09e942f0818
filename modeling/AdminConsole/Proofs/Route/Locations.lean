import AdminConsole.Navigation.Location
import AdminConsole.Proofs.Route.LinkRoundTrip
import Mathlib.Data.List.TakeWhile

/-!
# Links in locations

A link is put into the location of the browser and read from there again. What could be lost on the way is an
exclamation mark at the front, which the fragment of a location may begin with, a fragment of the link itself,
and a host. Main statement: links are written with the literal text of a pattern, with encoded text and with the
separators of a query. So one that begins with a slash and has no `#` in its literal text comes back as it was,
in both modes.
-/

set_option autoImplicit false

namespace AdminConsole

namespace LocationMode

/-- A URL is read back from behind the hash unless it starts with an exclamation mark. -/
theorem routeUrl_location_hash_iff {url : String} :
    hash.routeUrl (hash.location url) = url ↔ url.toList.head? ≠ some '!' := by
  have hcut : Text.cutFirst '#' (hash.location url).toList = some ([], url.toList) := by
    simp [location, Text.cutFirst]
  rw [routeUrl, hcut]
  split
  · rename_i fragment hmarked
    obtain ⟨_, hurl⟩ := Prod.mk.inj (Option.some.inj hmarked)
    rw [hurl]
    refine iff_of_false (fun hsame => ?_) fun hfront => hfront rfl
    have hfragment : fragment = url.toList := by rw [← hsame, String.toList_ofList]
    exact List.cons_ne_self '!' fragment (hurl.symm.trans hfragment.symm)
  · rename_i fragment hother hfragment
    obtain ⟨_, rfl⟩ := Prod.mk.inj (Option.some.inj hfragment)
    refine iff_of_true String.ofList_toList fun hfront => ?_
    obtain ⟨rest, hurl⟩ := List.head?_eq_some_iff.mp hfront
    exact hother rest hurl
  · rename_i hnone
    cases hnone

/-- Without a colon there is no scheme, so that only a fragment is cut off. -/
theorem routeUrl_location_html5_iff {url : String} (colon : ':' ∉ url.toList) :
    html5.routeUrl (html5.location url) = url ↔ '#' ∉ url.toList := by
  have hscheme : Text.afterFirst? "://".toList (before '#' url.toList) = none := by
    rw [Option.eq_none_iff_forall_ne_some]
    intro rest hrest
    have hoccurs : "://".toList <:+: before '#' url.toList :=
      Text.occursIn_iff.mp (by rw [Text.occursIn, hrest]; rfl)
    exact colon ((List.takeWhile_sublist _).subset (hoccurs.subset (by decide)))
  calc html5.routeUrl (html5.location url) = url
      ↔ String.ofList (before '#' url.toList) = url := by rw [routeUrl, location, afterHost, hscheme]
    _ ↔ before '#' url.toList = url.toList := by rw [← String.toList_inj, String.toList_ofList]
    _ ↔ '#' ∉ url.toList := by
      rw [before, List.takeWhile_eq_self_iff]
      exact ⟨fun h hmem => by simpa using h _ hmem, fun h c hc => by simpa using ne_of_mem_of_not_mem hc h⟩

/-- A URL is read from its location if it does not look like a fragment, has none, and names no scheme. -/
theorem routeUrl_location {url : String} (front : url.toList.head? ≠ some '!') (hash : '#' ∉ url.toList)
    (colon : ':' ∉ url.toList) (mode : LocationMode) : mode.routeUrl (mode.location url) = url := by
  cases mode with
  | hash => exact routeUrl_location_hash_iff.mpr front
  | html5 => exact (routeUrl_location_html5_iff colon).mpr hash

end LocationMode

/-- The characters of a URL that was put together. -/
theorem RouteUrl.mem_assemble {path : String} {pairs : List (String × String)} {c : Char}
    (hc : c ∈ (assemble path pairs).toList) :
    c ∈ path.toList ∨ Percent.isWritten c = true ∨ c ∈ ['?', '&', '='] := by
  cases pairs with
  | nil => exact .inl hc
  | cons first more =>
    simp only [assemble, String.toList_append, List.mem_append] at hc
    rcases hc with (hc | hc) | hc
    · exact .inl hc
    · obtain rfl : c = '?' := by simpa using hc
      exact .inr (.inr (by decide))
    · rcases Text.mem_join hc with hc | ⟨text, htext, hc⟩
      · obtain rfl : c = '&' := by simpa using hc
        exact .inr (.inr (by decide))
      · obtain ⟨pair, _, rfl⟩ := List.mem_map.mp htext
        rw [RouteTable.toList_queryPair, List.mem_append, List.mem_cons] at hc
        rcases hc with hc | rfl | hc
        · exact .inr (.inl (Percent.isWritten_of_mem_encodeChars hc))
        · exact .inr (.inr (by decide))
        · exact .inr (.inl (Percent.isWritten_of_mem_encodeChars hc))

/-- A URL that was put together begins like its path, unless the path is empty and the query begins it. -/
theorem RouteUrl.head?_assemble_iff {path : String} {pairs : List (String × String)} {c : Char} (query : c ≠ '?') :
    (assemble path pairs).toList.head? = some c ↔ path.toList.head? = some c := by
  cases pairs with
  | nil => rfl
  | cons first more =>
    cases hpath : path.toList with
    | nil => simp [assemble, hpath, query.symm]
    | cons d rest => simp [assemble, hpath]

/-- A character that is never written in a query and does not separate its parts can only stand in the path of a URL.
-/
theorem RouteUrl.mem_assemble_iff {path : String} {pairs : List (String × String)} {c : Char}
    (foreign : Percent.isWritten c = false) (separator : c ∉ ['?', '&', '=']) :
    c ∈ (assemble path pairs).toList ↔ c ∈ path.toList := by
  constructor
  · intro hc
    rcases mem_assemble hc with hpath | hwritten | hseparator
    · exact hpath
    · exact absurd hwritten (by simp [foreign])
    · exact absurd hseparator separator
  · intro hc
    cases pairs with
    | nil => exact hc
    | cons first more =>
      simp only [assemble, String.toList_append, List.mem_append]
      exact .inl (.inl hc)

namespace RouteTable

variable {definitions : List RouteDefinition} {t : RouteTable} {name url : String} {params : RouteParams}
  {r : CompiledRoute} {pattern : Pattern} (found : t.concrete name = .ok r)
  (shape : r.pattern = some pattern) (link : t.href name params = .ok url)
include found shape link

/-- The characters of a link. -/
theorem mem_of_href {c : Char} (hc : c ∈ url.toList) :
    c ∈ Pattern.literalText pattern.pieces ∨ Percent.isWritten c = true ∨ c ∈ ['?', '&', '='] := by
  obtain ⟨path, hpath, rfl⟩ := of_href found shape link
  obtain ⟨chars, hfill, rfl⟩ := Option.map_eq_some_iff.mp hpath
  rcases RouteUrl.mem_assemble hc with hc | hc
  · rw [String.toList_ofList] at hc
    exact (Pattern.mem_of_fill hfill hc).imp_right .inl
  · exact .inr hc

/-- No link has a colon: it begins the parameters of a pattern, and it is not written in values. -/
theorem Built.colon_not_mem_href (wf : t.Built definitions) : ':' ∉ url.toList := by
  obtain ⟨source, accepted⟩ := (wf.compiled r (of_concrete found).1).accepted shape
  intro hc
  rcases mem_of_href found shape link hc with hliteral | hwritten | hseparator
  · exact (Piece.mem_of_mem_literalText (Pattern.of_compile accepted).1 hliteral).2 rfl
  · exact absurd hwritten (by decide)
  · exact absurd hseparator (by decide)

/-- **A link comes back from its location** in both modes, if it begins with a slash and the literal text of its
route has no `#`. -/
theorem Built.routeUrl_location_href (wf : t.Built definitions)
    (rooted : (Pattern.leadingText pattern.pieces).head? = some '/')
    (whole : '#' ∉ Pattern.literalText pattern.pieces) (mode : LocationMode) :
    mode.routeUrl (mode.location url) = url := by
  refine LocationMode.routeUrl_location ?_ ?_ (wf.colon_not_mem_href found shape link) mode
  · obtain ⟨path, hpath, rfl⟩ := of_href found shape link
    obtain ⟨chars, hfill, rfl⟩ := Option.map_eq_some_iff.mp hpath
    obtain ⟨rest, rfl⟩ := Pattern.leadingText_isPrefix_of_fill hfill
    have hslash : (String.ofList (Pattern.leadingText pattern.pieces ++ rest)).toList.head? = some '/' := by
      simp [List.head?_append, rooted]
    rw [(RouteUrl.head?_assemble_iff (by decide)).mpr hslash]
    decide
  · intro hc
    rcases mem_of_href found shape link hc with hliteral | hwritten | hseparator
    · exact whole hliteral
    · exact absurd hwritten (by decide)
    · exact absurd hseparator (by decide)

end RouteTable

end AdminConsole
