import AdminConsole.Navigation.Location
import AdminConsole.Proofs.Text.Splitting
import Mathlib.Data.List.TakeWhile

/-!
# Locations in full

Where locations hold the route in their path, the same page has a location in full, with scheme and host, and one
that is the path and query alone; and either may end with a fragment. Main statement: a location in full is always
read as its path and query. The path and query alone are read as they are unless `://` stands somewhere in them, as it
does in a query that names another page. What comes before that is then taken for a scheme, and what comes after it
for a host.
-/

set_option autoImplicit false

namespace AdminConsole.LocationMode

/-- The mark of a scheme. -/
def schemeMark : List Char := "://".toList

/-- The end of a location: its fragment, if it has one. -/
def fragmentText (fragment : Option String) : String :=
  (fragment.map fun text => "#" ++ text).getD ""

/-- The path that begins with the first slash of a text, or the root. -/
def pathFrom (text : List Char) : List Char :=
  if '/' ∈ text then text.dropWhile (· != '/') else ['/']

section

variable {sep : Char} {text tail : List Char}

/-- What comes before the fragment is the text without it. -/
theorem before_append_fragmentText (h : '#' ∉ text) (fragment : Option String) :
    before '#' (text ++ (fragmentText fragment).toList) = text := by
  have hinside : ∀ c ∈ text, (c != '#') = true := by
    intro c hc
    simpa using ne_of_mem_of_not_mem hc h
  rw [before, List.takeWhile_append_of_pos hinside]
  cases fragment with
  | none => simp [fragmentText]
  | some fragment => simp [fragmentText]

/-- Nothing is left of a text from the first slash on if it has none. -/
theorem dropWhile_eq_nil_iff_not_mem : text.dropWhile (· != '/') = [] ↔ '/' ∉ text := by
  rw [List.dropWhile_eq_nil_iff]
  constructor
  · intro h hslash
    simpa using h '/' hslash
  · intro h c hc
    simpa using ne_of_mem_of_not_mem hc h

/-- What comes after the host starts with the first slash after the mark. -/
theorem afterHost_of_afterFirst? {rest : List Char} (h : Text.afterFirst? schemeMark text = some rest) :
    afterHost text = pathFrom rest := by
  rw [schemeMark] at h
  rw [afterHost, h, pathFrom]
  by_cases hslash : '/' ∈ rest
  · have hsome : rest.dropWhile (· != '/') ≠ [] := fun hnil => dropWhile_eq_nil_iff_not_mem.mp hnil hslash
    simp [hslash, hsome]
  · simp [hslash, dropWhile_eq_nil_iff_not_mem.mpr hslash]

/-- A text without the mark has no host. -/
theorem afterHost_of_no_mark (h : ¬ schemeMark <:+: text) : afterHost text = text := by
  rw [← Text.afterFirst?_eq_none_iff, schemeMark] at h
  rw [afterHost, h]

/-- Behind a host without slashes the path begins. -/
theorem pathFrom_append {host : List Char} (h : '/' ∉ host) (rooted : tail.head? = some '/') :
    pathFrom (host ++ tail) = tail := by
  obtain ⟨rest, rfl⟩ := List.head?_eq_some_iff.mp rooted
  have hhost : ∀ c ∈ host, (c != '/') = true := by
    intro c hc
    simpa using ne_of_mem_of_not_mem hc h
  rw [pathFrom, if_pos (by simp), List.dropWhile_append_of_pos hhost]
  simp

/-- What is taken for scheme and host is lost. -/
theorem length_pathFrom_lt (first rest : List Char) :
    (pathFrom rest).length < (first ++ schemeMark ++ rest).length := by
  have hmark : schemeMark.length = 3 := rfl
  have hpath : (pathFrom rest).length ≤ max rest.length 1 := by
    unfold pathFrom
    split
    · exact (List.length_dropWhile_le _ _).trans (Nat.le_max_left _ _)
    · exact Nat.le_max_right _ _
  simp only [List.length_append]
  omega

end

/-- What becomes of a page's two locations, the full one and the one without scheme and host. -/
structure ReadAsPath (scheme host tail : String) (fragment : Option String) : Prop where
  full : html5.routeUrl (scheme ++ "://" ++ host ++ tail ++ fragmentText fragment) = tail
  path : html5.routeUrl (tail ++ fragmentText fragment) = tail ↔ ¬ schemeMark <:+: tail.toList
  /-- Otherwise all is lost up to the first slash behind the first mark. -/
  cut : schemeMark <:+: tail.toList →
    ∃ first rest, tail.toList = first ++ schemeMark ++ rest ∧ ¬ schemeMark <:+: first ++ schemeMark.dropLast ∧
      html5.routeUrl (tail ++ fragmentText fragment) = String.ofList (pathFrom rest)

/-- **Which locations are read as their path and query**: those in full, and of the others those without the mark of a
scheme. -/
theorem full_locations_read_as_path {scheme host tail : String} (schemeColon : ':' ∉ scheme.toList)
    (schemeHash : '#' ∉ scheme.toList) (hostSlash : '/' ∉ host.toList) (hostHash : '#' ∉ host.toList)
    (rooted : tail.toList.head? = some '/') (whole : '#' ∉ tail.toList) (fragment : Option String) :
    ReadAsPath scheme host tail fragment := by
  have hpath : html5.routeUrl (tail ++ fragmentText fragment) = String.ofList (afterHost tail.toList) := by
    rw [routeUrl, String.toList_append, before_append_fragmentText whole]
  refine ⟨?_, ⟨fun hsame hmark => ?_, fun hnone => ?_⟩, fun hmark => ?_⟩
  · have hlocation : (scheme ++ "://" ++ host ++ tail).toList =
        scheme.toList ++ schemeMark ++ (host.toList ++ tail.toList) := by
      simp [schemeMark]
    have hhash : '#' ∉ (scheme ++ "://" ++ host ++ tail).toList := by
      simp [hlocation, schemeMark, schemeHash, hostHash, whole]
    have hfound : Text.afterFirst? schemeMark (scheme ++ "://" ++ host ++ tail).toList =
        some (host.toList ++ tail.toList) := by
      rw [hlocation]
      exact Text.afterFirst?_append _ schemeColon
    rw [routeUrl, String.toList_append, before_append_fragmentText hhash, afterHost_of_afterFirst? hfound,
      pathFrom_append hostSlash rooted, String.ofList_toList]
  · obtain ⟨rest, hrest⟩ := Option.isSome_iff_exists.mp (Text.occursIn_iff.mpr hmark)
    obtain ⟨first, hsplit, _⟩ := Text.eq_append_of_afterFirst? (by decide) hrest
    rw [hpath, afterHost_of_afterFirst? hrest] at hsame
    have hlost := length_pathFrom_lt first rest
    rw [← hsplit, ← hsame, String.toList_ofList] at hlost
    exact Nat.lt_irrefl _ hlost
  · rw [hpath, afterHost_of_no_mark hnone, String.ofList_toList]
  · obtain ⟨rest, hrest⟩ := Option.isSome_iff_exists.mp (Text.occursIn_iff.mpr hmark)
    obtain ⟨first, hsplit, hfirst⟩ := Text.eq_append_of_afterFirst? (by decide) hrest
    exact ⟨first, rest, hsplit, hfirst, by rw [hpath, afterHost_of_afterFirst? hrest]⟩

/-- A host with a port, and a fragment that looks like another location. -/
theorem full_locations_read_as_path_port :
    (':' ∉ "https".toList ∧ '#' ∉ "https".toList ∧ '/' ∉ "host:8080".toList ∧ '#' ∉ "host:8080".toList ∧
        "/status?filter=x".toList.head? = some '/' ∧ '#' ∉ "/status?filter=x".toList) ∧
      ReadAsPath "https" "host:8080" "/status?filter=x" (some "ftp://top") ∧
      html5.routeUrl "https://host:8080/status?filter=x#ftp://top" = "/status?filter=x" :=
  ⟨by decide, full_locations_read_as_path (by decide) (by decide) (by decide) (by decide) (by decide) (by decide) _,
    by decide⟩

/-- A page that is the same in full and another one by its path and query: the address in the query makes all before it
a scheme, and its own host a host. -/
theorem address_in_query_taken_for_host :
    "/login?next=http://host/start".toList.head? = some '/' ∧ '#' ∉ "/login?next=http://host/start".toList ∧
      html5.routeUrl ("https" ++ "://" ++ "console.example.org" ++ "/login?next=http://host/start") =
        "/login?next=http://host/start" ∧
      html5.routeUrl "/login?next=http://host/start" = "/start" := by
  decide

end AdminConsole.LocationMode
