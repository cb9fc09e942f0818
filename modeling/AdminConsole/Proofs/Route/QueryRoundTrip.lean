import AdminConsole.Proofs.Dictionary.Lookup
import AdminConsole.Proofs.Text.PercentRoundTrip
import AdminConsole.Proofs.Text.Splitting
import AdminConsole.Route.Link

/-!
# Queries read back

A query written as `name=value` pairs with `&` between them is cut into the same pairs again, because
encoding never writes one of the separators `?`, `&` and `=`. Main statement: splitting a path with such a
query gives the path and the dictionary of the pairs, whatever the names and values are.
-/

set_option autoImplicit false

namespace AdminConsole

namespace RouteTable

/-- The characters of a written pair. -/
theorem toList_queryPair (name value : String) :
    (queryPair name value).toList =
      Percent.encodeChars name.toList ++ '=' :: Percent.encodeChars value.toList := by
  simp [queryPair, Percent.encode]

/-- A pair of a query is never written as nothing, as it has its equals sign. -/
theorem queryPair_ne_empty (name value : String) : (queryPair name value).toList ≠ [] := by
  simp [toList_queryPair]

/-- A written pair holds no `&`. -/
theorem ampersand_not_mem_queryPair (name value : String) : '&' ∉ (queryPair name value).toList := by
  rw [toList_queryPair, List.mem_append, List.mem_cons]
  rintro (h | h | h)
  · exact Percent.not_mem_encodeChars (by decide) h
  · exact absurd h (by decide)
  · exact Percent.not_mem_encodeChars (by decide) h

end RouteTable

namespace RouteUrl

/-- A written pair is cut at its `=`, since the name before it holds none. -/
theorem cutPair_queryPair (name value : String) :
    cutPair (RouteTable.queryPair name value).toList =
      (Percent.encodeChars name.toList, Percent.encodeChars value.toList) := by
  have hname : '=' ∉ Percent.encodeChars name.toList := Percent.not_mem_encodeChars (by decide)
  rw [cutPair, RouteTable.toList_queryPair, Text.cutFirst_append _ hname, Option.getD_some]

/-- The query of some pairs. -/
def written (pairs : List (String × String)) : List String :=
  pairs.map fun pair => RouteTable.queryPair pair.1 pair.2

/-- Decoding written pairs inserts them one after another. -/
theorem decodePieces_written (pairs : List (String × String)) (values : Dictionary String) :
    decodePieces ((written pairs).map String.toList) values =
      some (pairs.foldl (fun d pair => d.insert pair.1 pair.2) values) := by
  induction pairs generalizing values with
  | nil => rfl
  | cons pair pairs ih =>
    obtain ⟨name, value⟩ := pair
    have hrest := ih (values.insert name value)
    simp only [written, List.map_cons] at hrest ⊢
    simp only [decodePieces, cutPair_queryPair, Percent.decodeChars_encodeChars,
      String.ofList_toList, Option.bind_eq_bind, Option.bind_some, List.foldl_cons]
    exact hrest

/-- The query of some pairs is cut into these pairs again; none of them is empty. -/
theorem queryPieces_join_written (pairs : List (String × String)) :
    Pattern.queryPieces (Text.join "&" (written pairs)).toList =
      (written pairs).map String.toList := by
  refine Text.filter_pieces_join rfl ?_
  intro text htext
  obtain ⟨pair, _, rfl⟩ := List.mem_map.mp htext
  exact ⟨RouteTable.queryPair_ne_empty pair.1 pair.2, RouteTable.ampersand_not_mem_queryPair pair.1 pair.2⟩

/-- **Splitting undoes writing a query**: of a path without `?` and the query of some pairs come the path
and the dictionary in which each name has its last value. -/
theorem split_written {path : String} (hpath : '?' ∉ path.toList)
    (pairs : List (String × String)) :
    split (path ++ "?" ++ Text.join "&" (written pairs)) = (path, Dictionary.ofList pairs) := by
  have hchars : (path ++ "?" ++ Text.join "&" (written pairs)).toList =
      path.toList ++ '?' :: (Text.join "&" (written pairs)).toList := by
    simp
  unfold split
  rw [hchars, Text.cutFirst_append _ hpath]
  simp only [queryPieces_join_written, decodePieces_written, String.ofList_toList]
  rfl

/-- A URL without `?` is its own path and has no query. -/
theorem split_path {path : String} (hpath : '?' ∉ path.toList) :
    split path = (path, Dictionary.empty) := by
  rw [split, Text.cutFirst_eq_none_iff.mpr hpath]

/-- The URL of a path and the parameters of its query. -/
def assemble (path : String) : List (String × String) → String
  | [] => path
  | pair :: pairs => path ++ "?" ++ Text.join "&" (written (pair :: pairs))

/-- A URL that is assembled is split into its path and what its pairs come to. -/
theorem split_assemble {path : String} (hpath : '?' ∉ path.toList) (pairs : List (String × String)) :
    split (assemble path pairs) = (path, Dictionary.ofList pairs) := by
  cases pairs with
  | nil => exact split_path hpath
  | cons pair pairs => exact split_written hpath (pair :: pairs)

end RouteUrl

end AdminConsole
