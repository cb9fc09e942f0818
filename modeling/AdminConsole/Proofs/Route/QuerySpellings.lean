import AdminConsole.Proofs.Route.QueryRoundTrip

/-!
# Queries spelled in other ways

A query is cut at each `&`, and empty pieces are left out. So it does not matter how many `&` stand between two pairs
or at the ends, and since of pairs with one name the last counts, pairs with different names can change places. Main
statement: however the query of some pairs is spelled, it is read as the dictionary in which each name has its last
value, and the path before it is read as it is.
-/

set_option autoImplicit false

namespace AdminConsole

namespace Pattern

/-! ## The pieces of a query -/

/-- The pieces of a query are those before an ampersand and those after it. -/
theorem queryPieces_append_ampersand (before after : List Char) :
    queryPieces (before ++ '&' :: after) = queryPieces before ++ queryPieces after := by
  rw [queryPieces, Text.pieces_append_cons, List.filter_append]
  rfl

end Pattern

namespace RouteUrl

/-- Whether the place between two parts of a query is at an end of it or beside a `&`, and so not inside of a pair. -/
def IsGap (before after : List Char) : Prop :=
  before = [] ∨ after = [] ∨ (∃ start, before = start ++ ['&']) ∨ ∃ rest, after = '&' :: rest

/-- The texts that are a query of these pairs: the written pairs with `&` between them, and any number of `&` more
between two pairs and at the ends. -/
inductive IsQuery (pairs : List (String × String)) : String → Prop where
  | joined : IsQuery pairs (Text.join "&" (written pairs))
  | ampersand {before after : String} (gap : IsGap before.toList after.toList)
      (query : IsQuery pairs (before ++ after)) : IsQuery pairs (before ++ "&" ++ after)

/-- A `&` that stands beside another one or at an end parts nothing. -/
theorem queryPieces_of_isGap {before after : List Char} (gap : IsGap before after) :
    Pattern.queryPieces (before ++ '&' :: after) = Pattern.queryPieces (before ++ after) := by
  have hnone : Pattern.queryPieces [] = [] := rfl
  rw [Pattern.queryPieces_append_ampersand]
  rcases gap with rfl | rfl | ⟨start, rfl⟩ | ⟨rest, rfl⟩
  · rw [hnone, List.nil_append, List.nil_append]
  · rw [hnone, List.append_nil, List.append_nil]
  · rw [Pattern.queryPieces_append_ampersand, hnone, List.append_nil, List.append_assoc, List.singleton_append,
      Pattern.queryPieces_append_ampersand]
  · have hrest := Pattern.queryPieces_append_ampersand [] rest
    rw [hnone, List.nil_append, List.nil_append] at hrest
    rw [hrest, Pattern.queryPieces_append_ampersand]

/-- Pairs that are written with extra ampersands have the pieces that they have without them. -/
theorem queryPieces_of_isQuery {pairs : List (String × String)} {query : String} (h : IsQuery pairs query) :
    Pattern.queryPieces query.toList = (written pairs).map String.toList := by
  induction h with
  | joined => exact queryPieces_join_written pairs
  | @ampersand before after gap _ ih =>
    have hchars : (before ++ "&" ++ after).toList = before.toList ++ '&' :: after.toList := by simp
    rw [hchars, queryPieces_of_isGap gap, ← String.toList_append, ih]

/-- What is read from a query is decided by its pieces. -/
theorem split_congr {path query other : String} (hpath : '?' ∉ path.toList)
    (same : Pattern.queryPieces query.toList = Pattern.queryPieces other.toList) :
    split (path ++ "?" ++ query) = split (path ++ "?" ++ other) := by
  have hchars : ∀ text : String, (path ++ "?" ++ text).toList = path.toList ++ '?' :: text.toList := by simp
  unfold split
  rw [hchars query, hchars other, Text.cutFirst_append _ hpath, Text.cutFirst_append _ hpath]
  simp only [same]

/-- What it means that the query of some pairs behind a path is read back. -/
structure QueryReadBack (path : String) (pairs : List (String × String)) : Prop where
  /-- However the query is spelled, the path comes back and the dictionary of the pairs. -/
  back : ∀ query, IsQuery pairs query → split (path ++ "?" ++ query) = (path, Dictionary.ofList pairs)
  /-- In this dictionary each name has the value that is listed last for it, and there are no other names. -/
  last : ∀ name value, (Dictionary.ofList pairs).get? name = some value ↔
    ∃ before after, pairs = before ++ (name, value) :: after ∧ ∀ pair ∈ after, pair.1 ≠ name
  /-- Neighbouring pairs with different names can change places in any of its queries. -/
  exchange : ∀ before first second after, pairs = before ++ first :: second :: after → first.1 ≠ second.1 →
    ∀ query other, IsQuery pairs query → IsQuery (before ++ second :: first :: after) other →
      split (path ++ "?" ++ other) = split (path ++ "?" ++ query)

/-- A URL is split into its path and what its pairs come to, with extra ampersands as well. -/
theorem split_of_isQuery {path : String} (hpath : '?' ∉ path.toList) {pairs : List (String × String)}
    {query : String} (h : IsQuery pairs query) : split (path ++ "?" ++ query) = (path, Dictionary.ofList pairs) := by
  have hpieces : Pattern.queryPieces query.toList = Pattern.queryPieces (Text.join "&" (written pairs)).toList := by
    rw [queryPieces_of_isQuery h, queryPieces_join_written]
  rw [split_congr hpath hpieces, split_written hpath]

/-- **Decoding a query undoes encoding it**, for all texts as names and values and for every spelling. -/
theorem queries_read_back {path : String} (hpath : '?' ∉ path.toList) (pairs : List (String × String)) :
    QueryReadBack path pairs where
  back := fun _ h => split_of_isQuery hpath h
  last := fun _ _ => Dictionary.get?_ofList_eq_some_iff
  exchange := by
    rintro before first second after rfl hne query other hquery hother
    rw [split_of_isQuery hpath hother, split_of_isQuery hpath hquery, Dictionary.ofList_exchange before after hne]

/-- Pairs with separators of URLs in a name, a name that comes twice, and one that is empty. -/
def oddPairs : List (String × String) := [("a&b", "1=2?"), ("größe", "10%"), ("", ""), ("größe", "")]

/-- Their query with one `&` more between the first two pairs. -/
theorem queries_read_back_odd :
    '?' ∉ "/items".toList ∧ QueryReadBack "/items" oddPairs ∧
      split "/items?a%26b=1%3D2%3F&&gr%C3%B6%C3%9Fe=10%25&=&gr%C3%B6%C3%9Fe=" =
        ("/items", Dictionary.ofList oddPairs) := by
  have hpath : '?' ∉ "/items".toList := by decide
  have hback := queries_read_back hpath oddPairs
  have hjoined : Text.join "&" (written oddPairs) =
      "a%26b=1%3D2%3F&" ++ "gr%C3%B6%C3%9Fe=10%25&=&gr%C3%B6%C3%9Fe=" := by
    decide +kernel
  have hgap : IsGap "a%26b=1%3D2%3F&".toList "gr%C3%B6%C3%9Fe=10%25&=&gr%C3%B6%C3%9Fe=".toList :=
    .inr (.inr (.inl ⟨"a%26b=1%3D2%3F".toList, by decide +kernel⟩))
  have hquery : IsQuery oddPairs ("a%26b=1%3D2%3F&" ++ "&" ++ "gr%C3%B6%C3%9Fe=10%25&=&gr%C3%B6%C3%9Fe=") :=
    .ampersand hgap (hjoined ▸ .joined)
  have htext : "/items?a%26b=1%3D2%3F&&gr%C3%B6%C3%9Fe=10%25&=&gr%C3%B6%C3%9Fe=" =
      "/items" ++ "?" ++ ("a%26b=1%3D2%3F&" ++ "&" ++ "gr%C3%B6%C3%9Fe=10%25&=&gr%C3%B6%C3%9Fe=") := by
    decide +kernel
  rw [htext]
  exact ⟨hpath, hback, hback.back _ hquery⟩

end RouteUrl

end AdminConsole
