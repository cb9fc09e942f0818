import AdminConsole.Proofs.Pattern.Reading
import AdminConsole.Proofs.Text.Splitting

/-!
# Composed patterns

Nested routes share one pattern, whose text is made from the URL fragments of the levels. Main statement:
when the text that is made from some fragments was read, the path that was read is the fragments' paths one
after another, and the query list that was read is the fragments' query lists one after another. It does not matter
which fragments are put together first.
-/

set_option autoImplicit false

namespace AdminConsole.Pattern

/-- The path of a fragment. -/
def fragmentPath (fragment : String) : List Char :=
  (splitQuery fragment.toList).1

/-- The names in the query list of a fragment. -/
def fragmentNames (fragment : String) : List String :=
  (queryPieces ((splitQuery fragment.toList).2.getD [])).map String.ofList

/-- The query names of a fragment are not empty, and contain no ampersand. -/
theorem of_mem_fragmentNames {fragment name : String} (h : name ∈ fragmentNames fragment) :
    name.toList ≠ [] ∧ '&' ∉ name.toList := by
  obtain ⟨piece, hpiece, rfl⟩ := List.mem_map.mp h
  obtain ⟨hmem, hnonempty⟩ := List.mem_filter.mp hpiece
  rw [String.toList_ofList]
  exact ⟨by simpa using hnonempty, Text.not_mem_of_mem_pieces hmem⟩

/-- Fragments are composed of their paths, and of their query names behind a question mark if there are any. -/
theorem compose_eq (fragments : List String) :
    compose fragments =
      if (fragments.flatMap fragmentNames).isEmpty then String.ofList (fragments.flatMap fragmentPath)
      else String.ofList (fragments.flatMap fragmentPath) ++ "?" ++
        Text.join "&" (fragments.flatMap fragmentNames) := by
  have hpath : (fragments.map fun fragment => splitQuery fragment.toList).flatMap (·.1) =
      fragments.flatMap fragmentPath := by
    rw [List.flatMap_map]
    rfl
  have hnames : ((fragments.map fun fragment => splitQuery fragment.toList).flatMap
      fun part => queryPieces (part.2.getD [])).map String.ofList = fragments.flatMap fragmentNames := by
    rw [List.flatMap_map, List.map_flatMap]
    rfl
  rw [← hnames, List.isEmpty_map, ← hpath]
  rfl

/-- The paths of fragments end before the first `?`, and so does what they are put together to. -/
theorem splitQuery_compose (fragments : List String) :
    (splitQuery (compose fragments).toList).1 = fragments.flatMap fragmentPath ∧
      queryPieces ((splitQuery (compose fragments).toList).2.getD []) =
        (fragments.flatMap fragmentNames).map String.toList := by
  have hpath : '?' ∉ fragments.flatMap fragmentPath := by
    intro hmem
    obtain ⟨fragment, _, hin⟩ := List.mem_flatMap.mp hmem
    exact question_not_mem_splitQuery fragment.toList hin
  have hnames : ∀ name ∈ fragments.flatMap fragmentNames, name.toList ≠ [] ∧ '&' ∉ name.toList := by
    intro name hname
    obtain ⟨fragment, _, hin⟩ := List.mem_flatMap.mp hname
    exact of_mem_fragmentNames hin
  rw [compose_eq]
  split
  · rename_i hnone
    rw [String.toList_ofList, splitQuery, Text.cutFirst_eq_none_iff.mpr hpath, List.isEmpty_iff.mp hnone]
    exact ⟨rfl, rfl⟩
  · -- No path holds a question mark, so the composed text is cut at the one that was put there.
    have hquery : ("?" : String).toList = ['?'] := rfl
    rw [String.toList_append, String.toList_append, String.toList_ofList, hquery, List.append_assoc,
      List.singleton_append, splitQuery, Text.cutFirst_append _ hpath]
    exact ⟨rfl, Text.filter_pieces_join rfl hnames⟩

/-- The path of composed fragments consists of their paths. -/
theorem fragmentPath_compose (fragments : List String) :
    fragmentPath (compose fragments) = fragments.flatMap fragmentPath :=
  (splitQuery_compose fragments).1

/-- The query names of composed fragments are those of the fragments, in order. -/
theorem fragmentNames_compose (fragments : List String) :
    fragmentNames (compose fragments) = fragments.flatMap fragmentNames := by
  rw [fragmentNames, (splitQuery_compose fragments).2, List.map_map]
  simp [Function.comp_def]

/-- A part of fragments that composing puts together is the same whether they are composed in groups or at once. -/
theorem flatMap_map_compose {α : Type} {part : String → List α}
    (composed : ∀ fragments, part (compose fragments) = fragments.flatMap part) (groups : List (List String)) :
    (groups.map compose).flatMap part = groups.flatten.flatMap part := by
  induction groups with
  | nil => rfl
  | cons group groups ih =>
    rw [List.map_cons, List.flatMap_cons, ih, composed, List.flatten_cons, List.flatMap_append]

/-- Composing is associative: fragments that were put together before can be put together with others. -/
theorem compose_map_compose (groups : List (List String)) : compose (groups.map compose) = compose groups.flatten := by
  rw [compose_eq, compose_eq, flatMap_map_compose fragmentPath_compose, flatMap_map_compose fragmentNames_compose]

/-- What a pattern that was read remembers of its text beside the path. -/
theorem written_of_compile {source : String} {p : Pattern} (h : compile source = .ok p) :
    p.source = source ∧
      p.queryNames = (queryPieces ((splitQuery source.toList).2.getD [])).map String.ofList := by
  obtain ⟨_, _, _, _, hsource, hquery⟩ := compile_eq_ok_iff.mp h
  exact ⟨hsource, hquery⟩

/-- **A composed pattern is its fragments one after another**: the path in its own spelling, and the query
list, of which every fragment may have a part. -/
theorem of_compile_compose {fragments : List String} {p : Pattern}
    (h : compile (compose fragments) = .ok p) :
    p.pieces.flatMap Piece.spelled = fragments.flatMap fragmentPath ∧
      p.queryNames = fragments.flatMap fragmentNames := by
  constructor
  · exact (Piece.flatMap_spelled_of_read (of_compile h).1).trans (fragmentPath_compose fragments)
  · exact (written_of_compile h).2.trans (fragmentNames_compose fragments)

end AdminConsole.Pattern
