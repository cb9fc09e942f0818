import AdminConsole.Proofs.Pattern.Separated
import AdminConsole.Proofs.Result

/-!
# What reading a pattern gives

The pieces of a pattern are its path cut up: in their own spelling, one after another, they are the path
again. A pattern that was accepted has each parameter name once, and none of its literal text holds a
`?`, because the path ends before the first one.
-/

set_option autoImplicit false

namespace AdminConsole

namespace Piece

/-- A character that is put before pieces is written before them. -/
theorem flatMap_spelled_consChar (c : Char) (pieces : List Piece) :
    (consChar c pieces).flatMap spelled = c :: pieces.flatMap spelled := by
  unfold consChar
  split <;> simp [spelled]

/-- The pieces of a path, each in its own spelling, put together are the path. -/
theorem flatMap_spelled_of_read {path : List Char} {pieces : List Piece}
    (h : read path = .ok pieces) : pieces.flatMap spelled = path := by
  fun_induction read path generalizing pieces with
  | case1 =>
    cases h
    rfl
  | case2 => cases h
  | case3 =>
    rename_i ih
    obtain ⟨more, hmore, rfl⟩ := Result.ok_of_map h
    rw [List.flatMap_cons, ih hmore, spelled, String.toList_ofList, List.cons_append,
      List.takeWhile_append_dropWhile]
  | case4 => cases h
  | case5 => cases h
  | case6 rest name tail hcut hname hbrace ih =>
    obtain ⟨more, hmore, rfl⟩ := Result.ok_of_map h
    rw [List.flatMap_cons, ih hmore, spelled, String.toList_ofList, (Text.cutFirst_eq_some hcut).1]
    simp
  | case7 c rest hcolon hbrace ih =>
    obtain ⟨more, hmore, rfl⟩ := Result.ok_of_map h
    rw [flatMap_spelled_consChar, ih hmore]

/-- A character that is put before pieces is literal. -/
theorem literalText_consChar (c : Char) (pieces : List Piece) :
    Pattern.literalText (consChar c pieces) = c :: Pattern.literalText pieces := by
  unfold consChar
  split <;> simp [Pattern.literalText]

/-- The literal text stands in the path that was read, and has no `:`, with which parameters begin. -/
theorem mem_of_mem_literalText {path : List Char} {pieces : List Piece} {c : Char}
    (h : read path = .ok pieces) (hc : c ∈ Pattern.literalText pieces) : c ∈ path ∧ c ≠ ':' := by
  fun_induction read path generalizing pieces with
  | case1 =>
    cases h
    cases hc
  | case2 => cases h
  | case3 =>
    rename_i ih
    obtain ⟨more, hmore, rfl⟩ := Result.ok_of_map h
    obtain ⟨hmem, hcolon⟩ := ih hmore hc
    exact ⟨List.mem_cons_of_mem _ ((List.dropWhile_sublist _).mem hmem), hcolon⟩
  | case4 => cases h
  | case5 => cases h
  | case6 rest name tail hcut hname hbrace ih =>
    obtain ⟨more, hmore, rfl⟩ := Result.ok_of_map h
    obtain ⟨hmem, hcolon⟩ := ih hmore hc
    refine ⟨?_, hcolon⟩
    rw [(Text.cutFirst_eq_some hcut).1]
    simp [hmem]
  | case7 first rest hother hbrace ih =>
    obtain ⟨more, hmore, rfl⟩ := Result.ok_of_map h
    rw [literalText_consChar] at hc
    rcases List.mem_cons.mp hc with rfl | hc
    · exact ⟨List.mem_cons_self, hother⟩
    · exact (ih hmore hc).imp_left (List.mem_cons_of_mem first)

/-- A character that is put before pieces has no name. -/
theorem filterMap_name?_consChar (c : Char) (pieces : List Piece) :
    (consChar c pieces).filterMap name? = pieces.filterMap name? := by
  unfold consChar
  split <;> simp only [List.filterMap_cons, name?]

/-- No parameter is without a name. -/
theorem name_ne_empty_of_read {path : List Char} {pieces : List Piece} {name : String}
    (h : read path = .ok pieces) (hname : name ∈ pieces.filterMap name?) : name ≠ "" := by
  fun_induction read path generalizing pieces with
  | case1 =>
    cases h
    cases hname
  | case2 => cases h
  | case3 rest first hfirst =>
    rename_i ih
    obtain ⟨more, hmore, rfl⟩ := Result.ok_of_map h
    rcases List.mem_cons.mp hname with rfl | hname
    · simpa using hfirst
    · exact ih hmore hname
  | case4 => cases h
  | case5 => cases h
  | case6 rest first tail hcut hfirst hbrace ih =>
    obtain ⟨more, hmore, rfl⟩ := Result.ok_of_map h
    rcases List.mem_cons.mp hname with rfl | hname
    · intro hempty
      simp [String.ofList_eq_empty_iff.mp hempty] at hfirst
    · exact ih hmore hname
  | case7 c rest hcolon hbrace ih =>
    obtain ⟨more, hmore, rfl⟩ := Result.ok_of_map h
    rw [filterMap_name?_consChar] at hname
    exact ih hmore hname

end Piece

namespace Pattern

/-- The path of a pattern ends before the first `?`. -/
theorem question_not_mem_splitQuery (text : List Char) : '?' ∉ (splitQuery text).1 := by
  unfold splitQuery
  split
  · rename_i path query hcut
    exact (Text.cutFirst_eq_some hcut).2
  · rename_i hcut
    exact Text.cutFirst_eq_none_iff.mp hcut

/-- The checks that a text passes to be a pattern, and what is kept of it. -/
theorem compile_eq_ok_iff {source : String} {p : Pattern} :
    compile source = .ok p ↔
      source.utf8ByteSize ≤ PatternError.maxBytes ∧
        (Text.pieces '/' (splitQuery source.toList).1).length ≤ PatternError.maxSegments ∧
        Piece.read (splitQuery source.toList).1 = .ok p.pieces ∧ usableNames p.paramNames = true ∧
        p.source = source ∧
        p.queryNames = (queryPieces ((splitQuery source.toList).2.getD [])).map String.ofList := by
  unfold compile
  dsimp only
  constructor
  · intro h
    obtain ⟨hbytes, h⟩ := Result.ok_of_unless h
    obtain ⟨hsegments, h⟩ := Result.ok_of_unless h
    obtain ⟨pieces, hread, h⟩ := Result.ok_of_bind h
    obtain ⟨hnames, h⟩ := Result.ok_of_unless h
    obtain rfl := Except.ok.inj h
    have husable : usableNames (pieces.filterMap Piece.name?) = true := by simpa using hnames
    exact ⟨Nat.not_lt.mp hbytes, Nat.not_lt.mp hsegments, Result.ok_of_mapError hread, husable, rfl, rfl⟩
  · rintro ⟨hbytes, hsegments, hread, hnames, rfl, hquery⟩
    have husable : ¬ (!usableNames (p.pieces.filterMap Piece.name?)) = true := by
      simpa [paramNames] using hnames
    rw [if_neg (Nat.not_lt.mpr hbytes), if_neg (Nat.not_lt.mpr hsegments), hread]
    simp only [Except.mapError, bind, Except.bind]
    rw [if_neg husable, ← hquery]
    rfl

/-- What was found out about a text that was accepted as a pattern. -/
theorem of_compile {source : String} {p : Pattern} (h : compile source = .ok p) :
    Piece.read (splitQuery source.toList).1 = .ok p.pieces ∧ usableNames p.paramNames = true := by
  obtain ⟨_, _, hread, hnames, _⟩ := compile_eq_ok_iff.mp h
  exact ⟨hread, hnames⟩

/-- The parameters of a pattern have different names. -/
theorem nodup_paramNames {source : String} {p : Pattern} (h : compile source = .ok p) :
    p.paramNames.Nodup := by
  have hnames := (of_compile h).2
  simp only [usableNames, Bool.and_eq_true, decide_eq_true_eq] at hnames
  exact hnames.2

/-- No parameter of a pattern has the empty name. -/
theorem name_ne_empty_of_compile {source name : String} {p : Pattern} (h : compile source = .ok p)
    (hname : name ∈ p.paramNames) : name ≠ "" :=
  Piece.name_ne_empty_of_read (of_compile h).1 hname

/-- A path written from an accepted pattern holds no `?`: the literal text holds none, and encoding writes
none. -/
theorem question_not_mem_of_reverse {source : String} {p : Pattern} {values : Dictionary String}
    {path : String} (h : compile source = .ok p) (hpath : p.reverse values = some path) :
    '?' ∉ path.toList := by
  obtain ⟨chars, hfill, rfl⟩ := Option.map_eq_some_iff.mp hpath
  rw [String.toList_ofList]
  intro hmem
  rcases mem_of_fill hfill hmem with hliteral | hwritten
  · exact question_not_mem_splitQuery _ (Piece.mem_of_mem_literalText (of_compile h).1 hliteral).1
  · exact absurd hwritten (by decide)

/-- Only parameters of the path are captured from a path. -/
theorem get?_eq_none_of_match? {p : Pattern} {path name : String} {captured : Dictionary String}
    (h : p.match? path = some captured) (hname : name ∉ p.paramNames) : captured.get? name = none := by
  simp only [match?, Option.bind_eq_bind, Option.bind_eq_some_iff, Option.pure_def,
    Option.some.injEq] at h
  obtain ⟨texts, _, values, _, rfl⟩ := h
  rw [Dictionary.get?_ofList, Dictionary.lookup_eq_none_iff_not_mem]
  intro hmem
  obtain ⟨pair, hpair, rfl⟩ := List.mem_map.mp hmem
  exact hname (List.of_mem_zip (List.mem_reverse.mp hpair)).1

end Pattern

end AdminConsole
