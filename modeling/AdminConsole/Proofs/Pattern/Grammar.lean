import AdminConsole.Proofs.Pattern.Symbols

/-!
# The grammar of patterns

Main statement: a text is accepted as a pattern exactly if it keeps to the limits, its path can be written with
symbols, and the names of the parameters do not begin with a digit and are all different. All that a pattern remembers
is then read off from its symbols and from what follows the first `?`.
-/

set_option autoImplicit false

namespace AdminConsole

namespace Pattern

/-- The symbols that the path of a pattern is written with. -/
def symbols (p : Pattern) : List Symbol :=
  p.pieces.flatMap Piece.symbols

variable {source : String} {p : Pattern} {symbols : List Symbol}

/-! ## What is accepted -/

/-- Whether a text keeps to the grammar of patterns, with these symbols in its path. -/
structure Grammatical (source : String) (symbols : List Symbol) : Prop where
  bytes : source.utf8ByteSize ≤ 1024
  segments : (Text.pieces '/' (splitQuery source.toList).1).length ≤ 32
  path : Symbol.Writes symbols (splitQuery source.toList).1
  letters : ∀ name ∈ symbols.filterMap Symbol.name?, ∀ c, name.toList.head? = some c → c.isDigit = false
  distinct : (symbols.filterMap Symbol.name?).Nodup

/-- Names can be used if they are different and none begins with a digit. -/
theorem usableNames_iff {names : List String} :
    usableNames names = true ↔
      (∀ name ∈ names, ∀ c, name.toList.head? = some c → c.isDigit = false) ∧ names.Nodup := by
  simp only [usableNames, Bool.and_eq_true, decide_eq_true_eq, List.all_eq_true, Bool.not_eq_true']
  refine and_congr_left fun _ => forall₂_congr fun name _ => ?_
  cases name.toList.head? <;> simp

/-- A grammatical text is accepted, and its symbols make the pieces. -/
theorem Grammatical.compile_eq (h : Grammatical source symbols) :
    compile source = .ok ⟨source, Symbol.pieces symbols,
      (queryPieces ((splitQuery source.toList).2.getD [])).map String.ofList⟩ := by
  refine compile_eq_ok_iff.mpr ⟨h.bytes, h.segments, h.path.read_eq, ?_, rfl, rfl⟩
  rw [paramNames, Symbol.filterMap_name?_pieces]
  exact usableNames_iff.mpr ⟨h.letters, h.distinct⟩

/-- What is accepted is written by the grammar, with the pieces of its symbols. -/
theorem grammatical_of_compile (accepted : compile source = .ok p) :
    Grammatical source p.symbols ∧ p.pieces = Symbol.pieces p.symbols := by
  obtain ⟨hbytes, hsegments, hread, hnames, _⟩ := compile_eq_ok_iff.mp accepted
  obtain ⟨symbols, hwrites, hpieces⟩ := Symbol.exists_writes_of_read hread
  have hsymbols : p.symbols = symbols := by rw [Pattern.symbols, hpieces, Symbol.flatMap_symbols_pieces]
  rw [paramNames, hpieces, Symbol.filterMap_name?_pieces, usableNames_iff] at hnames
  rw [hsymbols]
  exact ⟨⟨hbytes, hsegments, hwrites, hnames.1, hnames.2⟩, hpieces⟩

/-- The parameters of a pattern are the names among its symbols. -/
theorem paramNames_eq (accepted : compile source = .ok p) : p.paramNames = p.symbols.filterMap Symbol.name? := by
  rw [paramNames, (grammatical_of_compile accepted).2, Symbol.filterMap_name?_pieces]

/-- A pattern is as specific as it has segments with text and no parameter. -/
theorem literalSegments_eq (accepted : compile source = .ok p) :
    p.literalSegments = (p.symbols.splitOn (.char '/')).countP Symbol.isPlain := by
  obtain ⟨grammatical, _⟩ := grammatical_of_compile accepted
  have hpath := grammatical.path
  have hcount : ∀ segment ∈ p.symbols.splitOn (.char '/'),
      isLiteralSegment (segment.flatMap Symbol.spelled) = Symbol.isPlain segment := by
    intro segment hsegment
    exact Symbol.isLiteralSegment_flatMap_spelled fun c hc =>
      hpath.plain (Symbol.mem_of_mem_splitOn_slash hsegment hc)
  rw [literalSegments, (written_of_compile accepted).1, ← hpath.map_splitOn_slash, ← List.countP_eq_length_filter,
    List.countP_map]
  exact List.countP_congr fun segment hsegment => by simp [hcount segment hsegment]

/-- The query names of a pattern are what stands behind its question mark, between the ampersands. -/
theorem queryNames_of_question {path query : List Char} (accepted : compile source = .ok p)
    (split : source.toList = path ++ '?' :: query) (first : '?' ∉ path) :
    p.queryNames.map String.toList = (Text.pieces '&' query).filter fun piece => !piece.isEmpty := by
  rw [(written_of_compile accepted).2, split, splitQuery, Text.cutFirst_append query first, Option.getD_some,
    queryPieces, List.map_map]
  simp

/-- A pattern without a question mark declares no query names. -/
theorem queryNames_of_no_question (accepted : compile source = .ok p) (none : '?' ∉ source.toList) :
    p.queryNames = [] := by
  rw [(written_of_compile accepted).2, splitQuery, Text.cutFirst_eq_none_iff.mpr none]
  rfl

/-- What is read off from a text that is accepted as a pattern and has these symbols in its path. -/
structure ReadsOff (source : String) (symbols : List Symbol) (p : Pattern) : Prop where
  pieces : p.pieces = Symbol.pieces symbols
  /-- The pieces in their own spelling, one after another, are the path. -/
  spelled : p.pieces.flatMap Piece.spelled = (splitQuery source.toList).1
  names : p.paramNames = symbols.filterMap Symbol.name?
  query : ∀ path query, source.toList = path ++ '?' :: query → '?' ∉ path →
    p.queryNames.map String.toList = (Text.pieces '&' query).filter fun piece => !piece.isEmpty
  noQuery : '?' ∉ source.toList → p.queryNames = []
  /-- The symbols between slashes are the segments of the path. -/
  segments : (symbols.splitOn (.char '/')).map (·.flatMap Symbol.spelled) =
    Text.pieces '/' (splitQuery source.toList).1
  literals : p.literalSegments = (symbols.splitOn (.char '/')).countP Symbol.isPlain

/-- What it means that texts are accepted by the grammar of patterns. -/
structure AcceptedByGrammar (source : String) : Prop where
  accepted : (∃ p, compile source = .ok p) ↔ ∃ symbols, Grammatical source symbols
  unambiguous : ∀ symbols others, Grammatical source symbols → Grammatical source others → symbols = others
  read : ∀ p symbols, compile source = .ok p → Grammatical source symbols → ReadsOff source symbols p

/-- **A text is accepted exactly if it keeps to the grammar**, and then there is one way to read it. -/
theorem accepted_by_grammar (source : String) : AcceptedByGrammar source := by
  have unambiguous : ∀ symbols others, Grammatical source symbols → Grammatical source others → symbols = others :=
    fun symbols others h h' => h.path.unique h'.path
  refine ⟨⟨?_, ?_⟩, unambiguous, ?_⟩
  · rintro ⟨p, accepted⟩
    exact ⟨p.symbols, (grammatical_of_compile accepted).1⟩
  · rintro ⟨symbols, grammatical⟩
    exact ⟨_, grammatical.compile_eq⟩
  · intro p symbols accepted grammatical
    obtain ⟨own, hpieces⟩ := grammatical_of_compile accepted
    obtain rfl := unambiguous _ _ grammatical own
    refine ⟨hpieces, Piece.flatMap_spelled_of_read (of_compile accepted).1, paramNames_eq accepted,
      fun path query => queryNames_of_question accepted, queryNames_of_no_question accepted,
      own.path.map_splitOn_slash, literalSegments_eq accepted⟩

/-- A name after a colon goes on as long as it can, a brace that closes nothing stands for itself, and a digit may begin
no name. -/
example : (compile "/:ab\x7d/x-{c}y?d&&e?").toOption.map (fun p => (p.pieces, p.queryNames, p.literalSegments)) =
      some ([.literal ['/'], .param .colon "ab", .literal "\x7d/x-".toList, .param .braces "c", .literal ['y']],
        ["d", "e?"], 0) ∧
    compile "/:1a" = .error .unusableNames := by
  decide +kernel

end Pattern

end AdminConsole
