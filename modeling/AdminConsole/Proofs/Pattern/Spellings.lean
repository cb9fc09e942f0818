import AdminConsole.Proofs.Pattern.Grammar
import AdminConsole.Proofs.Pattern.Readings

/-!
# The two spellings of a parameter

A parameter in braces can be written with a colon, unless the next character would then belong to its name. Main
statement: a pattern in which any of these parameters are written so is accepted as well. It matches and writes the
same paths with the same values, and is as specific. The spelling is looked at where a path is read as symbols and
nowhere else, so all symbols may be brought into one spelling before the two patterns are compared.
-/

set_option autoImplicit false

namespace AdminConsole

namespace Symbol

open Pattern (Reads fill)

variable {symbols others : List Symbol} {path : List Char} {texts : List (List Char)}

/-! ## One spelling for all -/

/-- The symbol in the spelling with a colon. -/
def withColon : Symbol → Symbol
  | .char c => .char c
  | .param _ name => .param .colon name

/-- A colon changes no name. -/
theorem name?_withColon (symbol : Symbol) : symbol.withColon.name? = symbol.name? := by
  cases symbol <;> rfl

/-- A symbol that is written with a colon is a slash if it was one before. -/
theorem withColon_eq_slash_iff (symbol : Symbol) : symbol.withColon = .char '/' ↔ symbol = .char '/' := by
  cases symbol <;> simp [withColon]

/-- Colons change none of the names. -/
theorem filterMap_name?_map_withColon (symbols : List Symbol) :
    (symbols.map withColon).filterMap name? = symbols.filterMap name? := by
  rw [List.filterMap_map]
  exact List.filterMap_congr fun symbol _ => name?_withColon symbol

/-- A segment is plain in the spelling with colons if it is in any other. -/
theorem isPlain_map_withColon (segment : List Symbol) : isPlain (segment.map withColon) = isPlain segment := by
  simp only [isPlain, List.isEmpty_map, List.all_map, Function.comp_def, name?_withColon]

/-- Colons do not change where segments begin. -/
theorem splitOn_slash_map_withColon (symbols : List Symbol) :
    (symbols.map withColon).splitOn (.char '/') = (symbols.splitOn (.char '/')).map (·.map withColon) := by
  induction symbols with
  | nil => rfl
  | cons symbol symbols ih =>
    by_cases hslash : symbol = .char '/'
    · subst hslash
      rw [List.map_cons, withColon, splitOn_slash_cons, splitOn_slash_cons, ih]
      rfl
    · rw [List.map_cons, splitOn_slash_cons_of_ne (mt (withColon_eq_slash_iff symbol).mp hslash),
        splitOn_slash_cons_of_ne hslash, ih]
      cases symbols.splitOn (.char '/') <;> rfl

/-- Colons do not change how many segments are plain. -/
theorem countP_isPlain_map_withColon (symbols : List Symbol) :
    ((symbols.map withColon).splitOn (.char '/')).countP isPlain = (symbols.splitOn (.char '/')).countP isPlain := by
  rw [splitOn_slash_map_withColon, List.countP_map]
  exact List.countP_congr fun segment _ => by rw [Function.comp_apply, isPlain_map_withColon]

/-- Symbols read the same texts in the spelling with colons. -/
theorem reads_map_withColon_iff :
    Reads (pieces (symbols.map withColon)) path texts ↔ Reads (pieces symbols) path texts := by
  induction symbols generalizing path texts with
  | nil => rfl
  | cons symbol symbols ih =>
    cases symbol with
    | char c => simp only [List.map_cons, withColon, reads_char_iff, ih]
    | param spelling name => simp only [List.map_cons, withColon, reads_param_iff, ih]

/-- Symbols are filled in as before in the spelling with colons. -/
theorem fill_map_withColon (values : Dictionary String) (symbols : List Symbol) :
    fill values (pieces (symbols.map withColon)) = fill values (pieces symbols) := by
  induction symbols with
  | nil => rfl
  | cons symbol symbols ih =>
    cases symbol with
    | char c => rw [List.map_cons, withColon, fill_char, fill_char, ih]
    | param spelling name => rw [List.map_cons, withColon, fill_param, fill_param, ih]

/-! ## Other spellings -/

/-- Symbols of which any parameters in braces are written with a colon, if the next character is none of a name. -/
inductive Respelled : List Symbol → List Symbol → Prop
  | done : Respelled [] []
  | kept (symbol : Symbol) {symbols others : List Symbol} (more : Respelled symbols others) :
      Respelled (symbol :: symbols) (symbol :: others)
  | colon (name : String) {symbols others : List Symbol}
      (next : ∀ c, (symbols.flatMap spelled).head? = some c → Piece.isNameChar c = false)
      (more : Respelled symbols others) : Respelled (.param .braces name :: symbols) (.param .colon name :: others)

/-- Symbols that are written anew are the same in the spelling with colons. -/
theorem Respelled.map_withColon_eq (h : Respelled symbols others) : symbols.map withColon = others.map withColon := by
  induction h with
  | done => rfl
  | kept symbol more ih => rw [List.map_cons, List.map_cons, ih]
  | colon name next more ih => rw [List.map_cons, List.map_cons, ih]; rfl

/-- What ends a name before the symbols are written anew ends it after that. -/
theorem Respelled.ends (h : Respelled symbols others)
    (ends : ∀ c, (symbols.flatMap spelled).head? = some c → Piece.isNameChar c = false) :
    ∀ c, (others.flatMap spelled).head? = some c → Piece.isNameChar c = false := by
  cases h with
  | done => exact ends
  | kept symbol more =>
    rcases symbol with c | ⟨_ | _, name⟩ <;> exact ends
  | colon name next more =>
    rintro c ⟨⟩
    decide

/-- Symbols that are written anew can be read off what they are written as. -/
theorem Respelled.writes (h : Respelled symbols others) (hwrites : Writes symbols path) :
    Writes others (others.flatMap spelled) := by
  induction h generalizing path with
  | done => exact .done
  | @kept symbol symbols others more ih =>
    cases hwrites with
    | char colon brace rest => exact .char colon brace (ih rest)
    | colon valid longest rest =>
      -- What ended the name before ends it still.
      rw [← rest.flatMap_spelled] at longest
      exact .colon valid (more.ends longest) (ih rest)
    | braces valid rest =>
      have hbraces := Writes.braces valid (ih rest)
      rwa [← hbraces.flatMap_spelled] at hbraces
  | colon name next more ih =>
    cases hwrites with
    | braces valid rest => exact .colon valid (more.ends next) (ih rest)

/-- Writing symbols anew brings no new character but the colon. -/
theorem Respelled.mem_or_eq_colon (h : Respelled symbols others) {c : Char} (hc : c ∈ others.flatMap spelled) :
    c ∈ symbols.flatMap spelled ∨ c = ':' := by
  induction h with
  | done => cases hc
  | kept symbol more ih =>
    rw [List.flatMap_cons, List.mem_append] at hc ⊢
    rcases hc with hc | hc
    · exact .inl (.inl hc)
    · exact (ih hc).imp_left .inr
  | colon name next more ih =>
    rw [List.flatMap_cons, List.mem_append] at hc ⊢
    rcases hc with hc | hc
    · rcases List.mem_cons.mp hc with rfl | hname
      · exact .inr rfl
      · exact .inl (.inl (List.mem_cons_of_mem _ (List.mem_append_left _ hname)))
    · exact (ih hc).imp_left .inr

/-- A parameter is not longer with a colon than in braces. -/
theorem utf8ByteSize_colon_le (name : String) :
    (String.ofList (param .colon name).spelled).utf8ByteSize ≤
      (String.ofList (param .braces name).spelled).utf8ByteSize := by
  have hcolon : String.ofList (param .colon name).spelled = ":" ++ name := by
    apply String.ext
    simp [spelled, Piece.spelled]
  have hbraces : String.ofList (param .braces name).spelled = "\x7b" ++ name ++ "\x7d" := by
    apply String.ext
    simp [spelled, Piece.spelled]
  have hone : (":" : String).utf8ByteSize = ("\x7b" : String).utf8ByteSize := by decide
  rw [hcolon, hbraces, String.utf8ByteSize_append, String.utf8ByteSize_append, String.utf8ByteSize_append, hone]
  exact Nat.le_add_right _ _

/-- Symbols do not get longer when they are written anew. -/
theorem Respelled.utf8ByteSize_le (h : Respelled symbols others) :
    (String.ofList (others.flatMap spelled)).utf8ByteSize ≤ (String.ofList (symbols.flatMap spelled)).utf8ByteSize := by
  induction h with
  | done => exact Nat.le_refl _
  | kept symbol more ih =>
    rw [List.flatMap_cons, List.flatMap_cons, String.ofList_append, String.ofList_append, String.utf8ByteSize_append,
      String.utf8ByteSize_append]
    exact Nat.add_le_add_left ih _
  | colon name next more ih =>
    rw [List.flatMap_cons, List.flatMap_cons, String.ofList_append, String.ofList_append, String.utf8ByteSize_append,
      String.utf8ByteSize_append]
    exact Nat.add_le_add (utf8ByteSize_colon_le name) ih

end Symbol

namespace Pattern

variable {source : String} {p : Pattern} {symbols : List Symbol} {path : List Char}

/-! ## Texts with another path -/

/-- The text of a pattern with another path and the same query list. -/
def withPath (source : String) (path : List Char) : String :=
  String.ofList path ++
    match (splitQuery source.toList).2 with
    | none => ""
    | some query => String.ofList ('?' :: query)

/-- A source whose path is replaced by its own stays the same. -/
theorem withPath_self (source : String) : withPath source (splitQuery source.toList).1 = source := by
  apply String.ext
  rw [withPath, String.toList_append, String.toList_ofList]
  unfold splitQuery
  cases hcut : Text.cutFirst '?' source.toList with
  | none => simp
  | some parts => rw [(Text.cutFirst_eq_some hcut).1]; simp

/-- A source whose path was replaced is split into the new path and the old query. -/
theorem splitQuery_withPath (free : '?' ∉ path) :
    splitQuery (withPath source path).toList = (path, (splitQuery source.toList).2) := by
  rw [withPath, String.toList_append, String.toList_ofList]
  cases (splitQuery source.toList).2 with
  | none =>
    have hcut : Text.cutFirst '?' (path ++ "".toList) = none := by
      simpa using Text.cutFirst_eq_none_iff.mpr free
    rw [splitQuery, hcut]
    simp
  | some query =>
    rw [String.toList_ofList, splitQuery, Text.cutFirst_append query free]

/-- A source does not get longer when its path is replaced by one that is not longer. -/
theorem utf8ByteSize_withPath_le
    (shorter : (String.ofList path).utf8ByteSize ≤ (String.ofList (splitQuery source.toList).1).utf8ByteSize) :
    (withPath source path).utf8ByteSize ≤ source.utf8ByteSize := by
  conv_rhs => rw [← withPath_self source]
  rw [withPath, withPath, String.utf8ByteSize_append, String.utf8ByteSize_append]
  exact Nat.add_le_add_right shorter _

/-- A source whose symbols are written anew is split into what they are written as and the old query. -/
theorem Grammatical.splitQuery_respelled {others : List Symbol} (h : Grammatical source symbols)
    (respelled : Symbol.Respelled symbols others) :
    splitQuery (withPath source (others.flatMap Symbol.spelled)).toList =
      (others.flatMap Symbol.spelled, (splitQuery source.toList).2) := by
  refine splitQuery_withPath fun hmem => ?_
  rcases respelled.mem_or_eq_colon hmem with hmem | hcolon
  · rw [h.path.flatMap_spelled] at hmem
    exact question_not_mem_splitQuery source.toList hmem
  · exact absurd hcolon (by decide)

/-- A source whose symbols are written anew is written by the grammar again. -/
theorem Grammatical.respelled {others : List Symbol} (h : Grammatical source symbols)
    (respelled : Symbol.Respelled symbols others) :
    Grammatical (withPath source (others.flatMap Symbol.spelled)) others := by
  have hwrites := respelled.writes h.path
  have hmap := respelled.map_withColon_eq
  have hnames : others.filterMap Symbol.name? = symbols.filterMap Symbol.name? := by
    rw [← Symbol.filterMap_name?_map_withColon, ← hmap, Symbol.filterMap_name?_map_withColon]
  have hsegments : (others.splitOn (.char '/')).length = (symbols.splitOn (.char '/')).length := by
    have hsplit := congrArg (fun list => (list.splitOn (Symbol.char '/')).length) hmap
    simpa [Symbol.splitOn_slash_map_withColon] using hsplit.symm
  refine ⟨?_, ?_, ?_, ?_, ?_⟩
  · refine Nat.le_trans (utf8ByteSize_withPath_le ?_) h.bytes
    rw [← h.path.flatMap_spelled]
    exact respelled.utf8ByteSize_le
  · rw [h.splitQuery_respelled respelled, ← hwrites.length_splitOn_slash, hsegments, h.path.length_splitOn_slash]
    exact h.segments
  · rw [h.splitQuery_respelled respelled]
    exact hwrites
  · rw [hnames]
    exact h.letters
  · rw [hnames]
    exact h.distinct

/-! ## Patterns that differ in spelling -/

/-- What two patterns with different texts have in common. -/
structure Interchangeable (p q : Pattern) : Prop where
  matching : ∀ path, p.match? path = q.match? path
  writing : ∀ values, p.reverse values = q.reverse values
  paramNames : p.paramNames = q.paramNames
  queryNames : p.queryNames = q.queryNames
  literalSegments : p.literalSegments = q.literalSegments

/-- Pieces that read the same texts capture the same. -/
theorem capture_congr {pieces others : List Piece}
    (same : ∀ path texts, Reads pieces path texts ↔ Reads others path texts) (path : List Char) :
    capture pieces path = capture others path := by
  apply Option.ext
  intro texts
  rw [capture_eq_some_iff, capture_eq_some_iff]
  constructor
  · exact fun h => ⟨(same _ _).mp h.reads, fun other hother => h.greatest other ((same _ _).mpr hother)⟩
  · exact fun h => ⟨(same _ _).mpr h.reads, fun other hother => h.greatest other ((same _ _).mp hother)⟩

/-- Patterns whose symbols differ in spelling have the same names, readings and segments. -/
theorem interchangeable_of_map_withColon_eq {other : String} {q : Pattern} (accepted : compile source = .ok p)
    (accepted' : compile other = .ok q) (same : p.symbols.map Symbol.withColon = q.symbols.map Symbol.withColon)
    (query : p.queryNames = q.queryNames) : Interchangeable p q := by
  have hp := (grammatical_of_compile accepted).2
  have hq := (grammatical_of_compile accepted').2
  have hnames : p.paramNames = q.paramNames := by
    rw [paramNames_eq accepted, paramNames_eq accepted', ← Symbol.filterMap_name?_map_withColon, same,
      Symbol.filterMap_name?_map_withColon]
  have hcapture : ∀ path, capture p.pieces path = capture q.pieces path := by
    refine capture_congr fun path texts => ?_
    rw [hp, hq, ← Symbol.reads_map_withColon_iff, same, Symbol.reads_map_withColon_iff]
  refine ⟨fun path => ?_, fun values => ?_, hnames, query, ?_⟩
  · rw [match?, match?, captureByTable_eq, captureByTable_eq, hcapture, hnames]
  · rw [reverse, reverse, hp, hq, ← Symbol.fill_map_withColon, same, Symbol.fill_map_withColon]
  · rw [literalSegments_eq accepted, literalSegments_eq accepted', ← Symbol.countP_isPlain_map_withColon, same,
      Symbol.countP_isPlain_map_withColon]

/-- **The two spellings of parameters mean the same.** Any parameters in braces that the next character allows to be
written with a colon may be written so, and the text is a pattern that means what it meant before. -/
theorem spellings_interchangeable (accepted : compile source = .ok p)
    (respelled : Symbol.Respelled p.symbols symbols) :
    ∃ q, compile (withPath source (symbols.flatMap Symbol.spelled)) = .ok q ∧ q.symbols = symbols ∧
      Interchangeable p q := by
  have own := (grammatical_of_compile accepted).1
  have grammatical := own.respelled respelled
  have accepted' := grammatical.compile_eq
  have hsymbols := (grammatical_of_compile accepted').1.path.unique grammatical.path
  refine ⟨_, accepted', hsymbols, interchangeable_of_map_withColon_eq accepted accepted' ?_ ?_⟩
  · rw [hsymbols]
    exact respelled.map_withColon_eq
  · rw [(written_of_compile accepted).2, (written_of_compile accepted').2, own.splitQuery_respelled respelled]

/-- The first and the last of three parameters in braces are written with a colon. The one between them cannot be,
because a letter follows. -/
theorem spellings_interchangeable_file :
    ∃ p q, compile "/{folder}-{name}s/{id}?tab" = .ok p ∧ compile "/:folder-{name}s/:id?tab" = .ok q ∧
      Symbol.Respelled p.symbols q.symbols ∧ Interchangeable p q := by
  have hcheck : (compile "/{folder}-{name}s/{id}?tab").toOption.map symbols =
      some [.char '/', .param .braces "folder", .char '-', .param .braces "name", .char 's', .char '/',
        .param .braces "id"] := by
    decide +kernel
  obtain ⟨p, hp, hsymbols⟩ := Option.map_eq_some_iff.mp hcheck
  have accepted := Result.ok_of_toOption hp
  have respelled : Symbol.Respelled p.symbols [.char '/', .param .colon "folder", .char '-', .param .braces "name",
      .char 's', .char '/', .param .colon "id"] := by
    rw [hsymbols]
    refine .kept _ (.colon _ ?_ (.kept _ (.kept _ (.kept _ (.kept _ (.colon _ ?_ .done))))))
    · rintro c ⟨⟩
      decide
    · rintro c ⟨⟩
  obtain ⟨q, accepted', hothers, same⟩ := spellings_interchangeable accepted respelled
  have htext : withPath "/{folder}-{name}s/{id}?tab" (([.char '/', .param .colon "folder", .char '-',
      .param .braces "name", .char 's', .char '/', .param .colon "id"] : List Symbol).flatMap Symbol.spelled) =
        "/:folder-{name}s/:id?tab" := by
    decide +kernel
  rw [htext] at accepted'
  exact ⟨p, q, accepted, accepted', hothers ▸ respelled, same⟩

end Pattern

end AdminConsole
