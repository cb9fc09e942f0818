import AdminConsole.Proofs.Pattern.Canonical
import AdminConsole.Proofs.Pattern.Grammar

/-!
# Composing fragments composes matching

The text of a nested route is put together from fragments, character by character, and read as a whole. It is read as
the fragments one after another if no name goes on from one fragment into the next. With a slash between each two
parameters a path has one reading at most, so that it is cut into the paths of the fragments in one way only. Main
statement: then the composed pattern matches what the fragments match one after another, with the values of both. It
writes what they write one after another, and has the names of both query lists. Composing is associative for all
fragments.
-/

set_option autoImplicit false

namespace AdminConsole

namespace Symbol

open Pattern (Reads fill)

variable {symbols first second : List Symbol} {text path next : List Char} {texts others : List (List Char)}

/-! ## Symbols one after another -/

/-- Whether no name at the end of the symbols would go on in a text that follows. -/
def EndBefore (symbols : List Symbol) (next : List Char) : Prop :=
  ∀ name, symbols.getLast? = some (.param .colon name) → ∀ c, next.head? = some c → Piece.isNameChar c = false

/-- Symbols in two parts are written one part after the other, if no name runs on into the second part. -/
theorem Writes.append (h : Writes first path) (h' : Writes second next) (ends : EndBefore first next) :
    Writes (first ++ second) (path ++ next) := by
  induction h with
  | done => exact h'
  | char colon brace more ih =>
    exact .char colon brace (ih fun name hlast => ends name (by simp [List.getLast?_cons, hlast]))
  | @colon name symbols rest valid longest more ih =>
    have hmore := ih fun other hlast => ends other (by simp [List.getLast?_cons, hlast])
    have hlongest : ∀ c, (rest ++ next).head? = some c → Piece.isNameChar c = false := by
      cases more with
      | done => exact ends name rfl
      | char _ _ _ => exact longest
      | colon _ _ _ => exact longest
      | braces _ _ => exact longest
    simp only [List.cons_append, List.append_assoc]
    exact .colon valid hlongest hmore
  | braces valid more ih =>
    simp only [List.cons_append, List.append_assoc]
    exact .braces valid (ih fun name hlast => ends name (by simp [List.getLast?_cons, hlast]))

/-- Symbols in two parts read a text of which each part reads its own. -/
theorem reads_append_iff :
    Reads (pieces (first ++ second)) text texts ↔
      ∃ front back fronts backs, text = front ++ back ∧ texts = fronts ++ backs ∧
        Reads (pieces first) front fronts ∧ Reads (pieces second) back backs := by
  induction first generalizing text texts with
  | nil =>
    constructor
    · intro h
      exact ⟨[], text, [], texts, rfl, rfl, .done, h⟩
    · rintro ⟨front, back, fronts, backs, rfl, rfl, hfront, hback⟩
      cases hfront with
      | done => exact hback
  | cons symbol first ih =>
    rw [List.cons_append]
    cases symbol with
    | char c =>
      simp only [reads_char_iff, ih]
      constructor
      · rintro ⟨_, rfl, front, back, fronts, backs, rfl, rfl, hfront, hback⟩
        exact ⟨c :: front, back, fronts, backs, rfl, rfl, ⟨front, rfl, hfront⟩, hback⟩
      · rintro ⟨_, back, fronts, backs, rfl, rfl, ⟨front, rfl, hfront⟩, hback⟩
        exact ⟨front ++ back, rfl, front, back, fronts, backs, rfl, rfl, hfront, hback⟩
    | param spelling name =>
      simp only [reads_param_iff, ih]
      constructor
      · rintro ⟨segment, _, _, rfl, rfl, free, front, back, fronts, backs, rfl, rfl, hfront, hback⟩
        exact ⟨segment ++ front, back, segment :: fronts, backs, (List.append_assoc ..).symm, rfl,
          ⟨segment, front, fronts, rfl, rfl, free, hfront⟩, hback⟩
      · rintro ⟨_, back, _, backs, rfl, rfl, ⟨segment, front, fronts, rfl, rfl, free, hfront⟩, hback⟩
        exact ⟨segment, front ++ back, fronts ++ backs, List.append_assoc .., rfl, free, front, back, fronts, backs,
          rfl, rfl, hfront, hback⟩

/-- Symbols in two parts are filled in one part after the other. -/
theorem fill_append (values : Dictionary String) (first second : List Symbol) :
    fill values (pieces (first ++ second)) =
      (fill values (pieces first)).bind fun front => (fill values (pieces second)).map (front ++ ·) := by
  induction first with
  | nil => simp [pieces, fill]
  | cons symbol first ih =>
    rw [List.cons_append]
    cases symbol with
    | char c =>
      rw [fill_char, fill_char, ih]
      cases fill values (pieces first) <;> cases fill values (pieces second) <;> rfl
    | param spelling name =>
      rw [fill_param, fill_param, ih]
      cases values.get? name <;> cases fill values (pieces first) <;> cases fill values (pieces second) <;> simp

/-! ## One reading only -/

/-- Whether a slash stands between each two consecutive parameters: none is followed by another one before the next
slash. -/
def isSlashed : List Symbol → Bool
  | [] => true
  | .char _ :: symbols => isSlashed symbols
  | .param _ _ :: symbols =>
      ((symbols.takeWhile (· != .char '/')).all fun symbol => symbol.name?.isNone) && isSlashed symbols

/-- Each part of symbols is slashed if the whole is. -/
theorem isSlashed_of_append (h : isSlashed (first ++ second) = true) :
    isSlashed first = true ∧ isSlashed second = true := by
  induction first with
  | nil => exact ⟨rfl, h⟩
  | cons symbol first ih =>
    cases symbol with
    | char c => exact ih h
    | param spelling name =>
      rw [List.cons_append, isSlashed, Bool.and_eq_true] at h
      obtain ⟨hfirst, hsecond⟩ := ih h.2
      refine ⟨?_, hsecond⟩
      rw [isSlashed, hfirst, Bool.and_true]
      have hnext := h.1
      rw [List.takeWhile_append] at hnext
      split at hnext
      · rename_i hwhole
        rw [List.all_append, Bool.and_eq_true] at hnext
        rw [(List.takeWhile_prefix _).eq_of_length hwhole]
        exact hnext.1
      · exact hnext

/-- As long as only characters follow, the text up to the first slash is the same in every reading. -/
theorem takeWhile_of_reads (plain : ((symbols.takeWhile (· != .char '/')).all fun symbol => symbol.name?.isNone) = true)
    (h : Reads (pieces symbols) text texts) :
    text.takeWhile (· != '/') = (symbols.takeWhile (· != .char '/')).flatMap spelled := by
  induction symbols generalizing text with
  | nil =>
    cases h
    rfl
  | cons symbol symbols ih =>
    cases symbol with
    | char c =>
      obtain ⟨rest, rfl, hrest⟩ := reads_char_iff.mp h
      by_cases hc : c = '/'
      · simp [hc]
      · have hsymbol : (Symbol.char c != .char '/') = true := by simpa using hc
        have htext : (c != '/') = true := by simpa using hc
        rw [List.takeWhile_cons, if_pos hsymbol, List.all_cons, Bool.and_eq_true] at plain
        rw [List.takeWhile_cons, if_pos htext, List.takeWhile_cons, if_pos hsymbol, ih plain.2 hrest]
        rfl
    | param spelling name => simp [name?] at plain

/-- With a slash between each two parameters there is one reading at most. -/
theorem eq_of_reads (slashed : isSlashed symbols = true) (h : Reads (pieces symbols) text texts)
    (h' : Reads (pieces symbols) text others) : texts = others := by
  induction symbols generalizing text texts others with
  | nil =>
    cases h
    cases h'
    rfl
  | cons symbol symbols ih =>
    cases symbol with
    | char c =>
      obtain ⟨rest, rfl, hrest⟩ := reads_char_iff.mp h
      obtain ⟨_, heq, hrest'⟩ := reads_char_iff.mp h'
      obtain rfl := (List.cons.inj heq).2
      exact ih slashed hrest hrest'
    | param spelling name =>
      rw [isSlashed, Bool.and_eq_true] at slashed
      obtain ⟨segment, rest, more, rfl, rfl, free, hrest⟩ := reads_param_iff.mp h
      obtain ⟨segment', rest', more', heq, rfl, free', hrest'⟩ := reads_param_iff.mp h'
      have upToSlash : ∀ {part : List Char}, '/' ∉ part → ∀ {tail more}, Reads (pieces symbols) tail more →
          (part ++ tail).takeWhile (· != '/') = part ++ (symbols.takeWhile (· != .char '/')).flatMap spelled := by
        intro part hpart tail more htail
        rw [List.takeWhile_append_of_pos, takeWhile_of_reads slashed.1 htail]
        exact fun c hc => by simpa using fun heq : c = '/' => hpart (heq ▸ hc)
      have hsame := (upToSlash free hrest).symm.trans (heq ▸ upToSlash free' hrest')
      obtain rfl := List.append_cancel_right hsame
      obtain rfl := List.append_cancel_left heq
      rw [ih slashed.2 hrest hrest']

/-- Slashed symbols read a text in one way, which is the greediest. -/
theorem isGreediest_iff (slashed : isSlashed symbols = true) :
    Pattern.IsGreediest (pieces symbols) text texts ↔ Reads (pieces symbols) text texts := by
  constructor
  · exact fun h => h.reads
  · intro h
    refine ⟨h, fun other hother => ?_⟩
    rw [eq_of_reads slashed h hother]

end Symbol

/-- Whether a dictionary has the entries of two others and no more. -/
def Dictionary.IsUnion {α : Type} (union first second : Dictionary α) : Prop :=
  ∀ key value, union.get? key = some value ↔ first.get? key = some value ∨ second.get? key = some value

namespace Pattern

open AdminConsole.Symbol (isSlashed)

variable {source front back : String} {p first second whole : Pattern} {captured : Dictionary String}
  {texts fronts backs : List (List Char)}

/-! ## What is captured -/

/-- Whether a dictionary has what the texts of parameters are decoded to. -/
def Holds (names : List String) (texts : List (List Char)) (captured : Dictionary String) : Prop :=
  (∀ text ∈ texts, ∃ value, Percent.decodeChars text = some value) ∧
    ∀ name value, captured.get? name = some value ↔
      ∃ text, (name, text) ∈ names.zip texts ∧ Percent.decodeChars text = some value

/-- A slashed pattern matches the paths that its symbols read, with the values that these texts come to. -/
theorem match?_iff_of_isSlashed (accepted : compile source = .ok p) (slashed : isSlashed p.symbols = true)
    {path : String} :
    p.match? path = some captured ↔
      ∃ texts, Reads (Symbol.pieces p.symbols) path.toList texts ∧ Holds p.paramNames texts captured := by
  rw [match?_eq_some_iff (nodup_paramNames accepted), (grammatical_of_compile accepted).2]
  simp only [Symbol.isGreediest_iff slashed]
  rfl

/-- A slashed pattern matches a path that its symbols read, if all captured texts can be decoded. -/
theorem exists_match?_of_reads (accepted : compile source = .ok p) (slashed : isSlashed p.symbols = true)
    {path : List Char} (h : Reads (Symbol.pieces p.symbols) path texts)
    (decodable : ∀ text ∈ texts, ∃ value, Percent.decodeChars text = some value) :
    ∃ captured, p.match? (String.ofList path) = some captured ∧ Holds p.paramNames texts captured := by
  have hpieces := (grammatical_of_compile accepted).2
  have hmatch : p.isMatch (String.ofList path) = true := by
    refine isMatch_iff.mpr ⟨texts, ?_, fun text htext => Option.isSome_iff_exists.mpr (decodable text htext)⟩
    rw [hpieces, capture_eq_some_iff, Symbol.isGreediest_iff slashed, String.toList_ofList]
    exact h
  obtain ⟨captured, hcaptured⟩ := Option.isSome_iff_exists.mp hmatch
  obtain ⟨others, hothers, hholds⟩ := (match?_iff_of_isSlashed accepted slashed).mp hcaptured
  rw [String.toList_ofList] at hothers
  exact ⟨captured, hcaptured, Symbol.eq_of_reads slashed hothers h ▸ hholds⟩

/-- What is captured from two paths one after another is what is captured from both. -/
theorem holds_append_iff {names more : List String} (length : names.length = fronts.length)
    {own other : Dictionary String} (holds : Holds names fronts own) (holds' : Holds more backs other) :
    Holds (names ++ more) (fronts ++ backs) captured ↔ captured.IsUnion own other := by
  have hdecodable : ∀ text ∈ fronts ++ backs, ∃ value, Percent.decodeChars text = some value := by
    intro text htext
    exact (List.mem_append.mp htext).elim (holds.1 text) (holds'.1 text)
  have hentries : ∀ name value, (∃ text, (name, text) ∈ (names ++ more).zip (fronts ++ backs) ∧
      Percent.decodeChars text = some value) ↔ own.get? name = some value ∨ other.get? name = some value := by
    intro name value
    rw [holds.2, holds'.2, List.zip_append length]
    simp only [List.mem_append, or_and_right, exists_or]
  rw [Holds, Dictionary.IsUnion]
  simp only [hentries]
  exact and_iff_right hdecodable

/-! ## Two fragments -/

/-- What the pattern of two fragments, one after another, has from the patterns of the fragments. -/
structure Concatenates (first second whole : Pattern) : Prop where
  /-- A path is matched exactly if it can be cut into a path of each, and has the values of both. -/
  matching : ∀ path captured, whole.match? path = some captured ↔
    ∃ front back own other, path = front ++ back ∧ first.match? front = some own ∧
      second.match? back = some other ∧ captured.IsUnion own other
  /-- What is written is what each of them writes, and there is no path if one of them writes none. -/
  writing : ∀ values, whole.reverse values = (do
    let front ← first.reverse values
    let back ← second.reverse values
    return front ++ back)
  queryNames : whole.queryNames = first.queryNames ++ second.queryNames

section

variable {f g : String} (accepted : compile f = .ok first) (accepted' : compile g = .ok second)
  (joined : compile (compose [f, g]) = .ok whole)
include accepted accepted' joined

/-- The composed pattern declares the query names of both. -/
theorem queryNames_of_compose : whole.queryNames = first.queryNames ++ second.queryNames := by
  rw [(of_compile_compose joined).2, (written_of_compile accepted).2, (written_of_compile accepted').2]
  simp [fragmentNames]

variable (ends : Symbol.EndBefore first.symbols (fragmentPath g))
include ends

/-- The composed pattern consists of the symbols of both. -/
theorem symbols_of_compose : whole.symbols = first.symbols ++ second.symbols := by
  have hpath : fragmentPath (compose [f, g]) = fragmentPath f ++ fragmentPath g := by
    rw [fragmentPath_compose, List.flatMap_cons, List.flatMap_cons, List.flatMap_nil, List.append_nil]
  have hwhole : Symbol.Writes whole.symbols (fragmentPath (compose [f, g])) := (grammatical_of_compile joined).1.path
  rw [hpath] at hwhole
  exact hwhole.unique
    ((grammatical_of_compile accepted).1.path.append (grammatical_of_compile accepted').1.path ends)

/-- The composed pattern matches a path of which each pattern matches its part. -/
theorem match?_of_compose (slashed : isSlashed whole.symbols = true) {path : String} :
    whole.match? path = some captured ↔
      ∃ front back own other, path = front ++ back ∧ first.match? front = some own ∧
        second.match? back = some other ∧ captured.IsUnion own other := by
  have hsymbols := symbols_of_compose accepted accepted' joined ends
  have hnames : whole.paramNames = first.paramNames ++ second.paramNames := by
    rw [paramNames_eq joined, paramNames_eq accepted, paramNames_eq accepted', hsymbols, List.filterMap_append]
  obtain ⟨slashed₁, slashed₂⟩ := Symbol.isSlashed_of_append (hsymbols ▸ slashed)
  have hlength : ∀ {front fronts}, Reads (Symbol.pieces first.symbols) front fronts →
      first.paramNames.length = fronts.length := by
    intro front fronts h
    rw [h.length_eq, Symbol.filterMap_name?_pieces, paramNames_eq accepted]
  rw [match?_iff_of_isSlashed joined slashed, hsymbols, hnames]
  constructor
  · rintro ⟨_, hreads, hholds⟩
    obtain ⟨front, back, fronts, backs, hpath, rfl, hfront, hback⟩ := Symbol.reads_append_iff.mp hreads
    obtain ⟨own, hown, holds⟩ := exists_match?_of_reads accepted slashed₁ hfront fun text htext =>
      hholds.1 text (List.mem_append_left backs htext)
    obtain ⟨other, hother, holds'⟩ := exists_match?_of_reads accepted' slashed₂ hback fun text htext =>
      hholds.1 text (List.mem_append_right fronts htext)
    exact ⟨String.ofList front, String.ofList back, own, other, String.ext (by simpa using hpath), hown, hother,
      (holds_append_iff (hlength hfront) holds holds').mp hholds⟩
  · rintro ⟨front, back, own, other, rfl, hown, hother, hunion⟩
    obtain ⟨fronts, hfront, holds⟩ := (match?_iff_of_isSlashed accepted slashed₁).mp hown
    obtain ⟨backs, hback, holds'⟩ := (match?_iff_of_isSlashed accepted' slashed₂).mp hother
    refine ⟨fronts ++ backs, Symbol.reads_append_iff.mpr ⟨front.toList, back.toList, fronts, backs, ?_, rfl, hfront,
      hback⟩, (holds_append_iff (hlength hfront) holds holds').mpr hunion⟩
    rw [String.toList_append]

/-- The composed pattern writes what both patterns write, one after the other. -/
theorem reverse_of_compose (values : Dictionary String) :
    whole.reverse values = (do
      let front ← first.reverse values
      let back ← second.reverse values
      return front ++ back) := by
  have hsymbols := symbols_of_compose accepted accepted' joined ends
  rw [reverse, reverse, reverse, (grammatical_of_compile joined).2, (grammatical_of_compile accepted).2,
    (grammatical_of_compile accepted').2, hsymbols, Symbol.fill_append]
  cases fill values (Symbol.pieces first.symbols) <;> cases fill values (Symbol.pieces second.symbols) <;> simp

end

/-- **Composing fragments composes matching**, if a slash stands between each two parameters and no name goes on from
one fragment into the next. Composing is associative without any condition. -/
theorem compose_concatenates :
    (∀ xs ys, compose [compose xs, compose ys] = compose (xs ++ ys)) ∧
      ∀ {f g : String} {first second whole : Pattern}, compile f = .ok first → compile g = .ok second →
        compile (compose [f, g]) = .ok whole → isSlashed whole.symbols = true →
        Symbol.EndBefore first.symbols (fragmentPath g) → Concatenates first second whole := by
  constructor
  · intro xs ys
    simpa using compose_map_compose [xs, ys]
  · intro f g first second whole accepted accepted' joined slashed ends
    exact ⟨fun path captured => match?_of_compose accepted accepted' joined ends slashed,
      reverse_of_compose accepted accepted' joined ends, queryNames_of_compose accepted accepted' joined⟩

/-- A file on a shelf. -/
theorem compose_concatenates_shelf :
    ∃ first second whole, compile "/shelf/:group?tab" = .ok first ∧ compile "/{file}.txt?log&tab" = .ok second ∧
      compile (compose ["/shelf/:group?tab", "/{file}.txt?log&tab"]) = .ok whole ∧ isSlashed whole.symbols = true ∧
      Symbol.EndBefore first.symbols (fragmentPath "/{file}.txt?log&tab") ∧ Concatenates first second whole ∧
      first.match? "/shelf/a%2Fb" = some (Dictionary.ofList [("group", "a/b")]) ∧
      second.match? "/7.txt" = some (Dictionary.ofList [("file", "7")]) ∧
      whole.match? "/shelf/a%2Fb/7.txt" = some (Dictionary.ofList [("group", "a/b"), ("file", "7")]) ∧
      whole.queryNames = ["tab", "log", "tab"] := by
  have hfirst : (compile "/shelf/:group?tab").toOption.map (·.match? "/shelf/a%2Fb") =
      some (some (Dictionary.ofList [("group", "a/b")])) := by
    decide +kernel
  have hsecond : (compile "/{file}.txt?log&tab").toOption.map (·.match? "/7.txt") =
      some (some (Dictionary.ofList [("file", "7")])) := by
    decide +kernel
  have hwhole : (compile (compose ["/shelf/:group?tab", "/{file}.txt?log&tab"])).toOption.map
      (fun p => (isSlashed p.symbols, p.match? "/shelf/a%2Fb/7.txt", p.queryNames)) =
        some (true, some (Dictionary.ofList [("group", "a/b"), ("file", "7")]), ["tab", "log", "tab"]) := by
    decide +kernel
  obtain ⟨first, hfirst, hfront⟩ := Option.map_eq_some_iff.mp hfirst
  obtain ⟨second, hsecond, hback⟩ := Option.map_eq_some_iff.mp hsecond
  obtain ⟨whole, hwhole, hparts⟩ := Option.map_eq_some_iff.mp hwhole
  obtain ⟨slashed, hparts⟩ := Prod.mk.inj hparts
  obtain ⟨hpath, hquery⟩ := Prod.mk.inj hparts
  have accepted := Result.ok_of_toOption hfirst
  have accepted' := Result.ok_of_toOption hsecond
  have joined := Result.ok_of_toOption hwhole
  have ends : Symbol.EndBefore first.symbols (fragmentPath "/{file}.txt?log&tab") := by
    intro name _ c hc
    have hslash : (fragmentPath "/{file}.txt?log&tab").head? = some '/' := by decide +kernel
    obtain rfl := Option.some.inj (hslash.symm.trans hc)
    decide
  exact ⟨first, second, whole, accepted, accepted', joined, slashed, ends,
    compose_concatenates.2 accepted accepted' joined slashed ends, hfront, hback, hpath, hquery⟩

/-- A name that goes on in the next fragment is another name. -/
example : (compile (compose ["/:group", "s/list"])).toOption.map Pattern.paramNames = some ["groups"] := by
  decide +kernel

end Pattern

end AdminConsole
