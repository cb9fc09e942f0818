import AdminConsole.Proofs.Pattern.Composition
import Mathlib.Data.List.TakeWhile

/-!
# What paths are written with

The path of a pattern is written with characters that stand for themselves and with parameters in two spellings.
`Writes` says this as a grammar, without any order of reading. Main statement: reading a path is undone by writing it,
and a path is written in one way at most. The segments of a path can then be told from its symbols, and so can the
paths that are read as a pattern and those that are written from it.
-/

set_option autoImplicit false

namespace AdminConsole

/-- What a path is written with: a character that stands for itself, or a parameter. -/
inductive Symbol where
  | char (c : Char)
  | param (spelling : Spelling) (name : String)
  deriving DecidableEq, Repr

namespace Symbol

/-- The name of a parameter. -/
def name? : Symbol → Option String
  | .char _ => none
  | .param _ name => some name

/-- What a symbol is written as. -/
def spelled : Symbol → List Char
  | .char c => [c]
  | .param spelling name => (Piece.param spelling name).spelled

/-- The symbol in front of pieces. Characters next to each other are one literal. -/
def before : Symbol → List Piece → List Piece
  | .char c, pieces => Piece.consChar c pieces
  | .param spelling name, pieces => .param spelling name :: pieces

/-- The pieces that symbols make. -/
def pieces (symbols : List Symbol) : List Piece :=
  symbols.foldr before []

/-- Whether a text can be the name of a parameter in a path. -/
def IsName (name : String) : Prop :=
  name ≠ "" ∧ ∀ c ∈ name.toList, Piece.isNameChar c = true

/-- The texts that are written with symbols. A name after `:` is as long as it can be, and one in braces ends at the
brace. -/
inductive Writes : List Symbol → List Char → Prop
  | done : Writes [] []
  | char {c : Char} {symbols : List Symbol} {rest : List Char} (colon : c ≠ ':') (brace : c ≠ '{')
      (more : Writes symbols rest) : Writes (.char c :: symbols) (c :: rest)
  | colon {name : String} {symbols : List Symbol} {rest : List Char} (valid : IsName name)
      (longest : ∀ c, rest.head? = some c → Piece.isNameChar c = false) (more : Writes symbols rest) :
      Writes (.param .colon name :: symbols) (':' :: (name.toList ++ rest))
  | braces {name : String} {symbols : List Symbol} {rest : List Char} (valid : IsName name)
      (more : Writes symbols rest) : Writes (.param .braces name :: symbols) ('{' :: (name.toList ++ '}' :: rest))

variable {symbols others : List Symbol} {path : List Char}

/-- A path that symbols write consists of what they are written as. -/
theorem Writes.flatMap_spelled (h : Writes symbols path) : symbols.flatMap spelled = path := by
  induction h with
  | done => rfl
  | char colon brace more ih => rw [List.flatMap_cons, ih]; rfl
  | colon valid longest more ih => rw [List.flatMap_cons, ih]; rfl
  | braces valid more ih =>
    rw [List.flatMap_cons, ih]
    simp [spelled, Piece.spelled]

/-! ## Reading is undone by writing -/

/-- Characters of a name make a name, unless there are none. -/
theorem isName_ofList {text : List Char} (nonempty : text ≠ []) (named : ∀ c ∈ text, Piece.isNameChar c = true) :
    IsName (String.ofList text) :=
  ⟨mt String.ofList_eq_empty_iff.mp nonempty, by rwa [String.toList_ofList]⟩

/-- Whatever pieces are read from, some symbols write, and the pieces are theirs. -/
theorem exists_writes_of_read {pieces : List Piece} (h : Piece.read path = .ok pieces) :
    ∃ symbols, Writes symbols path ∧ pieces = Symbol.pieces symbols := by
  fun_induction Piece.read path generalizing pieces with
  | case1 =>
    cases h
    exact ⟨[], .done, rfl⟩
  | case2 => cases h
  | case3 rest name hname =>
    rename_i ih
    obtain ⟨more, hmore, rfl⟩ := Result.ok_of_map h
    obtain ⟨symbols, hwrites, rfl⟩ := ih hmore
    refine ⟨.param .colon (String.ofList name) :: symbols, ?_, rfl⟩
    -- The name that is read is the longest one.
    have longest : ∀ c, (rest.dropWhile Piece.isNameChar).head? = some c → Piece.isNameChar c = false := by
      intro c hc
      simpa [hc] using List.head?_dropWhile_not Piece.isNameChar rest
    have valid : IsName (String.ofList (rest.takeWhile Piece.isNameChar)) :=
      isName_ofList (fun hempty => hname (List.isEmpty_iff.mpr hempty)) fun c hc => List.mem_takeWhile_imp hc
    have hsplit := Writes.colon valid longest hwrites
    rwa [String.toList_ofList, List.takeWhile_append_dropWhile] at hsplit
  | case4 => cases h
  | case5 => cases h
  | case6 rest name tail hcut hname hbrace ih =>
    obtain ⟨more, hmore, rfl⟩ := Result.ok_of_map h
    obtain ⟨symbols, hwrites, rfl⟩ := ih hmore
    refine ⟨.param .braces (String.ofList name) :: symbols, ?_, rfl⟩
    simp only [Bool.or_eq_true, List.isEmpty_iff, Bool.not_eq_true', not_or, Bool.not_eq_false,
      List.all_eq_true] at hname
    have hsplit := Writes.braces (isName_ofList hname.1 hname.2) hwrites
    rwa [String.toList_ofList, ← (Text.cutFirst_eq_some hcut).1] at hsplit
  | case7 c rest hcolon hbrace ih =>
    obtain ⟨more, hmore, rfl⟩ := Result.ok_of_map h
    obtain ⟨symbols, hwrites, rfl⟩ := ih hmore
    exact ⟨.char c :: symbols, .char hcolon hbrace hwrites, rfl⟩

/-- A run of characters ends where the text after it begins with another one. -/
theorem span_append {p : Char → Bool} {text rest : List Char} (inside : ∀ c ∈ text, p c = true)
    (longest : ∀ c, rest.head? = some c → p c = false) :
    (text ++ rest).takeWhile p = text ∧ (text ++ rest).dropWhile p = rest := by
  rw [List.takeWhile_append_of_pos inside, List.dropWhile_append_of_pos inside]
  cases rest with
  | nil => simp
  | cons c rest => simp [longest c rfl]

/-- What symbols write is read as their pieces. -/
theorem Writes.read_eq (h : Writes symbols path) : Piece.read path = .ok (Symbol.pieces symbols) := by
  induction h with
  | done => rw [Piece.read]; rfl
  | char colon brace more ih =>
    rw [Piece.read, if_neg colon, if_neg brace, ih]
    rfl
  | colon valid longest more ih =>
    obtain ⟨hname, hrest⟩ := span_append valid.2 longest
    rw [Piece.read, if_pos rfl]
    simp only [hname, hrest]
    rw [if_neg (by simpa using valid.1), ih, String.ofList_toList]
    rfl
  | @braces name symbols rest valid more ih =>
    have hfree : '}' ∉ name.toList := fun hmem => absurd (valid.2 _ hmem) (by decide)
    have hcut : Text.cutFirst '}' (name.toList ++ '}' :: rest) = some (name.toList, rest) :=
      Text.cutFirst_append rest hfree
    have hvalid : ¬ (name.toList.isEmpty || !name.toList.all Piece.isNameChar) = true := by
      simpa [List.all_eq_true, IsName] using valid
    rw [Piece.read, if_neg (by decide), if_pos rfl]
    split
    · rename_i hnone
      rw [hnone] at hcut
      cases hcut
    · rename_i first tail hsome
      rw [hsome] at hcut
      obtain ⟨rfl, rfl⟩ := Prod.mk.inj (Option.some.inj hcut)
      rw [if_neg hvalid, ih, String.ofList_toList]
      rfl

/-! ## The symbols of pieces -/

/-- The names of the pieces are those of the symbols. -/
theorem filterMap_name?_pieces (symbols : List Symbol) :
    (pieces symbols).filterMap Piece.name? = symbols.filterMap name? := by
  induction symbols with
  | nil => rfl
  | cons symbol symbols ih =>
    cases symbol with
    | char c => exact (Piece.filterMap_name?_consChar c (pieces symbols)).trans ih
    | param spelling name => exact congrArg (name :: ·) ih

end Symbol

/-- The symbols that a piece is written with. -/
def Piece.symbols : Piece → List Symbol
  | .literal text => text.map .char
  | .param spelling name => [.param spelling name]

/-- The symbols of pieces that a character is put before begin with this character. -/
theorem Piece.flatMap_symbols_consChar (c : Char) (pieces : List Piece) :
    (consChar c pieces).flatMap symbols = .char c :: pieces.flatMap symbols := by
  unfold consChar
  split <;> simp [symbols]

namespace Symbol

variable {symbols others : List Symbol} {path : List Char}

/-- The symbols of the pieces of symbols are these symbols. -/
theorem flatMap_symbols_pieces (symbols : List Symbol) : (pieces symbols).flatMap Piece.symbols = symbols := by
  induction symbols with
  | nil => rfl
  | cons symbol symbols ih =>
    cases symbol with
    | char c => exact (Piece.flatMap_symbols_consChar c (pieces symbols)).trans (congrArg (.char c :: ·) ih)
    | param spelling name => exact congrArg (.param spelling name :: ·) ih

/-- A path is written in one way at most. -/
theorem Writes.unique (h : Writes symbols path) (h' : Writes others path) : symbols = others := by
  have hpieces : pieces symbols = pieces others := Except.ok.inj (h.read_eq.symm.trans h'.read_eq)
  rw [← flatMap_symbols_pieces symbols, hpieces, flatMap_symbols_pieces]

/-! ## Segments -/

/-- A character that is a symbol opens no parameter. -/
theorem Writes.plain (h : Writes symbols path) {c : Char} (hc : .char c ∈ symbols) : c ≠ ':' ∧ c ≠ '{' := by
  induction h with
  | done => cases hc
  | char colon brace more ih =>
    rcases List.mem_cons.mp hc with heq | hmem
    · cases heq
      exact ⟨colon, brace⟩
    · exact ih hmem
  | colon valid longest more ih => exact ih (List.mem_of_ne_of_mem (by simp) hc)
  | braces valid more ih => exact ih (List.mem_of_ne_of_mem (by simp) hc)

/-- The name of a parameter that is written is a name. -/
theorem Writes.isName (h : Writes symbols path) {spelling : Spelling} {name : String}
    (hparam : .param spelling name ∈ symbols) : IsName name := by
  induction h with
  | done => cases hparam
  | char colon brace more ih => exact ih (List.mem_of_ne_of_mem (by simp) hparam)
  | colon valid longest more ih =>
    rcases List.mem_cons.mp hparam with heq | hmem
    · cases heq
      exact valid
    · exact ih hmem
  | braces valid more ih =>
    rcases List.mem_cons.mp hparam with heq | hmem
    · cases heq
      exact valid
    · exact ih hmem

/-- A parameter is written with the characters of names and with its signs alone. -/
theorem IsName.not_mem_spelled {name : String} (h : IsName name) {c : Char} (sign : c ∉ [':', '{', '}'])
    (foreign : Piece.isNameChar c = false) (spelling : Spelling) : c ∉ (param spelling name).spelled := by
  have hname : c ∉ name.toList := fun hmem => Bool.false_ne_true (foreign.symm.trans (h.2 _ hmem))
  simp only [List.mem_cons, List.not_mem_nil, or_false, not_or] at sign
  cases spelling <;> simp [spelled, Piece.spelled, hname, sign]

/-- Only the character `/` has a slash. -/
theorem Writes.slash_not_mem (h : Writes symbols path) {symbol : Symbol} (hsymbol : symbol ∈ symbols)
    (other : symbol ≠ .char '/') : '/' ∉ symbol.spelled := by
  cases symbol with
  | char c =>
    intro hmem
    exact other (congrArg Symbol.char (List.mem_singleton.mp hmem).symm)
  | param spelling name => exact (h.isName hsymbol).not_mem_spelled (by decide) rfl spelling

/-- The characters of a path that can stand for themselves only. -/
theorem Writes.mem_iff (h : Writes symbols path) {c : Char} (sign : c ∉ [':', '{', '}'])
    (foreign : Piece.isNameChar c = false) : c ∈ path ↔ .char c ∈ symbols := by
  rw [← h.flatMap_spelled, List.mem_flatMap]
  constructor
  · rintro ⟨symbol, hsymbol, hmem⟩
    cases symbol with
    | char d =>
      obtain rfl := List.mem_singleton.mp hmem
      exact hsymbol
    | param spelling name => exact absurd hmem ((h.isName hsymbol).not_mem_spelled sign foreign spelling)
  · intro hchar
    exact ⟨.char c, hchar, List.mem_singleton_self c⟩

/-- A symbol that is no slash belongs to the segment that comes after it. -/
theorem splitOn_slash_cons_of_ne {symbol : Symbol} (other : symbol ≠ .char '/') (symbols : List Symbol) :
    (symbol :: symbols).splitOn (.char '/') = (symbols.splitOn (.char '/')).modifyHead (symbol :: ·) := by
  rw [List.splitOn, List.splitOnP_cons_eq_if_modifyHead, if_neg (by simpa using other)]
  rfl

/-- Before a slash there is an empty segment of symbols. -/
theorem splitOn_slash_cons (symbols : List Symbol) :
    (.char '/' :: symbols : List Symbol).splitOn (.char '/') = [] :: symbols.splitOn (.char '/') := by
  rw [List.splitOn, List.splitOnP_cons_eq_if_modifyHead, if_pos (by simp)]
  rfl

/-- The symbols of a segment are symbols of the whole. -/
theorem mem_of_mem_splitOn_slash {segment : List Symbol} (hsegment : segment ∈ symbols.splitOn (.char '/'))
    {symbol : Symbol} (hsymbol : symbol ∈ segment) : symbol ∈ symbols := by
  induction symbols generalizing segment with
  | nil =>
    obtain rfl : segment = [] := by simpa using hsegment
    cases hsymbol
  | cons first symbols ih =>
    by_cases hslash : first = .char '/'
    · rw [hslash, splitOn_slash_cons, List.mem_cons] at hsegment
      rcases hsegment with rfl | hmem
      · cases hsymbol
      · exact List.mem_cons_of_mem _ (ih hmem hsymbol)
    · obtain ⟨head, tail, hsplit⟩ := List.exists_cons_of_ne_nil (List.splitOnP_ne_nil (· == .char '/') symbols)
      rw [splitOn_slash_cons_of_ne hslash, List.splitOn, hsplit, List.modifyHead_cons, List.mem_cons] at hsegment
      rw [List.splitOn, hsplit] at ih
      rcases hsegment with rfl | hmem
      · rcases List.mem_cons.mp hsymbol with rfl | hhead
        · exact List.mem_cons_self
        · exact List.mem_cons_of_mem _ (ih List.mem_cons_self hhead)
      · exact List.mem_cons_of_mem _ (ih (List.mem_cons_of_mem _ hmem) hsymbol)

/-- The segments of a path are those of its symbols. -/
theorem map_splitOn_slash (whole : ∀ symbol ∈ symbols, symbol ≠ .char '/' → '/' ∉ symbol.spelled) :
    (symbols.splitOn (.char '/')).map (·.flatMap spelled) = Text.pieces '/' (symbols.flatMap spelled) := by
  induction symbols with
  | nil => rfl
  | cons symbol symbols ih =>
    obtain ⟨hsymbol, hsymbols⟩ := List.forall_mem_cons.mp whole
    by_cases hslash : symbol = .char '/'
    · subst hslash
      rw [splitOn_slash_cons, List.map_cons, ih hsymbols]
      rfl
    · rw [splitOn_slash_cons_of_ne hslash, List.flatMap_cons, Text.pieces_append_of_not_mem _ (hsymbol hslash),
        ← ih hsymbols]
      cases symbols.splitOn (.char '/') <;> rfl

/-- The segments of symbols are written as the segments of the path. -/
theorem Writes.map_splitOn_slash (h : Writes symbols path) :
    (symbols.splitOn (.char '/')).map (·.flatMap spelled) = Text.pieces '/' path := by
  rw [Symbol.map_splitOn_slash fun symbol => h.slash_not_mem, h.flatMap_spelled]

/-- There are as many segments of symbols as of the path. -/
theorem Writes.length_splitOn_slash (h : Writes symbols path) :
    (symbols.splitOn (.char '/')).length = (Text.pieces '/' path).length := by
  rw [← h.map_splitOn_slash, List.length_map]

/-- Whether a segment has text and no parameter. -/
def isPlain (segment : List Symbol) : Bool :=
  !segment.isEmpty && segment.all fun symbol => symbol.name?.isNone

/-- A parameter brings in one of the two characters that begin parameters, and nothing else does. -/
theorem isLiteralSegment_flatMap_spelled {segment : List Symbol}
    (plain : ∀ c, .char c ∈ segment → c ≠ ':' ∧ c ≠ '{') :
    Pattern.isLiteralSegment (segment.flatMap spelled) = isPlain segment := by
  have hempty : (segment.flatMap spelled).isEmpty = segment.isEmpty := by
    rcases segment with _ | ⟨_ | ⟨_ | _⟩, _⟩ <;> rfl
  have hparams : (!(segment.flatMap spelled).contains ':' && !(segment.flatMap spelled).contains '{') =
      segment.all fun symbol => symbol.name?.isNone := by
    clear hempty
    induction segment with
    | nil => rfl
    | cons symbol segment ih =>
      have hrest := ih fun c hc => plain c (List.mem_cons_of_mem _ hc)
      cases symbol with
      | char c =>
        obtain ⟨hcolon, hbrace⟩ := plain c List.mem_cons_self
        rw [List.all_cons, ← hrest]
        simp [spelled, name?, hcolon.symm, hbrace.symm]
      | param spelling name => cases spelling <;> simp [spelled, Piece.spelled, name?]
  rw [Pattern.isLiteralSegment, hempty, Bool.and_assoc, hparams, isPlain]

/-! ## What is read and written -/

open Pattern (Reads fill)

/-- A character reads itself, and the symbols after it read the rest. -/
theorem reads_char_iff {c : Char} {text : List Char} {texts : List (List Char)} :
    Reads (pieces (.char c :: symbols)) text texts ↔ ∃ rest, text = c :: rest ∧ Reads (pieces symbols) rest texts := by
  have hpieces : pieces (.char c :: symbols) = Piece.consChar c (pieces symbols) := rfl
  rw [hpieces]
  generalize pieces symbols = more
  -- The character stands in front of a literal that follows, or in a literal of its own.
  unfold Piece.consChar
  split
  · rename_i following _
    constructor
    · intro h
      cases h with
      | literal _ rest => exact ⟨_, rfl, .literal following rest⟩
    · rintro ⟨_, rfl, h⟩
      cases h with
      | literal _ rest => exact .literal (c :: following) rest
  · constructor
    · intro h
      cases h with
      | literal _ rest => exact ⟨_, rfl, rest⟩
    · rintro ⟨_, rfl, h⟩
      exact .literal [c] h

/-- A parameter reads any text without a slash, and the symbols after it read the rest. -/
theorem reads_param_iff {spelling : Spelling} {name : String} {text : List Char} {texts : List (List Char)} :
    Reads (pieces (.param spelling name :: symbols)) text texts ↔
      ∃ segment rest others, text = segment ++ rest ∧ texts = segment :: others ∧ '/' ∉ segment ∧
        Reads (pieces symbols) rest others := by
  constructor
  · intro h
    cases h with
    | param _ _ free more => exact ⟨_, _, _, rfl, rfl, free, more⟩
  · rintro ⟨segment, rest, others, rfl, rfl, free, more⟩
    exact .param spelling name free more

/-- A character is filled in before the symbols after it. -/
theorem fill_char (values : Dictionary String) (c : Char) (symbols : List Symbol) :
    fill values (pieces (.char c :: symbols)) = (fill values (pieces symbols)).map (c :: ·) := by
  have hpieces : pieces (.char c :: symbols) = Piece.consChar c (pieces symbols) := rfl
  rw [hpieces]
  generalize pieces symbols = more
  unfold Piece.consChar
  split
  · rw [fill, fill, Option.map_map]
    rfl
  · rfl

/-- A parameter is filled in with its value before the symbols after it. -/
theorem fill_param (values : Dictionary String) (spelling : Spelling) (name : String) (symbols : List Symbol) :
    fill values (pieces (.param spelling name :: symbols)) =
      (values.get? name).bind fun value => (fill values (pieces symbols)).map (Percent.encodeChars value.toList ++ ·) := by
  have hpieces : pieces (.param spelling name :: symbols) = .param spelling name :: pieces symbols := rfl
  rw [hpieces, fill]
  cases values.get? name <;> cases fill values (pieces symbols) <;> rfl

end Symbol

end AdminConsole
