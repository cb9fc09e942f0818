import AdminConsole.Proofs.Pattern.Separated
import AdminConsole.Proofs.Text.Splitting

/-!
# Patterns made of whole segments

In most patterns each segment between two slashes is either plain text or one parameter. A path is then read
segment by segment, and nothing is left to the preference for long captures. Main statement: for such a pattern,
reading a path as a whole is reading its segments one after another. So two patterns can match a common path
only if they have equally many segments, and wherever both have plain text it is the same text.
-/

set_option autoImplicit false

namespace AdminConsole

/-- A segment of the path of a pattern. -/
inductive Segment where
  /-- Text that the segment of a path has to repeat exactly. -/
  | plain (text : List Char)
  /-- A parameter, for which the whole segment of a path stands. -/
  | param (name : String)
  deriving DecidableEq, Repr

namespace Segment

/-- The segment that is written like this: `:name` is a parameter, anything else is plain. -/
def ofText : List Char → Segment
  | ':' :: name => .param (String.ofList name)
  | text => .plain text

/-- The pieces of a segment in front of those that follow it. -/
def before : Segment → List Piece → List Piece
  | .plain text, pieces => text.foldr Piece.consChar pieces
  | .param name, pieces => .param .colon name :: pieces

/-- The pieces of segments, with a slash between each two. -/
def pieces : List Segment → List Piece
  | [] => []
  | [segment] => segment.before []
  | segment :: next :: more => segment.before (Piece.consChar '/' (pieces (next :: more)))

/-- Whether a segment of a path can be read as this one. -/
def admits : Segment → List Char → Bool
  | .plain text, part => part == text
  | .param _, _ => true

/-- What is captured from a segment of a path that is read as this one. -/
def captured : Segment → List Char → List (List Char)
  | .plain _, _ => []
  | .param _, part => [part]

/-- What is captured when the segments of a path are read as these. -/
def capture : List Segment → List (List Char) → Option (List (List Char))
  | [], [] => some []
  | segment :: segments, part :: parts =>
      if segment.admits part then (capture segments parts).map (segment.captured part ++ ·) else none
  | _, _ => none

/-- Whether one text can stand for both segments. -/
def meets : Segment → Segment → Bool
  | .plain a, .plain b => a == b
  | _, _ => true

/-- Whether there can be a path that is read as the segments on both sides. -/
def meet : List Segment → List Segment → Bool
  | [], [] => true
  | a :: as, b :: bs => a.meets b && meet as bs
  | _, _ => false

variable {segment : Segment} {segments : List Segment} {part : List Char} {parts texts : List (List Char)}

/-- Segments capture the parts of a path that they admit, one after another. -/
theorem capture_cons_eq_some_iff :
    capture (segment :: segments) (part :: parts) = some texts ↔
      segment.admits part = true ∧
        ∃ others, capture segments parts = some others ∧ texts = segment.captured part ++ others := by
  rw [capture]
  split
  · rename_i h
    simp only [h, true_and, Option.map_eq_some_iff, @eq_comm _ texts]
  · rename_i h
    simp [h]

/-! ## Patterns that meet -/

/-- Two segments that admit the same part can meet. -/
theorem meets_of_admits {a b : Segment} (ha : a.admits part = true) (hb : b.admits part = true) :
    a.meets b = true := by
  cases a with
  | param name => rfl
  | plain text =>
    cases b with
    | param name => rfl
    | plain other =>
      obtain rfl : part = text := by simpa [admits] using ha
      simpa [admits, meets] using hb

/-- Segments that read the same segments of a path meet. -/
theorem meet_of_capture {as bs : List Segment} {texts' : List (List Char)}
    (h : capture as parts = some texts) (h' : capture bs parts = some texts') : meet as bs = true := by
  induction as generalizing bs parts texts texts' with
  | nil =>
    cases parts with
    | cons part parts => cases h
    | nil =>
      cases bs with
      | nil => rfl
      | cons b bs => cases h'
  | cons a as ih =>
    cases parts with
    | nil => cases h
    | cons part parts =>
      cases bs with
      | nil => cases h'
      | cons b bs =>
        obtain ⟨ha, others, hothers, _⟩ := capture_cons_eq_some_iff.mp h
        obtain ⟨hb, others', hothers', _⟩ := capture_cons_eq_some_iff.mp h'
        rw [meet, meets_of_admits ha hb, ih hothers hothers', Bool.true_and]

end Segment

namespace Pattern

variable {pieces : List Piece} {path text : List Char} {texts : List (List Char)}

/-! ## What one piece reads -/

/-- No pieces capture the empty path alone. -/
theorem capture_nil_eq_some_iff : capture [] path = some texts ↔ path = [] ∧ texts = [] := by
  cases path <;> simp [capture, eq_comm]

/-- A literal piece captures a path that starts with its text, and nothing of it. -/
theorem capture_literal_eq_some_iff :
    capture (.literal text :: pieces) path = some texts ↔
      ∃ rest, path = text ++ rest ∧ capture pieces rest = some texts := by
  constructor
  · intro h
    simp only [capture] at h
    split at h
    · rename_i rest hrest
      exact ⟨rest, Text.eq_append_of_after? hrest, h⟩
    · cases h
  · rintro ⟨rest, rfl, h⟩
    rw [capture, Text.after?_append]
    exact h

/-- A character that is put before pieces has to come first in the path. -/
theorem capture_consChar_eq_some_iff (c : Char) :
    capture (Piece.consChar c pieces) path = some texts ↔
      ∃ rest, path = c :: rest ∧ capture pieces rest = some texts := by
  -- A literal at the front takes the character up, and everything else gets a literal of its own.
  unfold Piece.consChar
  split
  · simp only [capture_literal_eq_some_iff, List.cons_append]
    constructor
    · rintro ⟨rest, rfl, h⟩
      exact ⟨_, rfl, rest, rfl, h⟩
    · rintro ⟨_, rfl, rest, rfl, h⟩
      exact ⟨rest, rfl, h⟩
  · exact capture_literal_eq_some_iff

/-- Characters that are put before pieces have to come first in the path. -/
theorem capture_foldr_consChar_eq_some_iff :
    capture (text.foldr Piece.consChar pieces) path = some texts ↔
      ∃ rest, path = text ++ rest ∧ capture pieces rest = some texts := by
  induction text generalizing path with
  | nil => simp
  | cons c text ih =>
    rw [List.foldr_cons, capture_consChar_eq_some_iff]
    constructor
    · rintro ⟨rest, rfl, h⟩
      obtain ⟨tail, rfl, htail⟩ := ih.mp h
      exact ⟨tail, rfl, htail⟩
    · rintro ⟨tail, rfl, htail⟩
      exact ⟨text ++ tail, rfl, ih.mpr ⟨tail, rfl, htail⟩⟩

/-- Whether pieces read only texts that are empty or begin with a slash. -/
def StartAtSlash (pieces : List Piece) : Prop :=
  ∀ path texts, capture pieces path = some texts → path.head? = none ∨ path.head? = some '/'

/-- No pieces leave a parameter before them to end where the path does. -/
theorem startAtSlash_nil : StartAtSlash [] := by
  intro path texts h
  rw [(capture_nil_eq_some_iff.mp h).1]
  exact .inl rfl

/-- A literal that begins with a slash ends a parameter before it. -/
theorem startAtSlash_literal : StartAtSlash (.literal ('/' :: text) :: pieces) := by
  intro path texts h
  obtain ⟨rest, rfl, _⟩ := capture_literal_eq_some_iff.mp h
  exact .inr rfl

/-- A slash that is put before pieces ends a parameter before it. -/
theorem startAtSlash_consChar : StartAtSlash (Piece.consChar '/' pieces) := by
  intro path texts h
  obtain ⟨rest, rfl, _⟩ := (capture_consChar_eq_some_iff '/').mp h
  exact .inr rfl

/-- A parameter that the text or a slash ends has a whole segment. -/
theorem longestSegment_of_slash {α : Type} {next : List Char → Option α} {segment tail : List Char}
    {answer : α} (free : '/' ∉ segment) (ends : tail.head? = none ∨ tail.head? = some '/')
    (here : next tail = some answer) :
    longestSegment next (segment ++ tail) = some (segment, answer) := by
  apply longestSegment_append free here
  rintro extra later rfl hextra hfree
  obtain ⟨c, more, rfl⟩ := List.exists_cons_of_ne_nil hextra
  have hc : c = '/' := by simpa using ends
  exact absurd List.mem_cons_self (hc ▸ hfree)

/-- A parameter at whose end there is a slash captures what comes before the slash. -/
theorem capture_param_eq_some_iff {spelling : Spelling} {name : String} (ends : StartAtSlash pieces) :
    capture (.param spelling name :: pieces) path = some texts ↔
      ∃ part rest others, path = part ++ rest ∧ '/' ∉ part ∧ capture pieces rest = some others ∧
        texts = part :: others := by
  constructor
  · intro h
    obtain ⟨⟨part, others⟩, hpart, rfl⟩ := Option.map_eq_some_iff.mp h
    obtain ⟨rest, rfl, hfree, hrest⟩ := eq_append_of_longestSegment hpart
    exact ⟨part, rest, others, rfl, hfree, hrest, rfl⟩
  · rintro ⟨part, rest, others, rfl, hfree, hrest, rfl⟩
    rw [capture, longestSegment_of_slash hfree (ends rest others hrest) hrest]
    rfl

/-! ## What one segment reads -/

/-- The last segment reads all of a text without a slash. -/
theorem capture_before_nil_eq_some_iff {segment : Segment}
    (free : ∀ text, segment = .plain text → '/' ∉ text) :
    capture (segment.before []) path = some texts ↔
      '/' ∉ path ∧ segment.admits path = true ∧ texts = segment.captured path := by
  cases segment with
  | plain text =>
    simp only [Segment.before, capture_foldr_consChar_eq_some_iff, capture_nil_eq_some_iff,
      Segment.admits, Segment.captured, beq_iff_eq]
    constructor
    · rintro ⟨_, rfl, rfl, rfl⟩
      rw [List.append_nil]
      exact ⟨free text rfl, rfl, rfl⟩
    · rintro ⟨_, rfl, rfl⟩
      exact ⟨[], (List.append_nil path).symm, rfl, rfl⟩
  | param name =>
    simp only [Segment.before, capture_param_eq_some_iff startAtSlash_nil, capture_nil_eq_some_iff,
      Segment.admits, Segment.captured, true_and]
    constructor
    · rintro ⟨part, _, _, rfl, hfree, ⟨rfl, rfl⟩, rfl⟩
      rw [List.append_nil]
      exact ⟨hfree, rfl⟩
    · rintro ⟨hfree, rfl⟩
      exact ⟨path, [], [], (List.append_nil path).symm, hfree, ⟨rfl, rfl⟩, rfl⟩

/-- A segment before the last one reads the text up to the first slash. -/
theorem capture_before_slash_eq_some_iff {segment : Segment}
    (free : ∀ text, segment = .plain text → '/' ∉ text) :
    capture (segment.before (Piece.consChar '/' pieces)) path = some texts ↔
      ∃ part rest others, path = part ++ '/' :: rest ∧ '/' ∉ part ∧ segment.admits part = true ∧
        capture pieces rest = some others ∧ texts = segment.captured part ++ others := by
  cases segment with
  | plain text =>
    simp only [Segment.before, capture_foldr_consChar_eq_some_iff, capture_consChar_eq_some_iff,
      Segment.admits, Segment.captured, beq_iff_eq]
    constructor
    · rintro ⟨_, rfl, rest, rfl, hrest⟩
      exact ⟨text, rest, texts, rfl, free text rfl, rfl, hrest, rfl⟩
    · rintro ⟨part, rest, others, rfl, _, rfl, hrest, rfl⟩
      exact ⟨'/' :: rest, rfl, rest, rfl, hrest⟩
  | param name =>
    simp only [Segment.before, capture_param_eq_some_iff startAtSlash_consChar,
      capture_consChar_eq_some_iff, Segment.admits, Segment.captured, true_and]
    constructor
    · rintro ⟨part, _, others, rfl, hfree, ⟨rest, rfl, hrest⟩, rfl⟩
      exact ⟨part, rest, others, rfl, hfree, hrest, rfl⟩
    · rintro ⟨part, rest, others, rfl, hfree, hrest, rfl⟩
      exact ⟨part, _, others, rfl, hfree, ⟨rest, rfl, hrest⟩, rfl⟩

/-! ## Reading segment by segment -/

/-- **Reading a path as a whole is reading its segments one after another.** -/
theorem capture_pieces {segments : List Segment} (nonempty : segments ≠ [])
    (free : ∀ text, .plain text ∈ segments → '/' ∉ text) (path : List Char) :
    capture (Segment.pieces segments) path = Segment.capture segments (Text.pieces '/' path) := by
  apply Option.ext
  intro texts
  -- Along the segments: the first of them takes the text up to the first slash, which is the first piece.
  fun_induction Segment.pieces segments generalizing path texts with
  | case1 => exact absurd rfl nonempty
  | case2 segment =>
    rw [capture_before_nil_eq_some_iff fun text h => free text (by simp [h])]
    cases hcut : Text.cutFirst '/' path with
    | none =>
      have hfree := Text.cutFirst_eq_none_iff.mp hcut
      rw [Text.pieces_of_not_mem hfree, Segment.capture_cons_eq_some_iff]
      simp [hfree, Segment.capture]
    | some cut =>
      obtain ⟨rfl, hfirst⟩ := Text.cutFirst_eq_some hcut
      obtain ⟨part, parts, hrest⟩ := List.exists_cons_of_ne_nil (Text.pieces_ne_nil '/' cut.2)
      rw [Text.pieces_append cut.2 hfirst, hrest, Segment.capture_cons_eq_some_iff]
      simp [Segment.capture]
  | case3 segment next more ih =>
    rw [capture_before_slash_eq_some_iff fun text h => free text (by simp [h])]
    have hih := ih (List.cons_ne_nil next more) fun text h => free text (List.mem_cons_of_mem segment h)
    constructor
    · rintro ⟨part, rest, others, rfl, hpart, hadmits, hrest, rfl⟩
      rw [Text.pieces_append rest hpart, Segment.capture_cons_eq_some_iff]
      exact ⟨hadmits, others, (hih rest others).mp hrest, rfl⟩
    · intro h
      cases hcut : Text.cutFirst '/' path with
      | none =>
        rw [Text.pieces_of_not_mem (Text.cutFirst_eq_none_iff.mp hcut),
          Segment.capture_cons_eq_some_iff] at h
        obtain ⟨_, others, hothers, _⟩ := h
        cases hothers
      | some cut =>
        obtain ⟨rfl, hfirst⟩ := Text.cutFirst_eq_some hcut
        rw [Text.pieces_append cut.2 hfirst, Segment.capture_cons_eq_some_iff] at h
        obtain ⟨hadmits, others, hothers, rfl⟩ := h
        exact ⟨cut.1, cut.2, others, rfl, hfirst, hadmits, (hih cut.2 others).mpr hothers, rfl⟩

/-- The segments that the path of a pattern is written with. -/
def segments (p : Pattern) : List Segment :=
  (Text.pieces '/' (splitQuery p.source.toList).1).map Segment.ofText

/-- Whether each segment of a pattern is plain text or one parameter. -/
def isSegmented (p : Pattern) : Bool :=
  p.pieces == Segment.pieces p.segments

/-- A plain segment contains no slash. -/
theorem slash_not_mem_of_mem_segments {p : Pattern} (h : .plain text ∈ p.segments) : '/' ∉ text := by
  obtain ⟨written, hwritten, htext⟩ := List.mem_map.mp h
  unfold Segment.ofText at htext
  split at htext
  · cases htext
  · cases htext
    exact Text.not_mem_of_mem_pieces hwritten

/-- A pattern that consists of segments captures a path segment by segment. -/
theorem capture_of_isSegmented {p : Pattern} (h : p.isSegmented = true) (path : List Char) :
    capture p.pieces path = Segment.capture p.segments (Text.pieces '/' path) := by
  have hnonempty : p.segments ≠ [] := by
    simpa [segments] using Text.pieces_ne_nil '/' (splitQuery p.source.toList).1
  rw [eq_of_beq h, capture_pieces hnonempty fun text => slash_not_mem_of_mem_segments]

/-- Texts can be decoded together if each of them can. -/
theorem isSome_decodeAll_iff :
    (decodeAll texts).isSome = true ↔ ∀ text ∈ texts, (Percent.decodeChars text).isSome = true := by
  induction texts with
  | nil => simp [decodeAll]
  | cons text texts ih =>
    rw [List.forall_mem_cons, ← ih]
    cases h : Percent.decodeChars text <;> cases h' : decodeAll texts <;> simp [decodeAll, h, h']

/-- A path matches if it can be read and all that is captured can be decoded. -/
theorem isMatch_iff {p : Pattern} {path : String} :
    p.isMatch path = true ↔
      ∃ texts, capture p.pieces path.toList = some texts ∧
        ∀ text ∈ texts, (Percent.decodeChars text).isSome = true := by
  simp [isMatch, match?, captureByTable_eq, Option.isSome_bind, Option.any_eq_true,
    isSome_decodeAll_iff]

/-- **Patterns that match a common path meet.** -/
theorem meet_of_isMatch {p q : Pattern} (hp : p.isSegmented = true) (hq : q.isSegmented = true)
    {path : String} (h : p.isMatch path = true) (h' : q.isMatch path = true) :
    Segment.meet p.segments q.segments = true := by
  obtain ⟨texts, htexts, _⟩ := isMatch_iff.mp h
  obtain ⟨texts', htexts', _⟩ := isMatch_iff.mp h'
  rw [capture_of_isSegmented hp] at htexts
  rw [capture_of_isSegmented hq] at htexts'
  exact Segment.meet_of_capture htexts htexts'

end Pattern

end AdminConsole
