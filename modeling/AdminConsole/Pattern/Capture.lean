import AdminConsole.Pattern.Basic

/-!
# What the parameters of a pattern capture

A path matches a pattern when it can be written as the pattern's pieces with a text without `/` in place
of each parameter. Of several ways the one counts that gives the leftmost parameter as much as
possible, then the next, and so on. `Pattern.capture` says this by trying the ways one after another,
which may be very many. `Pattern.captureByTable` fills one table for each piece, from the last piece to
the first, with an entry for every suffix of the path. Main statement: the two agree.
-/

set_option autoImplicit false

namespace AdminConsole

namespace Pattern

/-- The longest beginning of the text without `/` after which `next` succeeds on what remains, with
the answer of `next`. -/
def longestSegment {α : Type} (next : List Char → Option α) : List Char → Option (List Char × α)
  | [] => (next []).map ([], ·)
  | c :: rest =>
      if c = '/' then (next (c :: rest)).map ([], ·)
      else
        match longestSegment next rest with
        | some (segment, answer) => some (c :: segment, answer)
        | none => (next (c :: rest)).map ([], ·)

/-- The texts that stand for the parameters when the whole path is read as these pieces. -/
def capture : List Piece → List Char → Option (List (List Char))
  | [], [] => some []
  | [], _ :: _ => none
  | .literal text :: pieces, path =>
      match Text.after? text path with
      | some rest => capture pieces rest
      | none => none
  | .param _ _ :: pieces, path =>
      (longestSegment (capture pieces) path).map fun found => found.1 :: found.2

/-! ## One table for each piece -/

/-- The suffixes of a text, from the text itself down to the empty text. -/
def suffixes : List Char → List (List Char)
  | [] => [[]]
  | c :: rest => (c :: rest) :: suffixes rest

/-- For every suffix of a path, longest first, what some pieces capture when that suffix is read as
them. -/
abbrev CaptureTable := List (Option (List (List Char)))

namespace CaptureTable

/-- The entry of the longest suffix in the table. -/
def entry (table : CaptureTable) : Option (List (List Char)) :=
  table.head?.join

/-- The table of no pieces, which read the empty text only. -/
def atEnd : List Char → CaptureTable
  | [] => [some []]
  | _ :: rest => none :: atEnd rest

/-- What is captured from a path that has to begin with `text`; the table is that of the pieces after
it. -/
def literalEntry (text path : List Char) (table : CaptureTable) : Option (List (List Char)) :=
  if (Text.after? text path).isSome then entry (table.drop text.length) else none

/-- The table of a literal piece and the pieces after it, whose table is given. -/
def addLiteral (text : List Char) : List Char → CaptureTable → CaptureTable
  | [], table => [literalEntry text [] table]
  | c :: rest, table => literalEntry text (c :: rest) table :: addLiteral text rest table.tail

/-- What is captured from a path by a parameter and the pieces after it. The table is that of the
pieces after it, and `later` is the entry for the path without its first character: if there is one,
the parameter takes that character too. -/
def paramEntry (c : Char) (table : CaptureTable) (later : Option (List (List Char))) :
    Option (List (List Char)) :=
  let here := (entry table).map ([] :: ·)
  if c = '/' then here
  else
    match later with
    | some (segment :: others) => some ((c :: segment) :: others)
    | _ => here

/-- The table of a parameter and the pieces after it, whose table is given. -/
def addParam : List Char → CaptureTable → CaptureTable
  | [], table => [(entry table).map ([] :: ·)]
  | c :: rest, table =>
      let later := addParam rest table.tail
      paramEntry c table (entry later) :: later

/-- The table of these pieces for a path. -/
def ofPieces : List Piece → List Char → CaptureTable
  | [], path => atEnd path
  | .literal text :: pieces, path => addLiteral text path (ofPieces pieces path)
  | .param _ _ :: pieces, path => addParam path (ofPieces pieces path)

end CaptureTable

/-- What the pieces capture from a path, found in a number of steps proportional to the length of the
path for each piece. -/
def captureByTable (pieces : List Piece) (path : List Char) : Option (List (List Char)) :=
  (CaptureTable.ofPieces pieces path).entry

/-! ## The table holds what is captured -/

namespace CaptureTable

/-- The first entry of a table is that of the whole text. -/
theorem entry_map_suffixes (f : List Char → Option (List (List Char))) (path : List Char) :
    entry ((suffixes path).map f) = f path := by
  cases path <;> simp [entry, suffixes]

/-- The table of a text without its first character is the table of the text without its first entry. -/
theorem tail_map_suffixes (f : List Char → Option (List (List Char))) (c : Char)
    (rest : List Char) : ((suffixes (c :: rest)).map f).tail = (suffixes rest).map f := rfl

/-- The table of a text without its start is the table of the text without as many entries. -/
theorem drop_map_suffixes (f : List Char → Option (List (List Char))) (start rest : List Char) :
    ((suffixes (start ++ rest)).map f).drop start.length = (suffixes rest).map f := by
  induction start with
  | nil => rfl
  | cons c start ih => simpa [suffixes] using ih

/-- The table of no pieces holds what no pieces capture of each suffix. -/
theorem atEnd_eq (path : List Char) : atEnd path = (suffixes path).map (capture []) := by
  induction path with
  | nil => rfl
  | cons c rest ih => simp [atEnd, suffixes, capture, ih]

/-- An entry for a literal piece is what this piece and those after it capture. -/
theorem literalEntry_eq (text : List Char) (pieces : List Piece) (path : List Char) :
    literalEntry text path ((suffixes path).map (capture pieces)) =
      capture (.literal text :: pieces) path := by
  unfold literalEntry
  cases h : Text.after? text path with
  | none => simp [capture, h]
  | some rest =>
      obtain rfl := Text.eq_append_of_after? h
      simp [capture, h, drop_map_suffixes, entry_map_suffixes]

/-- The table of a literal piece holds what it and the pieces after it capture of each suffix. -/
theorem addLiteral_eq (text : List Char) (pieces : List Piece) (path : List Char) :
    addLiteral text path ((suffixes path).map (capture pieces)) =
      (suffixes path).map (capture (.literal text :: pieces)) := by
  induction path with
  | nil => exact congrArg (· :: []) (literalEntry_eq text pieces [])
  | cons c rest ih =>
      rw [addLiteral, literalEntry_eq, tail_map_suffixes, ih]
      rfl

/-- An entry for a parameter is what it and the pieces after it capture, given what they capture of the rest. -/
theorem paramEntry_eq (spelling : Spelling) (name : String) (pieces : List Piece) (c : Char)
    (rest : List Char) :
    paramEntry c ((suffixes (c :: rest)).map (capture pieces))
        (capture (.param spelling name :: pieces) rest) =
      capture (.param spelling name :: pieces) (c :: rest) := by
  simp only [paramEntry, entry_map_suffixes, capture]
  by_cases hc : c = '/'
  · simp [longestSegment, hc, Function.comp_def]
  · cases h : longestSegment (capture pieces) rest <;>
      simp [longestSegment, hc, h, Function.comp_def]

/-- The table of a parameter holds what it and the pieces after it capture of each suffix. -/
theorem addParam_eq (spelling : Spelling) (name : String) (pieces : List Piece)
    (path : List Char) :
    addParam path ((suffixes path).map (capture pieces)) =
      (suffixes path).map (capture (.param spelling name :: pieces)) := by
  induction path with
  | nil => simp [addParam, suffixes, entry, capture, longestSegment, Function.comp_def]
  | cons c rest ih =>
      simp only [addParam, tail_map_suffixes, ih, entry_map_suffixes, paramEntry_eq]
      rfl

/-- The table of some pieces holds what they capture of each suffix. -/
theorem ofPieces_eq (pieces : List Piece) (path : List Char) :
    ofPieces pieces path = (suffixes path).map (capture pieces) := by
  induction pieces with
  | nil => exact atEnd_eq path
  | cons piece pieces ih =>
      cases piece with
      | literal text => rw [ofPieces, ih, addLiteral_eq]
      | param spelling name => rw [ofPieces, ih, addParam_eq spelling name]

end CaptureTable

/-- The table captures what the pieces capture. -/
theorem captureByTable_eq (pieces : List Piece) (path : List Char) :
    captureByTable pieces path = capture pieces path := by
  rw [captureByTable, CaptureTable.ofPieces_eq, CaptureTable.entry_map_suffixes]

end Pattern

end AdminConsole
