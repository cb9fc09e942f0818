import AdminConsole.Text.Cut

/-!
# URL patterns

A pattern is written like the URLs it stands for: literal text, and parameters as `:name` or `{name}`,
then optionally `?` and the names of query parameters between `&`. Reading one gives its pieces. The
pieces in their own spelling, put together, are the path that was read.
-/

set_option autoImplicit false

namespace AdminConsole

/-- The two spellings of a parameter, `:name` and `{name}`. -/
inductive Spelling where
  | colon
  | braces
  deriving DecidableEq, Repr

/-- A piece of a pattern's path. -/
inductive Piece where
  /-- Text that a path has to repeat exactly. -/
  | literal (text : List Char)
  /-- A parameter, which stands for any text without `/`. -/
  | param (spelling : Spelling) (name : String)
  deriving DecidableEq, Repr

/-- A pattern that was read. -/
structure Pattern where
  /-- The pattern as it was written. -/
  source : String
  /-- Its path, in order. -/
  pieces : List Piece
  /-- The names in its query list, in order and as often as they were written. -/
  queryNames : List String
  deriving DecidableEq, Repr

/-- Why a text is no pattern. -/
inductive PatternError where
  /-- The text has more bytes than a pattern may have. -/
  | tooLong (bytes : Nat)
  /-- The path has more segments than a pattern may have. -/
  | tooManySegments (count : Nat)
  /-- A `:` without a name after it. -/
  | emptyName (path : String)
  /-- A `{` without a `}` after it. -/
  | unclosed (path : String)
  /-- A name in braces that is empty or has other characters than letters, digits and `_`. -/
  | badName (name path : String)
  /-- A name that begins with a digit, or the same name twice. -/
  | unusableNames
  deriving DecidableEq, Repr

namespace Piece

/-- The characters that a parameter's name is made of: ASCII letters, digits and `_`. -/
def isNameChar (c : Char) : Bool :=
  c.isAlphanum || c == '_'

/-- The name, if the piece is a parameter. -/
def name? : Piece → Option String
  | .literal _ => none
  | .param _ name => some name

/-- The piece as it is written in a pattern. -/
def spelled : Piece → List Char
  | .literal text => text
  | .param .colon name => ':' :: name.toList
  | .param .braces name => '{' :: name.toList ++ ['}']

/-- Puts a literal character in front of the pieces that follow it. -/
def consChar (c : Char) : List Piece → List Piece
  | .literal text :: more => .literal (c :: text) :: more
  | more => .literal [c] :: more

/-- What can be wrong with the pieces of a path. -/
inductive Fault where
  | emptyName
  | unclosed
  | badName (name : List Char)
  deriving DecidableEq, Repr

/-- A text is not longer without its beginning. -/
theorem length_dropWhile_le (p : Char → Bool) (text : List Char) :
    (text.dropWhile p).length ≤ text.length :=
  (List.dropWhile_suffix p).length_le

/-- Reads the pieces of a path from left to right. A `:` takes the longest name after it, a `{` all
up to the next `}`. -/
def read (path : List Char) : Except Fault (List Piece) :=
  match path with
  | [] => .ok []
  | c :: rest =>
      if c = ':' then
        let name := rest.takeWhile isNameChar
        if name.isEmpty then .error .emptyName
        else (read (rest.dropWhile isNameChar)).map (.param .colon (String.ofList name) :: ·)
      else if c = '{' then
        match _cut : Text.cutFirst '}' rest with
        | none => .error .unclosed
        | some (name, tail) =>
            if name.isEmpty || !name.all isNameChar then .error (.badName name)
            else (read tail).map (.param .braces (String.ofList name) :: ·)
      else (read rest).map (consChar c)
  termination_by path.length
  decreasing_by
    · have hle := length_dropWhile_le isNameChar rest
      simp only [List.length_cons]
      omega
    · have hparts := (Text.cutFirst_eq_some _cut).1
      simp only [hparts, List.length_cons, List.length_append]
      omega
    · simp

end Piece

namespace PatternError

/-- The most bytes a pattern may have. -/
def maxBytes : Nat := 1024

/-- The most segments a pattern's path may have. -/
def maxSegments : Nat := 32

/-- The error as it is shown. -/
def message : PatternError → String
  | .tooLong bytes =>
      s!"Pattern length {bytes} exceeds maximum allowed length of {maxBytes} bytes"
  | .tooManySegments count => s!"Pattern has {count} path segments, exceeding maximum of {maxSegments}"
  | .emptyName path => s!"Empty parameter name in '{path}'"
  | .unclosed path => s!"Unclosed '\x7b' in '{path}'"
  | .badName name path => s!"Invalid parameter name '{name}' in '{path}'"
  | .unusableNames => "Failed to compile pattern regex"

/-- A fault in the pieces of a path as an error about that path. -/
def ofFault (path : String) : Piece.Fault → PatternError
  | .emptyName => .emptyName path
  | .unclosed => .unclosed path
  | .badName name => .badName (String.ofList name) path

end PatternError

namespace Pattern

/-- The path of a pattern or URL, which ends before the first `?`, and the query after it. -/
def splitQuery (text : List Char) : List Char × Option (List Char) :=
  match Text.cutFirst '?' text with
  | some (path, query) => (path, some query)
  | none => (text, none)

/-- The pieces between `&` that are not empty. -/
def queryPieces (query : List Char) : List (List Char) :=
  (Text.pieces '&' query).filter fun piece => !piece.isEmpty

/-- Whether names can stand for parameters: none begins with a digit and none occurs twice. -/
def usableNames (names : List String) : Bool :=
  names.all (fun name => !(name.toList.head?.any Char.isDigit)) && decide names.Nodup

/-- Reads a pattern. -/
def compile (source : String) : Except PatternError Pattern := do
  if source.utf8ByteSize > PatternError.maxBytes then
    throw (.tooLong source.utf8ByteSize)
  let (path, query) := splitQuery source.toList
  let segments := (Text.pieces '/' path).length
  if segments > PatternError.maxSegments then
    throw (.tooManySegments segments)
  let pieces ← (Piece.read path).mapError (PatternError.ofFault (String.ofList path))
  if !usableNames (pieces.filterMap Piece.name?) then
    throw .unusableNames
  return {
    source
    pieces
    queryNames := (queryPieces (query.getD [])).map String.ofList }

/-- The names of the parameters in the path, in order. -/
def paramNames (p : Pattern) : List String :=
  p.pieces.filterMap Piece.name?

/-- Whether a name is a parameter of the path or stands in the query list. -/
def declares (p : Pattern) (name : String) : Bool :=
  p.paramNames.contains name || p.queryNames.contains name

/-- Whether the path has no parameters. -/
def isExact (p : Pattern) : Bool :=
  p.paramNames.isEmpty

/-- Whether a segment of a written pattern has text and no parameter. -/
def isLiteralSegment (segment : List Char) : Bool :=
  !segment.isEmpty && !segment.contains ':' && !segment.contains '{'

/-- How specific a pattern is: the number of its segments that are literal text. -/
def literalSegments (p : Pattern) : Nat :=
  ((Text.pieces '/' (splitQuery p.source.toList).1).filter isLiteralSegment).length

/-- Two patterns are the same when they were written alike. -/
def same (p q : Pattern) : Bool :=
  p.source == q.source

/-- One pattern text from the fragments of nested routes: the paths one after another, then all their
query names in one list. -/
def compose (fragments : List String) : String :=
  let parts := fragments.map fun fragment => splitQuery fragment.toList
  let path := String.ofList (parts.flatMap (·.1))
  let names := parts.flatMap fun part => queryPieces (part.2.getD [])
  if names.isEmpty then path
  else path ++ "?" ++ Text.join "&" (names.map String.ofList)

end Pattern

end AdminConsole
