import AdminConsole.Toml.Quoted
import AdminConsole.Toml.Scalar

/-!
# Reading TOML

A document is read line by line: headers, keys with their values, comments and empty lines. Arrays and
tables in braces may run over several lines. Where a step bound is given, each step takes at least one
character of the text, or opens or closes a value.
-/

set_option autoImplicit false

namespace AdminConsole.Toml

/-- How deeply arrays and tables in braces may be nested. -/
def maxNesting : Nat := 80

/-- The most parts of a dotted key. -/
def maxParts : Nat := 80

/-! ## Keys, blanks and comments -/

/-- Whether a character can stand in a key without quotes. -/
def isKeyChar (c : Char) : Bool :=
  c.isAlphanum || c == '-' || c == '_'

/-- A part of a key, and what follows it. -/
def keyPart? (text : List Char) : Option (String × List Char) :=
  match stringInLine? text with
  | some (content, rest) => some (String.ofList content, rest)
  | none =>
      let found := text.takeWhile isKeyChar
      if found.isEmpty then none else some (String.ofList found, text.dropWhile isKeyChar)

/-- The parts of a dotted key of no more than so many parts, and what follows it and the blanks after
it. -/
def keyParts? : (most : Nat) → List Char → Option (List String × List Char)
  | 0, _ => none
  | most + 1, text => do
      let (part, rest) ← keyPart? (skipBlanks text)
      match skipBlanks rest with
      | '.' :: more => do
          let (others, rest) ← keyParts? most more
          return (part :: others, rest)
      | rest => return ([part], rest)

/-- The parts of a dotted key, and what follows it and the blanks after it. -/
def dottedKey? (text : List Char) : Option (List String × List Char) :=
  keyParts? maxParts text

/-- The text after a comment, up to the end of its line. -/
def skipComment? (text : List Char) : Option (List Char) :=
  match text with
  | '#' :: rest =>
      let content := rest.takeWhile fun c => c != '\n' && c != '\r'
      if content.any isControl then none else some (rest.drop content.length)
  | _ => some text

/-- The text after the rest of a line, which has only blanks and a comment. -/
def endLine? (text : List Char) : Option (List Char) := do
  let rest ← skipComment? (skipBlanks text)
  if rest.isEmpty then return []
  lineBreak? rest

/-- The text after blanks, comments and line breaks. -/
def skipLines? : (steps : Nat) → List Char → Option (List Char)
  | 0, _ => none
  | steps + 1, text => do
      let rest ← skipComment? (skipBlanks text)
      match lineBreak? rest with
      | some more => skipLines? steps more
      | none => some rest

/-! ## Values -/

mutual

/-- A value inside so many others, and what follows it. -/
def value? (nesting : Nat) : (steps : Nat) → List Char → Option (Toml × List Char)
  | 0, _ => none
  | steps + 1, text =>
      match text with
      | '[' :: rest =>
          if nesting = maxNesting then none
          else (items? (nesting + 1) steps [] rest).map fun found => (.array found.1, found.2)
      | '\x7b' :: rest =>
          if nesting = maxNesting then none
          else
            (members? (nesting + 1) steps [] rest).map fun found => (.table .braces found.1, found.2)
      | '"' :: _ => (string? text).map fun found => (.string (String.ofList found.1), found.2)
      | '\'' :: _ => (string? text).map fun found => (.string (String.ofList found.1), found.2)
      | _ => do
          let (scalar, rest) := scalarText text
          return (← scalar? scalar, rest)

/-- The items of an array after those in `done`, and what follows the array. -/
def items? (nesting : Nat) : (steps : Nat) → (done : List Toml) → List Char →
    Option (List Toml × List Char)
  | 0, _, _ => none
  | steps + 1, done, text => do
      match ← skipLines? (text.length + 1) text with
      | ']' :: rest => return (done, rest)
      | first => do
          let (item, rest) ← value? nesting steps first
          match ← skipLines? (rest.length + 1) rest with
          | ',' :: more => items? nesting steps (done ++ [item]) more
          | ']' :: rest => return (done ++ [item], rest)
          | _ => none

/-- The members of a table in braces after those in `done`, and what follows the table. -/
def members? (nesting : Nat) : (steps : Nat) → (done : Members) → List Char →
    Option (Members × List Char)
  | 0, _, _ => none
  | steps + 1, done, text => do
      match ← skipLines? (text.length + 1) text with
      | '\x7d' :: rest => return (done, rest)
      | first => do
          let (key, rest) ← dottedKey? first
          let afterEquals ← expect? '=' (← skipLines? (rest.length + 1) rest)
          let (value, rest) ←
            value? nesting steps (← skipLines? (afterEquals.length + 1) afterEquals)
          let members ← addDotted key.dropLast (← key.getLast?) value done
          match ← skipLines? (rest.length + 1) rest with
          | ',' :: more => members? nesting steps members more
          | '\x7d' :: rest => return (members, rest)
          | _ => none

end

/-! ## Documents -/

/-- What was read of a document: its members, and the path of the table that lines add to. -/
structure Document where
  members : Members
  current : List String

namespace Document

/-- Adds a value under a dotted key of the current table. -/
def add (d : Document) (key : List String) (value : Toml) : Option Document := do
  let last ← key.getLast?
  let members ← change false (addDotted key.dropLast last value) d.current d.members
  return { d with members }

/-- Opens the table of a header. -/
def enter (d : Document) (open? : String → Members → Option Members) (path : List String) :
    Option Document := do
  let last ← path.getLast?
  let members ← change false (open? last) path.dropLast d.members
  return { members, current := path }

end Document

/-- Reads the line of a header, after its opening bracket. -/
def readHeader (text : List Char) (d : Document) : Option (Document × List Char) :=
  match text with
  | '[' :: rest => do
      let (path, rest) ← dottedKey? rest
      let rest ← expect? ']' (← expect? ']' rest)
      return (← d.enter openEntry path, ← endLine? rest)
  | rest => do
      let (path, rest) ← dottedKey? rest
      return (← d.enter openTable path, ← endLine? (← expect? ']' rest))

/-- Reads the line of a key with its value. -/
def readMember (text : List Char) (d : Document) : Option (Document × List Char) := do
  let (key, rest) ← dottedKey? text
  let first := skipBlanks (← expect? '=' rest)
  let (value, rest) ← value? 0 (2 * first.length + 2) first
  return (← d.add key value, ← endLine? rest)

/-- Reads the lines of a document. -/
def readLines : (steps : Nat) → List Char → Document → Option Document
  | 0, _, _ => none
  | steps + 1, text, d => do
      match ← skipLines? (text.length + 1) text with
      | [] => return d
      | '[' :: rest => do
          let (d, rest) ← readHeader rest d
          readLines steps rest d
      | first => do
          let (d, rest) ← readMember first d
          readLines steps rest d

/-- Reads a whole document, which may begin with a byte order mark. -/
def read? (text : List Char) : Option Members :=
  let text := match text with
    | '\ufeff' :: rest => rest
    | rest => rest
  (readLines (text.length + 1) text ⟨[], []⟩).map (·.members)

end AdminConsole.Toml
