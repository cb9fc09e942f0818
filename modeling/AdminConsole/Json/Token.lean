import AdminConsole.Json.Numeral
import AdminConsole.Text.Hex

/-!
# The tokens of JSON text

A text is cut into tokens before it is read as a value. Strings and numbers are checked for their form
only: whether a number is small enough, or the escapes of a string make up a text, matters to a reader
that keeps them and not to one that skips them.
-/

set_option autoImplicit false

namespace AdminConsole.Json

/-- A token. -/
inductive Token where
  | openBrace
  | closeBrace
  | openBracket
  | closeBracket
  | colon
  | comma
  | null
  | bool (value : Bool)
  | number (value : Numeral)
  /-- A string; none if it has half of a surrogate pair. -/
  | string (value : Option String)
  deriving DecidableEq, Repr

namespace Token

/-- White space between tokens. -/
def isSpace (c : Char) : Bool :=
  c == ' ' || c == '\t' || c == '\n' || c == '\r'

/-! ## Strings -/

/-- The text up to the closing quote, with its escapes, and what follows the quote. -/
def stringBody : List Char → Option (List Char × List Char)
  | [] => none
  | c :: rest =>
      if c = '"' then some ([], rest)
      else if c = '\\' then
        match rest with
        | [] => none
        | escaped :: more =>
            (stringBody more).map fun parts => (c :: escaped :: parts.1, parts.2)
      else (stringBody rest).map fun parts => (c :: parts.1, parts.2)

/-- A unit of a string: a character, or a surrogate that was written as an escape. -/
inductive Part where
  | char (c : Char)
  | surrogate (value : Nat)
  deriving DecidableEq, Repr

/-- The unit of a number written as an escape. -/
def Part.ofNumber (value : Nat) : Part :=
  if 0xd800 ≤ value && value ≤ 0xdfff then .surrogate value else .char (Char.ofNat value)

/-- The character of a one-letter escape; a slash may be escaped too. -/
def escape? (c : Char) : Option Char :=
  if c = '/' then some c else (shortEscapes.find? (·.2 = c)).map (·.1)

/-- The units of a string's body; none for a control character or an unknown escape. -/
def parts : List Char → Option (List Part)
  | [] => some []
  | c :: rest =>
      if c = '\\' then
        match rest with
        | 'u' :: a :: b :: x :: y :: more => do
            let value ← Hex.number? [a, b, x, y]
            let others ← parts more
            return Part.ofNumber value :: others
        | letter :: more => do
            let plain ← escape? letter
            let others ← parts more
            return .char plain :: others
        | [] => none
      else if c.toNat < 32 then none
      else (parts rest).map (.char c :: ·)

/-- The text of a list of units: a leading and a trailing surrogate make one character, and neither
stands alone. -/
def joinParts : List Part → Option (List Char)
  | [] => some []
  | .char c :: rest => (joinParts rest).map (c :: ·)
  | .surrogate high :: .surrogate low :: rest =>
      if high < 0xdc00 && 0xdc00 ≤ low then
        (joinParts rest).map (Char.ofNat (0x10000 + (high - 0xd800) * 1024 + (low - 0xdc00)) :: ·)
      else none
  | .surrogate _ :: _ => none

/-! ## Numbers -/

/-- The digits at the beginning of a text, and the rest. -/
def digits (text : List Char) : List Char × List Char :=
  (text.takeWhile Char.isDigit, text.dropWhile Char.isDigit)

/-- The fraction of a number: nothing, or a point and digits. -/
def fraction? : List Char → Option (List Char × List Char)
  | '.' :: rest =>
      let (found, tail) := digits rest
      if found.isEmpty then none else some (found, tail)
  | text => some ([], text)

/-- The exponent of a number: nothing, or `e`, an optional sign and digits. -/
def exponent? : List Char → Option (Option (Bool × List Char) × List Char)
  | [] => some (none, [])
  | c :: rest =>
      if c = 'e' || c = 'E' then
        let (negative, unsigned) := match rest with
          | '-' :: more => (true, more)
          | '+' :: more => (false, more)
          | more => (false, more)
        let (found, tail) := digits unsigned
        if found.isEmpty then none else some (some (negative, found), tail)
      else some (none, c :: rest)

/-- The number at the beginning of a text, which has no needless zero in front. -/
def number? (text : List Char) : Option (Numeral × List Char) := do
  let (negative, unsigned) := match text with
    | '-' :: rest => (true, rest)
    | rest => (false, rest)
  let (whole, afterWhole) ← match unsigned with
    | '0' :: rest => some (['0'], rest)
    | rest =>
        let (found, tail) := digits rest
        if found.isEmpty then none else some (found, tail)
  let (fraction, afterFraction) ← fraction? afterWhole
  let (exponent, rest) ← exponent? afterFraction
  return (⟨negative, whole, fraction, exponent⟩, rest)

/-! ## All tokens -/

/-- The one-character token that a character is. -/
def ofMark? (c : Char) : Option Token :=
  if c = '\x7b' then some .openBrace
  else if c = '\x7d' then some .closeBrace
  else if c = '[' then some .openBracket
  else if c = ']' then some .closeBracket
  else if c = ':' then some .colon
  else if c = ',' then some .comma
  else none

/-- The token that a word is. -/
def ofWord? (word : List Char) : Option Token :=
  if word = "null".toList then some .null
  else if word = "true".toList then some (.bool true)
  else if word = "false".toList then some (.bool false)
  else none

/-- The first token of a text that begins with one, and what follows it. -/
def next? (text : List Char) : Option (Token × List Char) :=
  match text with
  | [] => none
  | c :: rest =>
      match ofMark? c with
      | some mark => some (mark, rest)
      | none =>
          if c = '"' then do
            let (body, tail) ← stringBody rest
            let units ← parts body
            return (.string ((joinParts units).map String.ofList), tail)
          else if c.isAlpha then do
            let word ← ofWord? (text.takeWhile Char.isAlpha)
            return (word, text.dropWhile Char.isAlpha)
          else do
            let (value, tail) ← number? text
            return (.number value, tail)

/-- The tokens of a text; none where something else stands between them. A token always takes at least
one character, so as many steps as the text has characters are enough. -/
def read (text : List Char) : Option (List Token) :=
  go text.length text
where
  /-- Reads tokens for at most `steps` characters. -/
  go : (steps : Nat) → List Char → Option (List Token)
  | steps, text =>
      match text.dropWhile isSpace with
      | [] => some []
      | c :: rest =>
          match steps with
          | 0 => none
          | left + 1 => do
              let (token, tail) ← next? (c :: rest)
              let more ← go left tail
              return token :: more

end Token

end AdminConsole.Json
