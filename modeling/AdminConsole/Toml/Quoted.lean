import AdminConsole.Text.Cut
import AdminConsole.Text.Hex

/-!
# Strings in TOML

A string stands in double quotes, with escapes, or in single quotes, without; and in three quotes of either
kind it may run over several lines. A first line break after three quotes does not count, and a backslash
at the end of a line takes the blanks and line breaks after it away.
-/

set_option autoImplicit false

namespace AdminConsole.Toml

/-- Whether a character cannot stand in a document except as a line break. -/
def isControl (c : Char) : Bool :=
  (c.toNat < 32 && c != '\t') || c.toNat = 127

/-- Blanks within a line. -/
def isBlankInLine (c : Char) : Bool := c == ' ' || c == '\t'

/-- The text after blanks within the line. -/
def skipBlanks (text : List Char) : List Char := text.dropWhile isBlankInLine

/-- A line break at the beginning, and the text after it. -/
def splitLineBreak? : List Char → Option (List Char × List Char)
  | '\n' :: rest => some (['\n'], rest)
  | '\r' :: '\n' :: rest => some (['\r', '\n'], rest)
  | _ => none

/-- The text after a line break. -/
def lineBreak? (text : List Char) : Option (List Char) :=
  (splitLineBreak? text).map (·.2)

/-- The character of a one-letter escape. -/
def escape? (c : Char) : Option Char :=
  if c = '"' || c = '\\' then some c
  else if c = 'b' then some '\x08'
  else if c = 't' then some '\t'
  else if c = 'n' then some '\n'
  else if c = 'f' then some '\x0c'
  else if c = 'e' then some '\x1b'
  else if c = 'r' then some '\r'
  else none

/-- The character with a code point in hexadecimal digits. -/
def codePoint? (digits : List Char) : Option Char := do
  let value ← Hex.number? digits
  if value < 0xd800 || (0xe000 ≤ value && value < 0x110000) then some (Char.ofNat value) else none

/-- What a string in quotes holds, and what follows it. -/
abbrev Content := List Char × List Char

/-- Puts a character in front of the content. -/
def push (c : Char) (content : Content) : Content := (c :: content.1, content.2)

/-- Puts a line break, as it is written, in front of the content. -/
def pushBreak (lineBreak : List Char) (content : Content) : Content :=
  (lineBreak ++ content.1, content.2)

/-- A string in double quotes, after the first of them. -/
def basic? : List Char → Option Content
  | [] => none
  | '"' :: rest => some ([], rest)
  | '\\' :: 'x' :: a :: b :: rest => do
      let code ← codePoint? [a, b]
      return push code (← basic? rest)
  | '\\' :: 'u' :: a :: b :: c :: d :: rest => do
      let code ← codePoint? [a, b, c, d]
      return push code (← basic? rest)
  | '\\' :: 'U' :: a :: b :: c :: d :: e :: f :: g :: h :: rest => do
      let code ← codePoint? [a, b, c, d, e, f, g, h]
      return push code (← basic? rest)
  | '\\' :: letter :: rest => do
      let plain ← escape? letter
      return push plain (← basic? rest)
  | c :: rest => if isControl c || c = '\\' then none else (basic? rest).map (push c)

/-- A string in single quotes, after the first of them. -/
def literal? : List Char → Option Content
  | [] => none
  | c :: rest =>
      if c = '\'' then some ([], rest)
      else if isControl c then none
      else (literal? rest).map (push c)

/-- The end of a string in three quotes: up to two more may stand before it as content. -/
def closing? (quote : Char) (text : List Char) : Option Content :=
  let run := (text.takeWhile (· == quote)).length
  if run < 3 then none
  else
    let content := min (run - 3) 2
    some (List.replicate content quote, text.drop (3 + content))

/-- The text after blanks and line breaks. -/
def skipBreaks : List Char → List Char
  | '\r' :: '\n' :: rest => skipBreaks rest
  | c :: rest => if isBlankInLine c || c == '\n' then skipBreaks rest else c :: rest
  | [] => []

/-- What follows a backslash at the end of a line, without blanks and line breaks. -/
def afterFold? (text : List Char) : Option (List Char) :=
  (lineBreak? (skipBlanks text)).map skipBreaks

/-- An escape in a string in double quotes, after its backslash, and what follows it. -/
def escaped? : List Char → Option (Char × List Char)
  | 'x' :: a :: b :: rest => (codePoint? [a, b]).map (·, rest)
  | 'u' :: a :: b :: c :: d :: rest => (codePoint? [a, b, c, d]).map (·, rest)
  | 'U' :: a :: b :: c :: d :: e :: f :: g :: h :: rest =>
      (codePoint? [a, b, c, d, e, f, g, h]).map (·, rest)
  | letter :: rest => (escape? letter).map (·, rest)
  | [] => none

/-- A string in three double quotes, after them. Each step takes a character, so as many steps as there
are characters are enough. -/
def basicLines? : (steps : Nat) → List Char → Option Content
  | 0, _ => none
  | steps + 1, text =>
      match closing? '"' text with
      | some content => some content
      | none =>
          match splitLineBreak? text with
          | some (lineBreak, rest) => (basicLines? steps rest).map (pushBreak lineBreak)
          | none =>
              match text with
              | [] => none
              | '\\' :: rest =>
                  match afterFold? rest with
                  | some tail => basicLines? steps tail
                  | none => do
                      let (c, tail) ← escaped? rest
                      return push c (← basicLines? steps tail)
              | c :: rest => if isControl c then none else (basicLines? steps rest).map (push c)

/-- A string in three single quotes, after them. -/
def literalLines? : (steps : Nat) → List Char → Option Content
  | 0, _ => none
  | steps + 1, text =>
      match closing? '\'' text with
      | some content => some content
      | none =>
          match splitLineBreak? text with
          | some (lineBreak, rest) => (literalLines? steps rest).map (pushBreak lineBreak)
          | none =>
              match text with
              | [] => none
              | c :: rest => if isControl c then none else (literalLines? steps rest).map (push c)

/-- The text without a line break at its beginning. -/
def dropLineBreak (text : List Char) : List Char := (lineBreak? text).getD text

/-- The string at the beginning of a text that begins with a quote. -/
def string? (text : List Char) : Option Content :=
  match text with
  | '"' :: '"' :: '"' :: rest => basicLines? (rest.length + 1) (dropLineBreak rest)
  | '\'' :: '\'' :: '\'' :: rest => literalLines? (rest.length + 1) (dropLineBreak rest)
  | '"' :: rest => basic? rest
  | '\'' :: rest => literal? rest
  | _ => none

/-- The string at the beginning of a text where none may run over several lines. -/
def stringInLine? (text : List Char) : Option Content :=
  match text with
  | '"' :: rest => basic? rest
  | '\'' :: rest => literal? rest
  | _ => none

end AdminConsole.Toml
