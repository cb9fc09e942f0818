import AdminConsole.Text.Cut
import AdminConsole.Text.Hex
import AdminConsole.Text.Printable

/-!
# Values as developers see them

A text is shown in quotes, with a backslash before quotes and backslashes, letters for the common control
characters, and the code point of every other character that is not printable. Lists, optional values
and records are shown with their parts between brackets.
-/

set_option autoImplicit false

namespace AdminConsole.Text

/-- The characters that are shown as a backslash and a letter, each with its letter. -/
def shownLetters : List (Char × Char) :=
  [('\x00', '0'), ('\t', 't'), ('\n', 'n'), ('\r', 'r'), ('"', '"'), ('\\', '\\')]

/-- A character as it stands inside the quotes. -/
def quotedChar (c : Char) : List Char :=
  match shownLetters.lookup c with
  | some letter => ['\\', letter]
  | none =>
      if isPrintable c then [c] else "\\u\x7b".toList ++ Hex.ofNat c.toNat ++ ['}']

/-- A text in quotes. -/
def quoted (text : String) : String :=
  "\"" ++ String.ofList (text.toList.flatMap quotedChar) ++ "\""

/-- A truth value. -/
def shownBool (value : Bool) : String :=
  if value then "true" else "false"

/-- An optional text. -/
def shownOption : Option String → String
  | some text => "Some(" ++ quoted text ++ ")"
  | none => "None"

/-- A list of parts that are already shown. -/
def shownList (parts : List String) : String :=
  "[" ++ join ", " parts ++ "]"

/-- A record with its fields in order. -/
def shownRecord (name : String) (fields : List (String × String)) : String :=
  name ++ " \x7b " ++ join ", " (fields.map fun field => field.1 ++ ": " ++ field.2) ++ " \x7d"

end AdminConsole.Text
