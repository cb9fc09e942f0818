import AdminConsole.Json.Basic
import AdminConsole.Number.Shortest
import AdminConsole.Text.Hex

/-!
# Writing JSON

A value is written on one line without blanks, or with each item of a container on a line of its own,
indented by two spaces; an empty container is written `[]` or `\x7b\x7d` either way. Floats are written as
their shortest decimal and always look like floats: `0.5`, `1000.0`, `1e+300`.
-/

set_option autoImplicit false

namespace AdminConsole.Json

/-- The decisions about the text of a float. -/
structure FloatFormat where
  /-- The most places before the point that are written without an exponent. -/
  maxPlaces : Int
  /-- The least exponent of the first digit that is written without an exponent. -/
  minExponent : Int

/-- Floats have at most sixteen places before the point and at most four zeros after it; others have
an exponent. -/
def floatFormat : FloatFormat := ⟨16, -5⟩

/-- An exponent, which is written with its sign. -/
def signedText (exponent : Int) : String :=
  if exponent < 0 then toString exponent else "+" ++ toString exponent

/-- The text of `digits * 10 ^ power`. -/
def decimalText (format : FloatFormat) (digits : Nat) (power : Int) : String :=
  let text := Nat.toDigits 10 digits
  let places : Int := text.length + power
  if 0 ≤ power ∧ places ≤ format.maxPlaces then
    String.ofList (text ++ List.replicate power.natAbs '0') ++ ".0"
  else if 0 < places ∧ places ≤ format.maxPlaces then
    String.ofList (text.take places.natAbs ++ '.' :: text.drop places.natAbs)
  else if format.minExponent < places ∧ places ≤ 0 then
    "0." ++ String.ofList (List.replicate places.natAbs '0' ++ text)
  else
    let exponent := signedText (places - 1)
    match text with
    | [digit] => String.ofList [digit] ++ "e" ++ exponent
    | digit :: more => String.ofList (digit :: '.' :: more) ++ "e" ++ exponent
    | [] => ""

/-- The text of a float. What is no number is written `null`. -/
def floatText (value : Float) : String :=
  let bits := value.toBits
  let exponent := Shortest.exponentBits bits
  let fraction := Shortest.fractionBits bits
  if exponent = 0x7ff then "null"
  else
    let sign := if Shortest.isNegative bits then "-" else ""
    if exponent = 0 && fraction = 0 then sign ++ "0.0"
    else
      let (digits, power) := Shortest.ofFields exponent fraction
      sign ++ decimalText floatFormat digits power

/-- A character as it stands inside quotes. -/
def escapeChar (c : Char) : List Char :=
  match shortEscapes.lookup c with
  | some letter => ['\\', letter]
  | none =>
      if c.toNat < 32 then "\\u00".toList ++ [Hex.digit (c.toNat / 16), Hex.digit (c.toNat % 16)]
      else [c]

/-- A text in quotes. -/
def quote (text : String) : String :=
  "\"" ++ String.ofList (text.toList.flatMap escapeChar) ++ "\""

/-- The text between the items of a container that is written over several lines. -/
def lineBreak (depth : Nat) : String :=
  "\n" ++ String.ofList (List.replicate (2 * depth) ' ')

mutual

/-- The value on one line. -/
def compact : Json → String
  | .null => "null"
  | .bool value => if value then "true" else "false"
  | .integer value => toString value
  | .float value => floatText value
  | .string value => quote value
  | .array items => "[" ++ compactItems items ++ "]"
  | .object members => "\x7b" ++ compactMembers members ++ "\x7d"

/-- Items between commas. -/
def compactItems : List Json → String
  | [] => ""
  | [item] => compact item
  | item :: more => compact item ++ "," ++ compactItems more

/-- Members between commas. -/
def compactMembers : List (String × Json) → String
  | [] => ""
  | [(name, value)] => quote name ++ ":" ++ compact value
  | (name, value) :: more => quote name ++ ":" ++ compact value ++ "," ++ compactMembers more

end

mutual

/-- The value over several lines, in a container of this depth. -/
def indentedAt (depth : Nat) : Json → String
  | .array [] => "[]"
  | .object [] => "\x7b\x7d"
  | .array items => "[" ++ indentedItems (depth + 1) items ++ lineBreak depth ++ "]"
  | .object members => "\x7b" ++ indentedMembers (depth + 1) members ++ lineBreak depth ++ "\x7d"
  | other => compact other

/-- Items, each on a line of its own. -/
def indentedItems (depth : Nat) : List Json → String
  | [] => ""
  | [item] => lineBreak depth ++ indentedAt depth item
  | item :: more => lineBreak depth ++ indentedAt depth item ++ "," ++ indentedItems depth more

/-- Members, each on a line of its own. -/
def indentedMembers (depth : Nat) : List (String × Json) → String
  | [] => ""
  | [(name, value)] => lineBreak depth ++ quote name ++ ": " ++ indentedAt depth value
  | (name, value) :: more =>
      lineBreak depth ++ quote name ++ ": " ++ indentedAt depth value ++ ","
        ++ indentedMembers depth more

end

/-- The value over several lines, indented by two spaces. -/
def indented (value : Json) : String :=
  indentedAt 0 value

end AdminConsole.Json
