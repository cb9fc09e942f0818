import AdminConsole.Number.Decimal
import AdminConsole.Number.Integer
import AdminConsole.Text.Cut
import AdminConsole.Text.Hex
import AdminConsole.Toml.Basic

/-!
# Numbers and moments in TOML

A number may have single underscores between its digits. Integers are decimal, or hexadecimal, octal or
binary behind a mark; a decimal number has no needless zero in front. Moments are dates, times of day, or
both, with or without the distance from universal time.
-/

set_option autoImplicit false

namespace AdminConsole.Toml

/-! ## Numbers -/

/-- The digits of a text in which single underscores stand between digits. -/
def plainDigits? (isDigit : Char → Bool) : List Char → Option (List Char)
  | [] => none
  | [c] => if isDigit c then some [c] else none
  | c :: '_' :: rest =>
      if isDigit c then (plainDigits? isDigit rest).map (c :: ·) else none
  | c :: rest => if isDigit c then (plainDigits? isDigit rest).map (c :: ·) else none

/-- The number of digits in a base. -/
def numberIn (base : Nat) (digits : List Char) : Nat :=
  digits.foldl (fun n c => base * n + (Hex.value? c).getD 0) 0

/-- Whether a character is a digit in a base. -/
def isDigitIn (base : Nat) (c : Char) : Bool :=
  (Hex.value? c).any (· < base)

/-- The sign of a number, and the number without it. -/
def splitSign : List Char → Bool × List Char
  | '-' :: rest => (true, rest)
  | '+' :: rest => (false, rest)
  | text => (false, text)

/-- The digits of a decimal whole number without a sign. -/
def wholeDigits? (text : List Char) : Option (List Char) := do
  let digits ← plainDigits? Char.isDigit text
  if digits.length > 1 && digits.head? = some '0' then none else some digits

/-- An integer of any size. -/
def anyInteger? (text : List Char) : Option Int :=
  let marked := fun (base : Nat) (digits : List Char) =>
    (plainDigits? (isDigitIn base) digits).map fun d => (numberIn base d : Int)
  match text with
  | '0' :: 'x' :: digits => marked 16 digits
  | '0' :: 'o' :: digits => marked 8 digits
  | '0' :: 'b' :: digits => marked 2 digits
  | _ =>
      let (negative, unsigned) := splitSign text
      (wholeDigits? unsigned).map fun digits =>
        let size : Int := numberIn 10 digits
        if negative then -size else size

/-- An integer, which fits into a word of 128 bits with or without a sign. -/
def integer? (text : List Char) : Option Int :=
  (anyInteger? text).filter fun value =>
    (IntegerRange.signed 128).holds value || (IntegerRange.unsigned 128).holds value

/-- The value of an exponent after its letter. -/
def exponent? (text : List Char) : Option Int := do
  let (negative, unsigned) := splitSign text
  let digits ← plainDigits? Char.isDigit unsigned
  let size : Int := numberIn 10 digits
  return if negative then -size else size

/-- The digits before and after the point of a decimal number, which has a point unless it has an
exponent. -/
def mantissa? (hasExponent : Bool) (text : List Char) : Option (List Char × List Char) :=
  match Text.cutFirst '.' text with
  | some (whole, fraction) => do
      let whole ← wholeDigits? whole
      let fraction ← plainDigits? Char.isDigit fraction
      return (whole, fraction)
  | none => if hasExponent then (wholeDigits? text).map (·, []) else none

/-- A decimal number with a fraction, an exponent or both, without a sign. -/
def fraction? (text : List Char) : Option Float := do
  let isExponent := fun (c : Char) => c == 'e' || c == 'E'
  let afterMantissa := text.dropWhile fun c => !isExponent c
  let (whole, fraction) ←
    mantissa? (!afterMantissa.isEmpty) (text.takeWhile fun c => !isExponent c)
  let exponent ← match afterMantissa with
    | [] => some 0
    | _ :: digits => exponent? digits
  let value := Decimal.nearest (numberIn 10 (whole ++ fraction)) (exponent - fraction.length)
  if value.isInf then none else some value

/-- A float. -/
def float? (text : List Char) : Option Float :=
  let (negative, unsigned) := splitSign text
  let size := if unsigned = "inf".toList then some (1.0 / 0.0)
    else if unsigned = "nan".toList then some (0.0 / 0.0)
    else fraction? unsigned
  size.map fun value => if negative then -value else value

/-! ## Moments -/

/-- A number of exactly so many digits from `low` to `high`, and what follows it. -/
def field? (digits low high : Nat) (text : List Char) : Option (Nat × List Char) :=
  let found := text.take digits
  let value := numberIn 10 found
  if found.length = digits && found.all Char.isDigit && low ≤ value && value ≤ high then
    some (value, text.drop digits)
  else none

/-- What follows a character. -/
def expect? (c : Char) : List Char → Option (List Char)
  | [] => none
  | found :: rest => if found = c then some rest else none

/-- The number of days of a month. -/
def daysIn (year month : Nat) : Nat :=
  if month = 2 then
    if year % 4 = 0 && (year % 100 ≠ 0 || year % 400 = 0) then 29 else 28
  else if [4, 6, 9, 11].contains month then 30 else 31

/-- The text after a date. -/
def date? (text : List Char) : Option (List Char) := do
  let (year, rest) ← field? 4 0 9999 text
  let (month, rest) ← field? 2 1 12 (← expect? '-' rest)
  let (_, rest) ← field? 2 1 (daysIn year month) (← expect? '-' rest)
  return rest

/-- The digits of a fraction of a second as they are shown, and the text after it. -/
def secondFraction? : List Char → Option (List Char × List Char)
  | '.' :: rest =>
      let digits := rest.takeWhile Char.isDigit
      if digits.isEmpty then none
      else
        let shown := ((digits.take 9).reverse.dropWhile (· == '0')).reverse
        some (if shown.isEmpty then [] else '.' :: shown, rest.dropWhile Char.isDigit)
  | text => some ([], text)

/-- The seconds of a time of day as they are shown, and the text after them. They may be left out. -/
def seconds? : List Char → Option (List Char × List Char)
  | ':' :: rest => do
      let (_, afterWhole) ← field? 2 0 60 rest
      let (fraction, afterAll) ← secondFraction? afterWhole
      return (':' :: rest.take 2 ++ fraction, afterAll)
  | text => some (":00".toList, text)

/-- A time of day as it is shown, and the text after it. -/
def time? (text : List Char) : Option (List Char × List Char) := do
  let (_, rest) ← field? 2 0 23 text
  let (_, rest) ← field? 2 0 59 (← expect? ':' rest)
  let (seconds, rest) ← seconds? rest
  return (text.take 5 ++ seconds, rest)

/-- A distance from universal time as it is shown, which ends the text. No distance is shown as one
ahead. -/
def offset? (text : List Char) : Option (List Char) :=
  match text with
  | [] => some []
  | ['Z'] => some ['Z']
  | ['z'] => some ['Z']
  | sign :: rest =>
      if sign = '+' || sign = '-' then do
        let (hours, afterHours) ← field? 2 0 23 rest
        let (minutes, afterMinutes) ← field? 2 0 59 (← expect? ':' afterHours)
        if !afterMinutes.isEmpty then none
        else some ((if hours = 0 && minutes = 0 then '+' else sign) :: rest)
      else none

/-- A moment as it is shown. -/
def moment? (text : List Char) : Option String :=
  match date? text with
  | some [] => some (String.ofList text)
  | some (separator :: rest) =>
      if separator = 'T' || separator = 't' || separator = ' ' then do
        let (time, rest) ← time? rest
        let offset ← offset? rest
        return String.ofList (text.take 10 ++ 'T' :: time ++ offset)
      else none
  | none =>
      match time? text with
      | some (time, []) => some (String.ofList time)
      | _ => none

/-! ## Scalars -/

/-- Whether a character can stand in a number, a moment or a truth value. -/
def isScalarChar (c : Char) : Bool :=
  c.isAlphanum || c == '+' || c == '-' || c == '_' || c == '.' || c == ':'

/-- The text of the scalar at the beginning, and what follows it. One blank may stand between a date and a
time. -/
def scalarText (text : List Char) : List Char × List Char :=
  let first := text.takeWhile isScalarChar
  match date? first, text.dropWhile isScalarChar with
  | some [], ' ' :: rest =>
      if rest.head?.any Char.isDigit then
        (first ++ ' ' :: rest.takeWhile isScalarChar, rest.dropWhile isScalarChar)
      else (first, ' ' :: rest)
  | _, rest => (first, rest)

/-- The value of a scalar. -/
def scalar? (text : List Char) : Option Toml :=
  if text = "true".toList then some (.bool true)
  else if text = "false".toList then some (.bool false)
  else
    match integer? text with
    | some value => some (.integer value)
    | none =>
        match float? text with
        | some value => some (.float value)
        | none => (moment? text).map .moment

end AdminConsole.Toml
