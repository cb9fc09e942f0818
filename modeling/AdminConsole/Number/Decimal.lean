/-!
# Reading decimal fractions

A decimal number stands for the nearest double-precision float, the even one of two equally near. The
result is given as the 64 bits of the float, because they tell apart all that can be written, `-nan`
included.
-/

set_option autoImplicit false

namespace AdminConsole.Decimal

/-- Why a text is no number. -/
inductive Error where
  | empty
  | invalid
  deriving DecidableEq, Repr

/-- The error as it is shown. -/
def Error.message : Error → String
  | .empty => "cannot parse float from empty string"
  | .invalid => "invalid float literal"

/-- The number written by decimal digits. -/
def natOfDigits (digits : List Char) : Nat :=
  digits.foldl (fun n c => 10 * n + (c.toNat - 48)) 0

/-- The digits at the beginning of a text, and the rest. -/
def splitDigits (text : List Char) : List Char × List Char :=
  (text.takeWhile Char.isDigit, text.dropWhile Char.isDigit)

/-- The float nearest to `mantissa * 10 ^ exponent`. Beyond four hundred places on either side the
answer is infinity or zero, so that no larger power of ten is ever computed. -/
def nearest (mantissa : Nat) (exponent : Int) : Float :=
  if mantissa = 0 then 0.0
  else
    let places : Int := (Nat.toDigits 10 mantissa).length + exponent
    if places > 400 then 1.0 / 0.0
    else if places < -400 then 0.0
    else if exponent < 0 then Float.ofScientific mantissa true exponent.natAbs
    else Float.ofScientific mantissa false exponent.natAbs

/-- The value of an exponent: nothing, or `e`, an optional sign and digits. -/
def readExponent : List Char → Option Int
  | [] => some 0
  | c :: rest =>
      if c = 'e' || c = 'E' then
        let (negative, digits) := match rest with
          | '-' :: more => (true, more)
          | '+' :: more => (false, more)
          | more => (false, more)
        if digits.isEmpty || !digits.all Char.isDigit then none
        else
          let size : Int := natOfDigits digits
          some (if negative then -size else size)
      else none

/-- Reads digits with an optional point and exponent. -/
def readMagnitude (text : List Char) : Option Float :=
  let (whole, afterWhole) := splitDigits text
  let (fraction, afterFraction) := match afterWhole with
    | '.' :: rest => splitDigits rest
    | rest => ([], rest)
  if whole.isEmpty && fraction.isEmpty then none
  else
    (readExponent afterFraction).map fun exponent =>
      nearest (natOfDigits (whole ++ fraction)) (exponent - fraction.length)

/-- The bits of a quiet NaN without a sign. -/
def nanBits : UInt64 := 0x7ff8000000000000

/-- The bits of positive infinity. -/
def infinityBits : UInt64 := 0x7ff0000000000000

/-- Reads a number without a sign: a name of infinity or NaN in any case, or a decimal number. -/
def readUnsigned (text : List Char) : Option UInt64 :=
  let lower := text.map Char.toLower
  if lower = "nan".toList then some nanBits
  else if lower = "inf".toList || lower = "infinity".toList then some infinityBits
  else (readMagnitude text).map Float.toBits

/-- Reads a whole text as a float. -/
def read : List Char → Except Error UInt64
  | [] => .error .empty
  | '-' :: rest =>
      match readUnsigned rest with
      | some bits => .ok (bits ||| 0x8000000000000000)
      | none => .error .invalid
  | '+' :: rest =>
      match readUnsigned rest with
      | some bits => .ok bits
      | none => .error .invalid
  | text =>
      match readUnsigned text with
      | some bits => .ok bits
      | none => .error .invalid

end AdminConsole.Decimal
