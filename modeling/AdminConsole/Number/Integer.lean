/-!
# Integers in a range

An integer is written with an optional sign and ASCII digits. Digits are read from the left, and the
first one that takes the value out of range, or is no digit, ends the reading with that error.
-/

set_option autoImplicit false

namespace AdminConsole

/-- How many values a word of `bits` bits can take. -/
def wordSize (bits : Nat) : Nat := Nat.pow 2 bits

/-- Why a text is no integer of a range. -/
inductive IntegerError where
  | empty
  | invalidDigit
  | tooLarge
  | tooSmall
  deriving DecidableEq, Repr

/-- The integers from `low` to `high`. -/
structure IntegerRange where
  low : Int
  high : Int
  deriving DecidableEq, Repr

namespace IntegerRange

/-- The integers of `bits` bits with a sign. -/
def signed (bits : Nat) : IntegerRange := ⟨-(wordSize (bits - 1) : Int), wordSize (bits - 1) - 1⟩

/-- The integers of `bits` bits without a sign. -/
def unsigned (bits : Nat) : IntegerRange := ⟨0, wordSize bits - 1⟩

/-- Whether a value lies in the range. -/
def holds (range : IntegerRange) (value : Int) : Bool :=
  range.low ≤ value && value ≤ range.high

/-- Reads the digits that follow `value`, counting down when the number is negative. -/
def readDigits (range : IntegerRange) (negative : Bool) (value : Int) :
    List Char → Except IntegerError Int
  | [] => .ok value
  | c :: rest =>
      if c.isDigit then
        let digit : Int := c.toNat - 48
        let next := if negative then 10 * value - digit else 10 * value + digit
        if next < range.low then .error .tooSmall
        else if range.high < next then .error .tooLarge
        else readDigits range negative next rest
      else .error .invalidDigit

/-- Reads a whole text as an integer of the range. A range without negative numbers knows no `-`. -/
def read (range : IntegerRange) : List Char → Except IntegerError Int
  | [] => .error .empty
  | ['+'] => .error .invalidDigit
  | ['-'] => .error .invalidDigit
  | '+' :: rest => readDigits range false 0 rest
  | '-' :: rest =>
      if range.low < 0 then readDigits range true 0 rest else .error .invalidDigit
  | text => readDigits range false 0 text

end IntegerRange

namespace IntegerError

/-- The error as it is shown. -/
def message : IntegerError → String
  | .empty => "cannot parse integer from empty string"
  | .invalidDigit => "invalid digit found in string"
  | .tooLarge => "number too large to fit in target type"
  | .tooSmall => "number too small to fit in target type"

end IntegerError

end AdminConsole
