import AdminConsole.Json.Basic
import AdminConsole.Number.Integer

/-!
# Numbers in JSON text

A number keeps the digits it was written with until its value is asked for. Without fraction and
exponent it is an integer if it fits in 64 bits with or without a sign; `-0` and all else are floats. The
digits of a float are collected as long as they fit in 64 bits, those after only count as places, and
the collected number is scaled by a power of ten in floating-point arithmetic.
-/

set_option autoImplicit false

namespace AdminConsole.Json

/-- A number as it is written. -/
structure Numeral where
  negative : Bool
  /-- The digits before the point. -/
  whole : List Char
  /-- The digits after the point; empty without one. -/
  fraction : List Char
  /-- Sign and digits of the exponent. -/
  exponent : Option (Bool × List Char)
  deriving DecidableEq, Repr

namespace Numeral

/-- The value of a digit. -/
def digitValue (c : Char) : Nat := c.toNat - 48

/-- The number of the digits that fit in 64 bits, and the digits left over. -/
def collect (value : Nat) : List Char → Nat × List Char
  | [] => (value, [])
  | c :: rest =>
      if 10 * value + digitValue c < wordSize 64 then collect (10 * value + digitValue c) rest
      else (value, c :: rest)

/-- `value * 10 ^ exponent` by one multiplication or division, after divisions by `10 ^ 308` where the
exponent is smaller than that; none beyond the largest float. -/
def scale (value : Float) (exponent : Int) : Option Float :=
  if h : exponent < -308 then
    if value == 0.0 then some value else scale (value / 1e308) (exponent + 308)
  else if exponent < 0 then some (value / Float.ofScientific 1 false exponent.natAbs)
  else if exponent ≤ 308 then
    let scaled := value * Float.ofScientific 1 false exponent.natAbs
    if scaled.isInf then none else some scaled
  else if value == 0.0 then some value
  else none
  termination_by exponent.natAbs
  decreasing_by omega

/-- The exponent of a number with the significand it scales: none if it is too large for any number but
zero. -/
def exponentValue (significandIsZero : Bool) (places : Int) : Option (Bool × List Char) → Option (Option Int)
  | none => some (some places)
  | some (negative, digits) =>
      let size : Int := digits.foldl (fun n c => 10 * n + (digitValue c : Int)) 0
      if size ≥ wordSize 31 then
        if significandIsZero || negative then some none else none
      else some (some (if negative then places - size else places + size))

/-- The number as a float without its sign; none beyond the largest float. -/
def magnitude? (n : Numeral) : Option Float := do
  let (whole, wholeLeft) := collect 0 n.whole
  let (significand, fractionLeft) := collect whole n.fraction
  let places : Int := (wholeLeft.length + fractionLeft.length : Nat) - n.fraction.length
  match ← exponentValue (significand == 0) places n.exponent with
  | none => some 0.0
  | some exponent => scale significand.toUInt64.toFloat exponent

/-- The number as a JSON value; none beyond the largest float. -/
def value? (n : Numeral) : Option Json := do
  let (size, left) := collect 0 n.whole
  if n.fraction.isEmpty && n.exponent.isNone && left.isEmpty then
    if !n.negative then return .integer size
    if 0 < size && size ≤ wordSize 63 then return .integer (-(size : Int))
    return .float (-size.toUInt64.toFloat)
  let magnitude ← n.magnitude?
  return .float (if n.negative then -magnitude else magnitude)

end Numeral

end AdminConsole.Json
