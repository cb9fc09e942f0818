/-!
# The shortest decimal of a float

A finite float is written with the fewest significant digits that read back as the same float, and of
those with the digits nearest to it. The computation is exact: the float is a fraction of natural
numbers, and so are the two ends of the interval of reals that round to it.
-/

set_option autoImplicit false

namespace AdminConsole.Shortest

/-- A positive float as the fraction `value / scale` with the interval `low / scale` to `high / scale`
of the reals that round to it; the ends belong to it when `closed`. -/
structure Interval where
  low : Nat
  value : Nat
  high : Nat
  scale : Nat
  closed : Bool
  deriving Repr

/-- The interval of the positive finite float with these exponent and fraction bits. -/
def Interval.ofFields (exponent fraction : Nat) : Interval :=
  let mantissa := if exponent = 0 then fraction else Nat.pow 2 52 + fraction
  let below := if fraction = 0 && exponent > 1 then 1 else 2
  let power : Int := (if exponent = 0 then 1 else (exponent : Int)) - 1077
  let up := if power ≥ 0 then Nat.pow 2 power.natAbs else 1
  let scale := if power ≥ 0 then 1 else Nat.pow 2 power.natAbs
  { low := (4 * mantissa - below) * up
    value := 4 * mantissa * up
    high := (4 * mantissa + 2) * up
    scale
    closed := mantissa % 2 = 0 }

/-- Whether `digits * 10 ^ power` lies in the interval. -/
def Interval.contains (i : Interval) (digits : Nat) (power : Int) : Bool :=
  let point := digits * i.scale * (if power ≥ 0 then Nat.pow 10 power.natAbs else 1)
  let unit := if power ≥ 0 then 1 else Nat.pow 10 power.natAbs
  if i.closed then i.low * unit ≤ point && point ≤ i.high * unit
  else i.low * unit < point && point < i.high * unit

/-- The smallest `k` with `value / scale < 10 ^ k`, looked for from `k` upwards. -/
def Interval.places (i : Interval) : (fuel : Nat) → (k : Int) → Int
  | 0, k => k
  | fuel + 1, k =>
      let power := Nat.pow 10 k.natAbs
      let below := if k ≥ 0 then i.value < i.scale * power else i.value * power < i.scale
      if below then k else i.places fuel (k + 1)

/-- The multiple of `10 ^ power` at or next above the value that lies in the interval, the nearer one
of two; of two equally near the even one. -/
def Interval.candidate? (i : Interval) (power : Int) : Option Nat :=
  let numerator := i.value * (if power ≥ 0 then 1 else Nat.pow 10 power.natAbs)
  let unit := i.scale * (if power ≥ 0 then Nat.pow 10 power.natAbs else 1)
  let floor := numerator / unit
  let twice := 2 * (numerator % unit)
  let lower := i.contains floor power
  let upper := i.contains (floor + 1) power
  if lower && upper then
    if twice < unit || (twice = unit && floor % 2 = 0) then some floor else some (floor + 1)
  else if lower then some floor
  else if upper then some (floor + 1)
  else none

/-- The first grid, from one significant digit upwards, that has a candidate. -/
def Interval.search (i : Interval) (places : Int) : (left digits : Nat) → Nat × Int
  | 0, _ => (0, 0)
  | left + 1, digits =>
      let power := places - digits
      match i.candidate? power with
      | some found => (found, power)
      | none => i.search places left (digits + 1)

/-- The number without its trailing zeros, each moved into the power of ten. -/
def stripZeros : (fuel : Nat) → Nat → Int → Nat × Int
  | 0, digits, power => (digits, power)
  | fuel + 1, digits, power =>
      if digits ≠ 0 && digits % 10 = 0 then stripZeros fuel (digits / 10) (power + 1)
      else (digits, power)

/-- Digits and power of ten of the shortest decimal of a positive finite float. -/
def ofFields (exponent fraction : Nat) : Nat × Int :=
  let i := Interval.ofFields exponent fraction
  let (digits, power) := i.search (i.places 700 (-330)) 17 1
  stripZeros 20 digits power

/-- The exponent bits of a float. -/
def exponentBits (bits : UInt64) : Nat := ((bits >>> 52) &&& 0x7ff).toNat

/-- The fraction bits of a float. -/
def fractionBits (bits : UInt64) : Nat := (bits &&& 0xfffffffffffff).toNat

/-- Whether the sign bit is set. -/
def isNegative (bits : UInt64) : Bool := bits >>> 63 == 1

end AdminConsole.Shortest
