import AdminConsole.Text.Cut

/-!
# Punycode

A label of a domain name with other characters than ASCII is written with ASCII alone: first its ASCII
characters, then the others in the order of their code points, each as the distance from the one before
it in a sequence of digits of varying worth.
-/

set_option autoImplicit false

namespace AdminConsole.Punycode

/-- The digit of a value below thirty-six. -/
def digit (value : Nat) : Char :=
  if value < 26 then Char.ofNat (97 + value) else Char.ofNat (22 + value)

/-- The value of a digit of either case. -/
def value? (c : Char) : Option Nat :=
  if 'a' ≤ c && c ≤ 'z' then some (c.toNat - 97)
  else if 'A' ≤ c && c ≤ 'Z' then some (c.toNat - 65)
  else if c.isDigit then some (c.toNat - 22)
  else none

/-- The value from which on a digit is followed by another, at a weight of thirty-six times `place`. -/
def threshold (place bias : Nat) : Nat :=
  if 36 * place ≤ bias + 1 then 1 else min 26 (36 * place - bias)

/-- A threshold is never zero, so reading a number comes to an end. -/
theorem threshold_pos (place bias : Nat) : 0 < threshold place bias := by
  unfold threshold; split <;> omega

/-- A distance in digits. -/
def digits (bias place distance : Nat) : List Char :=
  let t := threshold place bias
  if h : distance < t then [digit distance]
  else digit (t + (distance - t) % (36 - t)) :: digits bias (place + 1) ((distance - t) / (36 - t))
  termination_by distance
  decreasing_by
    have hpos := threshold_pos place bias
    have hdiv := Nat.div_le_self (distance - threshold place bias) (36 - threshold place bias)
    omega

/-- Scales a distance down, with the bias that goes with it. -/
def scaleDown (distance bias : Nat) : Nat :=
  if distance > 455 then scaleDown (distance / 35) (bias + 36)
  else bias + 36 * distance / (distance + 38)
  termination_by distance
  decreasing_by omega

/-- The bias after a distance to one of `count` characters. -/
def adapt (distance count : Nat) (first : Bool) : Nat :=
  let halved := if first then distance / 700 else distance / 2
  scaleDown (halved + halved / count) 0

/-! ## Writing -/

/-- What was written so far. -/
structure Writing where
  /-- The digits, the last one first. -/
  output : List Char
  distance : Nat
  bias : Nat
  /-- The number of characters that are written. -/
  count : Nat

/-- Passes one character of the label while characters of one code point are written. -/
def pass (basic code : Nat) (w : Writing) (c : Char) : Writing :=
  if c.toNat < code then { w with distance := w.distance + 1 }
  else if c.toNat = code then
    { output := (digits w.bias 1 w.distance).reverse ++ w.output
      distance := 0
      bias := adapt w.distance (w.count + 1) (w.count == basic)
      count := w.count + 1 }
  else w

/-- Writes the characters of each code point in turn, where `next` is the lowest that was not passed. -/
def writeAll (label : List Char) (basic : Nat) : (codes : List Nat) → (next : Nat) → Writing → Writing
  | [], _, w => w
  | code :: more, next, w =>
      let ahead := { w with distance := w.distance + (code - next) * (w.count + 1) }
      let passed := label.foldl (pass basic code) ahead
      writeAll label basic more (code + 1) { passed with distance := passed.distance + 1 }

/-- The label in ASCII characters, without the mark of such labels. -/
def encode (label : List Char) : List Char :=
  let basic := label.filter fun c => c.toNat < 128
  let codes := ((label.filter fun c => 128 ≤ c.toNat).map Char.toNat).mergeSort.eraseDups
  let written := writeAll label basic.length codes 128 ⟨[], 0, 72, basic.length⟩
  (if basic.isEmpty then [] else basic ++ ['-']) ++ written.output.reverse

/-! ## Reading -/

/-- The weight that no digit of a distance reaches. -/
def weightBound : Nat := Nat.pow 2 32

/-- Reads a distance, and what follows its digits. -/
def readDistance (bias : Nat) : (place weight : Nat) → List Char → Option (Nat × List Char)
  | _, _, [] => none
  | place, weight, c :: rest => do
      let value ← value? c
      let t := threshold place bias
      if value < t then return (value * weight, rest)
      if weightBound ≤ weight * (36 - t) then none
      else
        let (more, tail) ← readDistance bias (place + 1) (weight * (36 - t)) rest
        return (value * weight + more, tail)

/-- Reads the characters that are not ASCII into the label read so far. Each takes at least one digit, so
as many steps as there are digits are enough. -/
def readAll : (steps : Nat) → (code position bias : Nat) → (first : Bool) → (label : List Char) →
    List Char → Option (List Char)
  | _, _, _, _, _, label, [] => some label
  | 0, _, _, _, _, _, _ :: _ => none
  | steps + 1, code, position, bias, first, label, text => do
      let (distance, rest) ← readDistance bias 1 1 text
      let count := label.length + 1
      let reached := position + distance
      let next := code + reached / count
      if next ≥ 0x110000 || (0xd800 ≤ next && next < 0xe000) then none
      else
        let place := reached % count
        readAll steps next (place + 1) (adapt distance count first) false
          (label.take place ++ Char.ofNat next :: label.drop place) rest

/-- The label that is written with ASCII characters. -/
def decode (text : List Char) : Option (List Char) :=
  match Text.cutLast '-' text with
  | some ([], _) => none
  | some (basic, extended) => readAll extended.length 128 0 72 true basic extended
  | none => readAll text.length 128 0 72 true [] text

end AdminConsole.Punycode
