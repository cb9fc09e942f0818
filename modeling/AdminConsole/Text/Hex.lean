/-!
# Hexadecimal digits

Digits of either case are read alike. Which case is written depends on the format.
-/

set_option autoImplicit false

namespace AdminConsole.Hex

/-- The value of a hexadecimal digit of either case. -/
def value? (c : Char) : Option Nat :=
  if '0' ≤ c && c ≤ '9' then some (c.toNat - 48)
  else if 'A' ≤ c && c ≤ 'F' then some (c.toNat - 55)
  else if 'a' ≤ c && c ≤ 'f' then some (c.toNat - 87)
  else none

/-- The lower-case hexadecimal digit of a value below sixteen. -/
def digit (value : Nat) : Char :=
  if value < 10 then Char.ofNat (48 + value) else Char.ofNat (87 + value)

/-- The upper-case hexadecimal digit of a value below sixteen. -/
def upperDigit (value : Nat) : Char :=
  if value < 10 then Char.ofNat (48 + value) else Char.ofNat (55 + value)

/-- The number written by hexadecimal digits; none if one of the characters is no such digit. -/
def number? (digits : List Char) : Option Nat :=
  digits.foldlM (fun n c => (value? c).map (16 * n + ·)) 0

/-- A number in lower-case hexadecimal digits, as few as it takes. -/
def ofNat (value : Nat) : List Char :=
  Nat.toDigits 16 value

/-- A digit that is written has its value. -/
theorem value?_upperDigit {n : Nat} (h : n < 16) : value? (upperDigit n) = some n := by
  have all : ∀ m : Fin 16, value? (upperDigit m.val) = some m.val := by decide
  exact all ⟨n, h⟩

end AdminConsole.Hex
