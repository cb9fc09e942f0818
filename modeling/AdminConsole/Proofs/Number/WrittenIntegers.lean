import AdminConsole.Number.Integer
import Mathlib.Tactic.Common

/-!
# Integers as they are written

The reader looks at the range after each digit. Main statement: what it reads from a text is the integer that the
text writes in decimal, exactly if that lies in the range. More digits only lead further away from zero, so a number
whose beginning is out of range is out of range itself.
-/

set_option autoImplicit false

namespace AdminConsole.IntegerRange

/-- Whether a text writes an integer: decimal digits, at least one, and a sign before them if there is one. -/
inductive IsWritten : List Char → Int → Prop where
  | unsigned {digits : List Char} (ne : digits ≠ []) (all : ∀ c ∈ digits, c.isDigit = true) :
      IsWritten digits (Nat.ofDigitChars 10 digits 0)
  | plus {digits : List Char} (ne : digits ≠ []) (all : ∀ c ∈ digits, c.isDigit = true) :
      IsWritten ('+' :: digits) (Nat.ofDigitChars 10 digits 0)
  | minus {digits : List Char} (ne : digits ≠ []) (all : ∀ c ∈ digits, c.isDigit = true) :
      IsWritten ('-' :: digits) (-(Nat.ofDigitChars 10 digits 0 : Nat))

/-- The range on the other side of zero. -/
def mirror (range : IntegerRange) : IntegerRange := ⟨-range.high, -range.low⟩

variable {range : IntegerRange} {digits : List Char} {n : Int}

/-- A number does not get smaller when digits are appended to it. -/
theorem le_ofDigitChars (digits : List Char) (value : Nat) : value ≤ Nat.ofDigitChars 10 digits value := by
  induction digits generalizing value with
  | nil => exact Nat.le_of_eq Nat.ofDigitChars_nil.symm
  | cons c digits ih =>
    rw [Nat.ofDigitChars_cons]
    have hnext := ih (10 * value + (c.toNat - '0'.toNat))
    omega

/-- Digits come from the code point of zero on. -/
theorem le_toNat_of_isDigit {c : Char} (h : c.isDigit = true) : 48 ≤ c.toNat := by
  simp only [Char.isDigit, Bool.and_eq_true, decide_eq_true_eq] at h
  exact h.1

/-- Digits are read as the number that they write, if it is in the range. -/
theorem readDigits_eq_ok_iff (low : range.low ≤ 0) {value : Nat} (high : (value : Int) ≤ range.high) :
    range.readDigits false value digits = .ok n ↔
      (∀ c ∈ digits, c.isDigit = true) ∧ n = Nat.ofDigitChars 10 digits value ∧ n ≤ range.high := by
  induction digits generalizing value with
  | nil =>
    simp only [readDigits, Except.ok.injEq, Nat.ofDigitChars_nil, List.not_mem_nil, false_implies, implies_true,
      true_and]
    omega
  | cons c digits ih =>
    rw [readDigits, List.forall_mem_cons, Nat.ofDigitChars_cons]
    by_cases hdigit : c.isDigit = true
    · have hcode := le_toNat_of_isDigit hdigit
      have hnext : (10 * (value : Int) + ((c.toNat : Int) - 48)) =
          ((10 * value + (c.toNat - '0'.toNat) : Nat) : Int) := by
        have hzero : '0'.toNat = 48 := rfl
        omega
      simp only [hdigit, if_true, Bool.false_eq_true, if_false, true_and, hnext]
      rw [if_neg (by omega)]
      by_cases hover : range.high < ((10 * value + (c.toNat - '0'.toNat) : Nat) : Int)
      · -- A number that is too great stays so, whatever digits follow.
        rw [if_pos hover]
        have hle := le_ofDigitChars digits (10 * value + (c.toNat - '0'.toNat))
        simp only [reduceCtorEq, false_iff, not_and]
        intro _ heq
        omega
      · rw [if_neg hover]
        exact ih (by omega)
    · simp [hdigit]

/-- Reading downwards is reading upwards on the other side of zero. -/
theorem readDigits_neg_iff {value : Int} (nonempty : range.low ≤ range.high) :
    range.readDigits true (-value) digits = .ok (-n) ↔ range.mirror.readDigits false value digits = .ok n := by
  induction digits generalizing value with
  | nil => simp [readDigits]
  | cons c digits ih =>
    rw [readDigits, readDigits]
    by_cases hdigit : c.isDigit = true
    · have hnext : 10 * -value - ((c.toNat : Int) - 48) = -(10 * value + ((c.toNat : Int) - 48)) := by omega
      simp only [hdigit, if_true, Bool.false_eq_true, if_false, hnext, mirror]
      generalize 10 * value + ((c.toNat : Int) - 48) = next at *
      by_cases hlow : -next < range.low
      · rw [if_pos hlow, if_neg (by omega), if_pos (by omega)]
        simp
      · by_cases hhigh : range.high < -next
        · rw [if_neg hlow, if_pos hhigh, if_pos (by omega)]
          simp
        · rw [if_neg hlow, if_neg hhigh, if_neg (by omega), if_neg (by omega)]
          exact ih
    · simp [hdigit]

/-! ## Whole texts -/

/-- Behind a plus sign a number is written with digits. -/
theorem isWritten_plus_iff : IsWritten ('+' :: digits) n ↔
    digits ≠ [] ∧ (∀ c ∈ digits, c.isDigit = true) ∧ n = (Nat.ofDigitChars 10 digits 0 : Nat) := by
  constructor
  · intro h
    cases h with
    | unsigned _ all => exact absurd (all '+' List.mem_cons_self) (by decide)
    | plus ne all => exact ⟨ne, all, rfl⟩
  · rintro ⟨ne, all, rfl⟩
    exact .plus ne all

/-- Behind a minus sign the opposite of a number is written with digits. -/
theorem isWritten_minus_iff : IsWritten ('-' :: digits) n ↔
    digits ≠ [] ∧ (∀ c ∈ digits, c.isDigit = true) ∧ n = -(Nat.ofDigitChars 10 digits 0 : Nat) := by
  constructor
  · intro h
    cases h with
    | unsigned _ all => exact absurd (all '-' List.mem_cons_self) (by decide)
    | minus ne all => exact ⟨ne, all, rfl⟩
  · rintro ⟨ne, all, rfl⟩
    exact .minus ne all

/-- Without a sign a number is written with digits. -/
theorem isWritten_unsigned_iff (plus : digits.head? ≠ some '+') (minus : digits.head? ≠ some '-') :
    IsWritten digits n ↔
      digits ≠ [] ∧ (∀ c ∈ digits, c.isDigit = true) ∧ n = (Nat.ofDigitChars 10 digits 0 : Nat) := by
  constructor
  · intro h
    cases h with
    | unsigned ne all => exact ⟨ne, all, rfl⟩
    | plus ne all => exact absurd rfl plus
    | minus ne all => exact absurd rfl minus
  · rintro ⟨ne, all, rfl⟩
    exact .unsigned ne all

/-- Digits without a sign, or behind a plus sign, are read upwards from zero. -/
theorem readDigits_zero_iff (low : range.low ≤ 0) (high : 0 ≤ range.high) : range.readDigits false 0 digits = .ok n ↔
    ((∀ c ∈ digits, c.isDigit = true) ∧ n = (Nat.ofDigitChars 10 digits 0 : Nat)) ∧
      range.low ≤ n ∧ n ≤ range.high := by
  rw [← Int.natCast_zero, readDigits_eq_ok_iff low high]
  constructor
  · rintro ⟨all, rfl, hle⟩
    exact ⟨⟨all, rfl⟩, by omega, hle⟩
  · rintro ⟨⟨all, rfl⟩, _, hle⟩
    exact ⟨all, rfl, hle⟩

/-- Digits behind a minus sign are read downwards from zero. -/
theorem readDigits_minus_iff (low : range.low ≤ 0) (high : 0 ≤ range.high) : range.readDigits true 0 digits = .ok n ↔
    ((∀ c ∈ digits, c.isDigit = true) ∧ n = -(Nat.ofDigitChars 10 digits 0 : Nat)) ∧
      range.low ≤ n ∧ n ≤ range.high := by
  have hmirror : range.readDigits true (-0) digits = .ok (- -n) ↔ range.mirror.readDigits false 0 digits = .ok (-n) :=
    readDigits_neg_iff (Int.le_trans low high)
  have hlow : range.mirror.low ≤ 0 := by
    change -range.high ≤ 0
    omega
  have hhigh : 0 ≤ range.mirror.high := by
    change 0 ≤ -range.low
    omega
  rw [Int.neg_zero, Int.neg_neg] at hmirror
  rw [hmirror, readDigits_zero_iff hlow hhigh]
  simp only [mirror]
  constructor
  · rintro ⟨⟨all, heq⟩, hge, hle⟩
    exact ⟨⟨all, by omega⟩, by omega, by omega⟩
  · rintro ⟨⟨all, heq⟩, hge, hle⟩
    exact ⟨⟨all, by omega⟩, by omega, by omega⟩

/-- **What is read is what is written**, if it lies in the range. -/
theorem read_eq_ok_iff (low : range.low < 0) (high : 0 ≤ range.high) (text : List Char) :
    range.read text = .ok n ↔ IsWritten text n ∧ range.low ≤ n ∧ n ≤ range.high := by
  have hlow : range.low ≤ 0 := Int.le_of_lt low
  unfold read
  split
  · rw [isWritten_unsigned_iff (by simp) (by simp)]
    simp
  · simp [isWritten_plus_iff]
  · simp [isWritten_minus_iff]
  · rename_i digits hne
    have hsome : digits ≠ [] := hne
    rw [readDigits_zero_iff hlow high, isWritten_plus_iff, and_iff_right hsome]
  · rename_i digits hne
    have hsome : digits ≠ [] := hne
    rw [if_pos low, readDigits_minus_iff hlow high, isWritten_minus_iff, and_iff_right hsome]
  · rename_i hsome _ _ hplus hminus
    have hne : text ≠ [] := hsome
    rw [readDigits_zero_iff hlow high, isWritten_unsigned_iff, and_iff_right hne]
    · intro hhead
      obtain ⟨rest, rfl⟩ := List.head?_eq_some_iff.mp hhead
      exact hplus rest rfl
    · intro hhead
      obtain ⟨rest, rfl⟩ := List.head?_eq_some_iff.mp hhead
      exact hminus rest rfl

end AdminConsole.IntegerRange
