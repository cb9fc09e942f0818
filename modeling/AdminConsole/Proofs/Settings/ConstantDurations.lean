import AdminConsole.Json.Numeral
import AdminConsole.Proofs.Number.WrittenIntegers
import AdminConsole.Proofs.Result
import AdminConsole.Settings.Constants

/-!
# Durations from constants

A constant gives a duration if it is an integer of 64 bits, as a number or as a text. Main statement: after the
constants were applied the watchdog is enabled exactly if both durations in effect are positive. In effect is the one
that the constant gives, and the one that was set before if there is no such constant; a constant that is there but
gives no duration unsets it, with one warning. Nothing else is changed or warned of.
-/

set_option autoImplicit false

namespace AdminConsole

/-- A duration of the watchdog that constants can give. -/
inductive IdleDuration where
  | time
  | timeout
  deriving DecidableEq, Repr

namespace IdleDuration

/-- The constant that holds the duration. -/
def constant : IdleDuration → String
  | .time => Settings.idleTimeConstant
  | .timeout => Settings.idleTimeoutConstant

/-- The duration in the settings. -/
def setting (s : Settings) : IdleDuration → Option Int
  | .time => s.idle.time
  | .timeout => s.idle.timeout

/-- Whether a number of seconds has 64 bits with a sign. -/
def Fits (seconds : Int) : Prop := -9223372036854775808 ≤ seconds ∧ seconds ≤ 9223372036854775807

/-- Whether a value stands for a number of seconds: it is this integer, or a text that writes it, apart from white
space at its ends. -/
inductive StandsFor : Json → Int → Prop where
  | number {seconds : Int} (fits : Fits seconds) : StandsFor (.integer seconds) seconds
  | text {text : String} {seconds : Int} (written : IntegerRange.IsWritten (Text.trim text.toList) seconds)
      (fits : Fits seconds) : StandsFor (.string text) seconds

/-- Whether a duration is in effect: its constant stands for it, or there is no such constant and it was set before. -/
def InEffect (s : Settings) (constants : Dictionary Json) (d : IdleDuration) (seconds : Int) : Prop :=
  (∃ value, constants.get? d.constant = some value ∧ StandsFor value seconds) ∨
    constants.get? d.constant = none ∧ d.setting s = some seconds

/-! ## Reading one constant -/

/-- A constant gives the seconds that it stands for. -/
theorem constantSeconds?_eq_some_iff {value : Json} {seconds : Int} :
    Settings.constantSeconds? value = some seconds ↔ StandsFor value seconds := by
  cases value with
  | integer n =>
    have hholds : (IntegerRange.signed 64).holds n = true ↔ Fits n := by
      rw [IntegerRange.holds, Bool.and_eq_true, decide_eq_true_eq, decide_eq_true_eq]
      rfl
    rw [Settings.constantSeconds?, Option.ite_none_right_eq_some, hholds]
    constructor
    · rintro ⟨fits, heq⟩
      obtain rfl := Option.some.inj heq
      exact .number fits
    · intro h
      cases h with
      | number fits => exact ⟨fits, rfl⟩
  | string text =>
    have hread : (IntegerRange.signed 64).read (Text.trim text.toList) = .ok seconds ↔
        IntegerRange.IsWritten (Text.trim text.toList) seconds ∧ Fits seconds :=
      IntegerRange.read_eq_ok_iff (by decide) (by decide) _
    constructor
    · intro h
      obtain ⟨written, fits⟩ := hread.mp (Result.ok_of_toOption h)
      exact .text written fits
    · intro h
      cases h with
      | text written fits =>
        rw [Settings.constantSeconds?, hread.mpr ⟨written, fits⟩]
        rfl
  | null | bool _ | float _ | array _ | object _ =>
    refine iff_of_false ?_ ?_
    · simp [Settings.constantSeconds?]
    · rintro ⟨⟩

/-- A number that is written with a fraction or an exponent stands for no duration. -/
theorem not_standsFor_of_numeral {n : Json.Numeral} {value : Json} (h : n.value? = some value)
    (float : n.fraction ≠ [] ∨ n.exponent ≠ none) (seconds : Int) : ¬ StandsFor value seconds := by
  have hfloat : ∃ x, value = .float x := by
    have hcheck : (n.fraction.isEmpty && n.exponent.isNone && (Json.Numeral.collect 0 n.whole).2.isEmpty) = false := by
      rcases float with h | h <;> simp [h]
    simp only [Json.Numeral.value?, hcheck] at h
    obtain ⟨magnitude, _, hvalue⟩ := Option.bind_eq_some_iff.mp h
    exact ⟨_, (Option.some.inj hvalue).symm⟩
  obtain ⟨x, rfl⟩ := hfloat
  rintro ⟨⟩

end IdleDuration

namespace Settings

open IdleDuration

variable {s : Settings} {constants : Dictionary Json}

/-! ## Both constants -/

/-- A duration after its constant was looked at is the one in effect. -/
theorem constantOverride_eq_some_iff (d : IdleDuration) {seconds : Int} :
    (constantOverride constants d.constant (d.setting s)).1 = some seconds ↔ InEffect s constants d seconds := by
  unfold constantOverride InEffect
  cases hconstant : constants.get? d.constant with
  | none => simp
  | some value =>
    simp only [Option.some.injEq, exists_eq_left', reduceCtorEq, false_and, or_false,
      ← constantSeconds?_eq_some_iff]
    cases constantSeconds? value <;> simp

/-- A constant is warned of exactly if it is there and stands for no duration. -/
theorem mem_constantOverride_iff (d : IdleDuration) {before : Option Int} {w : ConstantWarning} :
    w ∈ (constantOverride constants d.constant before).2 ↔
      ∃ value, constants.get? d.constant = some value ∧ (∀ seconds, ¬ StandsFor value seconds) ∧
        w = ⟨d.constant, value.compact⟩ := by
  simp only [← constantSeconds?_eq_some_iff]
  unfold constantOverride
  cases hconstant : constants.get? d.constant with
  | none => simp
  | some value => cases hseconds : constantSeconds? value <;> simp [hseconds]

/-- There is one warning for a constant at most. -/
theorem constantOverride_sublist (d : IdleDuration) (before : Option Int) :
    ((constantOverride constants d.constant before).2.map (·.constant)).Sublist [d.constant] := by
  unfold constantOverride
  cases constants.get? d.constant with
  | none => exact List.nil_sublist _
  | some value =>
    cases hseconds : constantSeconds? value with
    | none => simp [hseconds]
    | some seconds => simp [hseconds]

/-- What constants do to settings. -/
structure ConstantsApplied (s : Settings) (constants : Dictionary Json) : Prop where
  /-- Each duration is set to the one in effect, and not set if there is none. -/
  effective : ∀ (d : IdleDuration) seconds,
    d.setting (s.applyConstants constants).1 = some seconds ↔ InEffect s constants d seconds
  /-- The watchdog is enabled exactly if both durations in effect are positive integers of 64 bits. -/
  enabled : (∃ config, (s.applyConstants constants).1.idleConfig = some config) ↔
    ∀ d, ∃ seconds, InEffect s constants d seconds ∧ 1 ≤ seconds ∧ seconds ≤ 9223372036854775807
  /-- It counts with exactly these durations. -/
  durations : ∀ config, (s.applyConstants constants).1.idleConfig = some config ↔
    InEffect s constants .time config.idle ∧ InEffect s constants .timeout config.timeout
  /-- A constant that is there and stands for no duration is warned of, with its value, and nothing else is. -/
  warned : ∀ w, w ∈ (s.applyConstants constants).2 ↔ ∃ (d : IdleDuration) (value : Json),
    constants.get? d.constant = some value ∧ (∀ seconds, ¬ StandsFor value seconds) ∧
      w = ⟨d.constant, value.compact⟩
  /-- No constant is warned of twice. -/
  once : ((s.applyConstants constants).2.map (·.constant)).Nodup
  /-- The durations are the only settings that change. -/
  kept : (s.applyConstants constants).1 = { s with idle := (s.applyConstants constants).1.idle }
  /-- Numbers that are written with a fraction or an exponent stand for no duration. -/
  fractional : ∀ (n : Json.Numeral) value, n.value? = some value → n.fraction ≠ [] ∨ n.exponent ≠ none →
    ∀ seconds, ¬ StandsFor value seconds

/-- Each duration is overridden by its own constant. -/
theorem setting_applyConstants (d : IdleDuration) :
    d.setting (s.applyConstants constants).1 = (constantOverride constants d.constant (d.setting s)).1 := by
  cases d <;> rfl

/-- The idle times are those that are in effect when the constants have been applied. -/
theorem idleConfig_applyConstants_iff {config : IdleConfig} :
    (s.applyConstants constants).1.idleConfig = some config ↔
      InEffect s constants .time config.idle ∧ InEffect s constants .timeout config.timeout := by
  rw [idleConfig, IdleConfig.ofOptions_eq_some_iff, ← constantOverride_eq_some_iff, ← constantOverride_eq_some_iff]
  rfl

/-- **Constants give the watchdog its durations**, and only positive integers enable it. -/
theorem constants_applied (s : Settings) (constants : Dictionary Json) : ConstantsApplied s constants where
  effective := fun d _ => by rw [setting_applyConstants, constantOverride_eq_some_iff]
  enabled := by
    simp only [idleConfig_applyConstants_iff]
    constructor
    · rintro ⟨⟨idle, timeout, hidle, htimeout⟩, htime, hlater⟩ d
      have hmax : maxSeconds = 9223372036854775807 := rfl
      cases d with
      | time => exact ⟨idle, htime, by omega, by omega⟩
      | timeout => exact ⟨timeout, hlater, by omega, by omega⟩
    · intro h
      obtain ⟨idle, htime, hpos, hle⟩ := h .time
      obtain ⟨timeout, hlater, hpos', hle'⟩ := h .timeout
      have hmax : maxSeconds = 9223372036854775807 := rfl
      refine ⟨⟨idle.toNat, timeout.toNat, by omega, by omega⟩, ?_, ?_⟩
      · rwa [Int.toNat_of_nonneg (by omega)]
      · rwa [Int.toNat_of_nonneg (by omega)]
  durations := fun _ => idleConfig_applyConstants_iff
  warned := by
    intro w
    have hboth : w ∈ (s.applyConstants constants).2 ↔
        w ∈ (constantOverride constants IdleDuration.time.constant s.idle.time).2 ∨
          w ∈ (constantOverride constants IdleDuration.timeout.constant s.idle.timeout).2 :=
      List.mem_append
    rw [hboth, mem_constantOverride_iff, mem_constantOverride_iff]
    constructor
    · rintro (h | h)
      · exact ⟨.time, h⟩
      · exact ⟨.timeout, h⟩
    · rintro ⟨_ | _, h⟩
      · exact .inl h
      · exact .inr h
  once := by
    have hnames : [IdleDuration.time.constant, IdleDuration.timeout.constant].Nodup := by decide
    refine List.Nodup.sublist ?_ hnames
    change (List.map _ (_ ++ _)).Sublist ([_] ++ [_])
    rw [List.map_append]
    exact (constantOverride_sublist .time s.idle.time).append (constantOverride_sublist .timeout s.idle.timeout)
  kept := rfl
  fractional := fun _ _ => not_standsFor_of_numeral

end Settings

end AdminConsole
