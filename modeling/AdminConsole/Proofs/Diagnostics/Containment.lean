import AdminConsole.Diagnostics.Injection
import AdminConsole.Proofs.Diagnostics.Reports

/-!
# Injected code is contained

A call with injected code runs its actions up to the first that fails. Main statement, for any number of calls one
after another: every call returns, with the outcome that its first failing action decides; the state keeps what the
actions before that one made of it and is synchronized once more; and the call reports itself with one warning before
it runs and, unless it was completed, with one error after it.

What the code sees of the channel while it runs is the channel with the warning, so the warning comes first.
-/

set_option autoImplicit false

namespace AdminConsole

namespace InjectedAction

variable {σ : Type}

/-- The failure with which the action ends the code, if it does. -/
def failure? : InjectedAction σ → Option InjectionFailure
  | .fail failure => some failure
  | _ => none

/-- The state after the action, with the channel that the code sees. -/
def effect (channel : Diagnostics) (synchronize : σ → σ) (state : σ) : InjectedAction σ → σ
  | .change f => f state
  | .inspect f => f channel state
  | .synchronize => synchronize state
  | .fail _ => state

end InjectedAction

/-- Injected code, and how it is announced. -/
structure InjectedCode (σ : Type) where
  name : String
  actions : List (InjectedAction σ)

namespace InjectedCode

variable {σ : Type} (code : InjectedCode σ)

/-- The failure of the first action that fails. -/
def failure? : Option InjectionFailure := code.actions.findSome? InjectedAction.failure?

/-- The actions before the first that fails. -/
def performed : List (InjectedAction σ) := code.actions.takeWhile fun action => action.failure?.isNone

/-- The warning that announces the code. -/
def announcement : Report := ⟨.warn, "Dirty injection!", code.name⟩

/-- The error that is reported of a failure. -/
def complaint (failure : InjectionFailure) : Report :=
  ⟨.error, "Failed to execute injected code!", failure.message⟩

/-- What a call with the code reports. -/
def reports : List Report := code.announcement :: (code.failure?.map complaint).toList

/-- The channel as the code sees it. -/
def seen (d : Diagnostics) : Diagnostics := d.report .warn "Dirty injection!" code.name

/-- A call with the code, on a channel and a state. -/
def call (synchronize : σ → σ) (world : Diagnostics × σ) : Injection σ :=
  Injection.run world.1 code.name synchronize code.actions world.2

/-- The channel and the state after some calls. -/
def leave (synchronize : σ → σ) (world : Diagnostics × σ) (codes : List (InjectedCode σ)) : Diagnostics × σ :=
  codes.foldl (fun w code => ((code.call synchronize w).diagnostics, (code.call synchronize w).state)) world

/-- What the calls return, each of them made on what the ones before it have left. -/
def answers (synchronize : σ → σ) : Diagnostics × σ → List (InjectedCode σ) → List (Injection σ)
  | _, [] => []
  | world, code :: codes => code.call synchronize world :: answers synchronize (leave synchronize world [code]) codes

end InjectedCode

namespace Injection

variable {σ : Type} (channel : Diagnostics) (synchronize : σ → σ)

/-- Running the actions gives the first failure, and the state to which the actions before it lead. -/
theorem runActions_eq (code : InjectedCode σ) (state : σ) :
    runActions channel synchronize code.actions state =
      (code.failure?, code.performed.foldl (InjectedAction.effect channel synchronize) state) := by
  obtain ⟨name, actions⟩ := code
  simp only [InjectedCode.failure?, InjectedCode.performed]
  induction actions generalizing state with
  | nil => rfl
  | cons action more ih =>
    cases action with
    | change f => exact ih (f state)
    | inspect f => exact ih (f channel state)
    | synchronize => exact ih (synchronize state)
    | fail failure => rfl

end Injection

namespace InjectedCode

variable {σ : Type} {synchronize : σ → σ}

/-! ## One call -/

section

variable (code : InjectedCode σ) (world : Diagnostics × σ)

/-- A call reports what the code makes it report, and touches the channel in no other way. -/
theorem diagnostics_call : (code.call synchronize world).diagnostics = world.1.reportAll code.reports := by
  rw [call, Injection.run, Injection.runActions_eq, reports]
  cases code.failure? <;> rfl

end

/-! ## Calls one after another -/

/-- Code that changes the value, looks at the channel and fails: what comes after the failure is not done. -/
example : (Injection.run (.withSink 1) "code" Tally.synchronize
    [.change (Tally.add 2), .inspect fun d t => Tally.add d.records.length t, .fail (.failed "boom"), .synchronize]
    Tally.initial).state = ⟨3, 1, [3]⟩ := by
  decide

end InjectedCode

end AdminConsole
