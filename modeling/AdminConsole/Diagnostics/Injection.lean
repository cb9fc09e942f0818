import AdminConsole.Diagnostics.Basic

/-!
# Injected code

Developers may run code of their own on the console's state. The code is announced as a warning, and
whatever ends it early is contained: a failure or a panic yields one error report, the state keeps what
was changed before, and afterwards the state is synchronized once in every case.
-/

set_option autoImplicit false

namespace AdminConsole

/-- What a panic carries. -/
inductive PanicPayload where
  /-- A text that the code put together. -/
  | text (message : String)
  /-- A text that stands in the code as it is. -/
  | fixed (message : String)
  /-- Anything else. -/
  | other
  deriving DecidableEq, Repr

/-- How injected code fails. -/
inductive InjectionFailure where
  /-- The code returned an error. -/
  | failed (message : String)
  /-- The code panicked. -/
  | panicked (payload : PanicPayload)
  deriving DecidableEq, Repr

namespace InjectionFailure

/-- The text of what a panic carries. -/
def payloadText : PanicPayload → String
  | .text message => message
  | .fixed message => message
  | .other => "unknown panic payload"

/-- The failure as it is shown. -/
def message : InjectionFailure → String
  | .failed text => "injected code failed: " ++ text
  | .panicked payload => "injected code panicked: " ++ payloadText payload

end InjectionFailure

/-- What the caller learns of injected code. -/
inductive InjectionOutcome where
  | completed
  | failed (message : String)
  | panicked (message : String)
  deriving DecidableEq, Repr

namespace InjectionOutcome

/-- The outcome of code that ended with this failure, or with none. -/
def ofFailure? : Option InjectionFailure → InjectionOutcome
  | none => .completed
  | some (.failed message) => .failed message
  | some (.panicked payload) => .panicked (InjectionFailure.payloadText payload)

end InjectionOutcome

/-- One thing that injected code does to a state of type `σ`. -/
inductive InjectedAction (σ : Type) where
  | change (f : σ → σ)
  /-- A change by what the diagnostics channel shows meanwhile. -/
  | inspect (f : Diagnostics → σ → σ)
  | synchronize
  | fail (failure : InjectionFailure)

/-- What came of injected code: no failure when it was completed. -/
structure Injection (σ : Type) where
  failure : Option InjectionFailure
  state : σ
  diagnostics : Diagnostics

namespace Injection

variable {σ : Type}

/-- Runs actions up to the first that fails, with the state as it was left. They do not change the channel. -/
def runActions (channel : Diagnostics) (synchronize : σ → σ) :
    List (InjectedAction σ) → σ → Option InjectionFailure × σ
  | [], state => (none, state)
  | .change f :: more, state => runActions channel synchronize more (f state)
  | .inspect f :: more, state => runActions channel synchronize more (f channel state)
  | .synchronize :: more, state => runActions channel synchronize more (synchronize state)
  | .fail failure :: _, state => (some failure, state)

/-- Runs injected code on a state. `name` is how the code is announced. -/
def run (diagnostics : Diagnostics) (name : String) (synchronize : σ → σ)
    (code : List (InjectedAction σ)) (state : σ) : Injection σ :=
  let announced := diagnostics.report .warn "Dirty injection!" name
  let (failure, changed) := runActions announced synchronize code state
  let reported := match failure with
    | some failure => announced.report .error "Failed to execute injected code!" failure.message
    | none => announced
  { failure, state := synchronize changed, diagnostics := reported }

/-- What the caller learns. -/
def outcome (i : Injection σ) : InjectionOutcome := .ofFailure? i.failure

end Injection

/-- A state that keeps account of its synchronizations. -/
structure Tally where
  /-- The value that injected code changes. -/
  value : Int
  /-- How often the state was synchronized. -/
  synchronizations : Nat
  /-- The value at each synchronization. -/
  seen : List Int
  deriving DecidableEq, Repr

namespace Tally

/-- The account before any code ran. -/
def initial : Tally := ⟨0, 0, []⟩

/-- The account with the value increased. -/
def add (amount : Int) (t : Tally) : Tally := { t with value := t.value + amount }

/-- The account after one more synchronization. -/
def synchronize (t : Tally) : Tally :=
  { t with synchronizations := t.synchronizations + 1, seen := t.seen ++ [t.value] }

end Tally

end AdminConsole
