/-!
# Several computations at once

A list of computations that share one state is advanced together. A serial list starts each of them only
after the one before it has succeeded. A short list polls all of them in order and fails with the first
failure it meets. A long list polls them in the order in which they were woken, and acknowledges a failure
only when all before it have succeeded; until then it goes on with the others.
-/

set_option autoImplicit false

namespace AdminConsole

/-- How far a computation has come. -/
inductive Progress (ε : Type) where
  | pending
  | succeeded
  | failed (error : ε)
  deriving DecidableEq, Repr

namespace Progress

variable {ε : Type}

/-- Whether the computation has not ended. -/
def isPending : Progress ε → Bool
  | .pending => true
  | _ => false

end Progress

/-- How the computations of a list are advanced. -/
inductive JoinMode where
  | serial
  | together
  | inOrder
  deriving DecidableEq, Repr

namespace JoinMode

/-- The longest list that fails with the first failure it meets. -/
def shortList : Nat := 30

/-- The mode of a list of computations that do not wait for each other. -/
def ofCount (count : Nat) : JoinMode :=
  if count ≤ shortList then .together else .inOrder

end JoinMode

/-- When a computation was woken: at its start, at an instant by the event with this number, or not
since it was last polled. -/
inductive Waking where
  | atStart
  | at (instant event : Nat)
  | never
  deriving DecidableEq, Repr

namespace Waking

/-- Whether one computation was woken no later than another. -/
def notAfter : Waking → Waking → Bool
  | .atStart, _ => true
  | .at _ _, .atStart => false
  | .at s m, .at t n => s < t || (s = t && m ≤ n)
  | .at _ _, .never => true
  | .never, .never => true
  | .never, _ => false

/-- The earlier of two. -/
def earlier (a b : Waking) : Waking :=
  if a.notAfter b then a else b

end Waking

namespace Join

variable {α σ ε : Type}

/-- How far the whole list has come. -/
def outcome (mode : JoinMode) (status : α → Progress ε) : List α → Progress ε
  | [] => .succeeded
  | item :: more =>
      match status item with
      | .failed error => .failed error
      | .succeeded => outcome mode status more
      | .pending =>
          match mode, outcome mode status more with
          | .inOrder, _ => .pending
          | _, .failed error => .failed error
          | _, _ => .pending

/-- Whether a computation that was just polled keeps those after it from being polled. -/
def stops (mode : JoinMode) : Progress ε → Bool
  | .pending => mode == .serial
  | .succeeded => false
  | .failed _ => true

/-- Polls the computations of a list once, in order. Those that have ended are not polled again. -/
def advance (mode : JoinMode) (status : α → Progress ε) (poll : α → σ → α × σ) :
    List α → σ → List α × σ
  | [], state => ([], state)
  | item :: more, state =>
      let (item, state) := if (status item).isPending then poll item state else (item, state)
      if stops mode (status item) then (item :: more, state)
      else
        let (others, state) := advance mode status poll more state
        (item :: others, state)

/-- Polls the computations at these places of a list, until a failure is acknowledged. -/
def advanceAt (status : α → Progress ε) (poll : α → σ → α × σ) : (places : List Nat) → List α → σ →
    List α × σ
  | [], items, state => (items, state)
  | place :: more, items, state =>
      match items[place]? with
      | none => advanceAt status poll more items state
      | some item =>
          let (item, state) := if (status item).isPending then poll item state else (item, state)
          let items := items.set place item
          match outcome .inOrder status items with
          | .failed _ => (items, state)
          | _ => advanceAt status poll more items state

/-- Puts the place of a computation, with its waking, before the first of a queue that was woken later or together
with it. -/
def queue (entry : Waking × Nat) : List (Waking × Nat) → List (Waking × Nat)
  | [] => [entry]
  | next :: more => if entry.1.notAfter next.1 then entry :: next :: more else next :: queue entry more

/-- The places of a list in the order in which their items were woken, and of those woken together in their own. -/
def wakeOrder (woken : α → Waking) (items : List α) : List Nat :=
  ((items.zipIdx.map fun entry => (woken entry.1, entry.2)).foldr queue []).map (·.2)

/-- Polls the computations of a list once, as its mode demands. `woken` tells when each was woken. -/
def poll (mode : JoinMode) (status : α → Progress ε) (woken : α → Waking)
    (poll : α → σ → α × σ) (items : List α) (state : σ) : List α × σ :=
  match mode with
  | .inOrder => advanceAt status poll (wakeOrder woken items) items state
  | _ => advance mode status poll items state

end Join

end AdminConsole
