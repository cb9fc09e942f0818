import AdminConsole.Proofs.Idle.Countdown
import Mathlib.Data.List.Chain
import Mathlib.Data.List.Induction

/-!
# What a tracker answers

A tracker notices an expiry only when it is called, and an interaction both looks for the expiry and begins the
count again. Its answers are nevertheless told by the interactions alone. Main statement: the session expires with
the first call that comes too late after the latest interaction before it, every answer from then on is that it has
expired, and before that the answer is told by the time since the latest interaction. So queries change no answer
but their own.

The induction over the calls, from the last one backwards, carries that a tracker which has not expired is the one
that began with the latest interaction.
-/

set_option autoImplicit false

namespace AdminConsole

/-- A call of a tracker: it is asked for the state, or told of an interaction. -/
inductive IdleCall where
  | query (now : Nat)
  | interrupt (now : Nat)
  deriving DecidableEq, Repr

namespace IdleCall

/-- When the call is made. -/
def instant : IdleCall → Nat
  | .query now => now
  | .interrupt now => now

/-- The instants of the interactions among some calls. -/
def interactions (calls : List IdleCall) : List Nat :=
  calls.filterMap fun
    | .query _ => none
    | .interrupt now => some now

/-- The instant of the latest interaction, or that of the start if there was none. -/
def latest (origin : Nat) (calls : List IdleCall) : Nat :=
  (interactions calls).getLast?.getD origin

/-- Whether calls are made in order of time, and none of them before the start. -/
def InOrder (origin : Nat) (calls : List IdleCall) : Prop :=
  (origin :: calls.map instant).Pairwise (· ≤ ·)

/-- Whether a call comes too late after the latest interaction before it. -/
def Overdue (c : IdleConfig) (origin : Nat) (before : List IdleCall) (call : IdleCall) : Prop :=
  c.idleTime + c.timeoutTime ≤ call.instant - latest origin before

/-- Whether one of the calls comes too late. -/
def Lapsed (c : IdleConfig) (origin : Nat) (calls : List IdleCall) : Prop :=
  ∃ before call after, calls = before ++ call :: after ∧ Overdue c origin before call

/-- What is answered to a call that finds the session alive. -/
def lively (c : IdleConfig) (origin : Nat) (before : List IdleCall) : IdleCall → IdleState
  | .query now => if now - latest origin before < c.idleTime then .active else .warning
  | .interrupt _ => .active

section

variable {c : IdleConfig} {origin : Nat} {before : List IdleCall}

/-- A query is made at its instant. -/
@[simp] theorem instant_query (now : Nat) : (IdleCall.query now).instant = now := rfl

/-- An interaction happens at its instant. -/
@[simp] theorem instant_interrupt (now : Nat) : (IdleCall.interrupt now).instant = now := rfl

/-- A query is no interaction. -/
theorem interactions_concat_query (now : Nat) : interactions (before ++ [.query now]) = interactions before := by
  simp [interactions]

/-- An interaction comes after those before it. -/
theorem interactions_concat_interrupt (now : Nat) :
    interactions (before ++ [.interrupt now]) = interactions before ++ [now] := by
  simp [interactions]

/-- The latest interaction depends on the interactions alone. -/
theorem latest_congr {other : List IdleCall} (h : interactions before = interactions other) :
    latest origin before = latest origin other := by
  rw [latest, h, latest]

/-- The latest interaction stays the same after a query. -/
theorem latest_concat_query (now : Nat) : latest origin (before ++ [.query now]) = latest origin before :=
  latest_congr (interactions_concat_query now)

/-- An interaction is the latest one when it has happened. -/
theorem latest_concat_interrupt (now : Nat) : latest origin (before ++ [.interrupt now]) = now := by
  rw [latest, interactions_concat_interrupt, List.getLast?_concat, Option.getD_some]

/-- What is answered to a call that finds the session alive depends on the interactions alone. -/
theorem lively_congr {other : List IdleCall} (h : interactions before = interactions other) (call : IdleCall) :
    lively c origin before call = lively c origin other call := by
  cases call with
  | query now => rw [lively, latest_congr h, lively]
  | interrupt now => rfl

/-- A call that finds the session alive is never told of its expiry. -/
theorem lively_ne_expired (call : IdleCall) : lively c origin before call ≠ .expired := by
  cases call with
  | query now => by_cases h : now - latest origin before < c.idleTime <;> simp [lively, h]
  | interrupt now => simp [lively]

/-- One of several calls comes too late if the last one does or one of the others. -/
theorem lapsed_concat_iff {call : IdleCall} :
    Lapsed c origin (before ++ [call]) ↔ Lapsed c origin before ∨ Overdue c origin before call := by
  constructor
  · rintro ⟨first, other, after, hsplit, hdue⟩
    rcases List.eq_nil_or_concat' after with rfl | ⟨more, final, rfl⟩
    · obtain ⟨rfl, hcall⟩ := List.append_inj' hsplit rfl
      obtain rfl := List.singleton_inj.mp hcall
      exact .inr hdue
    · rw [← List.cons_append, ← List.append_assoc] at hsplit
      obtain ⟨rfl, _⟩ := List.append_inj' hsplit rfl
      exact .inl ⟨first, other, more, rfl, hdue⟩
  · rintro (⟨first, other, after, rfl, hdue⟩ | hdue)
    · exact ⟨first, other, after ++ [call], by simp, hdue⟩
    · exact ⟨before, call, [], rfl, hdue⟩

/-- Without a call none comes too late. -/
theorem not_lapsed_nil : ¬ Lapsed c origin [] := by
  rintro ⟨before, call, after, hsplit, _⟩
  exact List.append_ne_nil_of_right_ne_nil before (List.cons_ne_nil call after) hsplit.symm

/-- A call that came too late did so whatever is called later. -/
theorem Lapsed.append (h : Lapsed c origin before) (more : List IdleCall) : Lapsed c origin (before ++ more) := by
  obtain ⟨first, call, after, rfl, hdue⟩ := h
  exact ⟨first, call, after ++ more, by simp, hdue⟩

/-- Whether two instants in a row are not too far from each other. -/
def Near (c : IdleConfig) (first second : Nat) : Prop :=
  second - first < c.idleTime + c.timeoutTime

/-- Instants in a row are near each other if all but the last are, and the last is near the one before it. -/
theorem isChain_concat_iff {instants : List Nat} {instant : Nat} :
    (origin :: (instants ++ [instant])).IsChain (Near c) ↔
      (origin :: instants).IsChain (Near c) ∧ Near c (instants.getLast?.getD origin) instant := by
  rw [← List.cons_append, List.isChain_append, List.getLast?_cons]
  simp

/-- **The interactions alone tell** whether a session has expired: it has if two of them in a row, or the last of
them and the call, are too far from each other. A query between two interactions comes too late only if the second
of them does. -/
theorem not_lapsed_iff {call : IdleCall} (ordered : InOrder origin (before ++ [call])) :
    ¬ Lapsed c origin (before ++ [call]) ↔
      (origin :: (interactions before ++ [call.instant])).IsChain (Near c) := by
  induction before using List.reverseRecOn generalizing call with
  | nil =>
    rw [lapsed_concat_iff, isChain_concat_iff]
    simp [not_lapsed_nil, Overdue, Near, latest, interactions]
  | append_singleton before previous ih =>
    have hearlier : InOrder origin (before ++ [previous]) :=
      ordered.sublist (List.Sublist.cons_cons origin ((List.sublist_append_left _ _).map instant))
    have hle : previous.instant ≤ call.instant := by
      have hpairs := ordered
      simp only [InOrder, List.map_append, List.map_cons, List.map_nil, List.append_assoc, List.singleton_append,
        List.pairwise_cons, List.pairwise_append] at hpairs
      exact hpairs.2.2.1.1 _ List.mem_cons_self
    have hbefore := ih hearlier
    rw [isChain_concat_iff] at hbefore
    rw [lapsed_concat_iff, not_or, hbefore]
    cases previous with
    | query now =>
      rw [interactions_concat_query, isChain_concat_iff, Overdue, latest_concat_query]
      rw [instant_query] at hle
      rw [and_assoc, instant_query, ← latest]
      refine and_congr_right fun _ => ?_
      simp only [Near]
      omega
    | interrupt now =>
      rw [interactions_concat_interrupt, isChain_concat_iff, isChain_concat_iff, Overdue, latest_concat_interrupt,
        List.getLast?_concat, Option.getD_some]
      exact and_congr_right fun _ => Nat.not_le

end

end IdleCall

namespace IdleTracker

open IdleCall

/-- The answer to a call, and the tracker after it. -/
def call (t : IdleTracker) : IdleCall → IdleState × IdleTracker
  | .query now => (t.state now, t.observe now)
  | .interrupt now => ((t.interrupt now).state now, t.interrupt now)

/-- The tracker after some calls. -/
def callAll (t : IdleTracker) (calls : List IdleCall) : IdleTracker :=
  calls.foldl (fun t call => (t.call call).2) t

/-- The answer to a call that is made after others. -/
def answer (c : IdleConfig) (origin : Nat) (before : List IdleCall) (call : IdleCall) : IdleState :=
  (((start c origin).callAll before).call call).1

section

variable {c : IdleConfig} {origin : Nat} {before : List IdleCall} {call : IdleCall}

/-! ## One call -/

/-- A call that finds the expiry leaves it with the tracker. -/
theorem call_of_expired {t : IdleTracker} (h : t.state call.instant = .expired) :
    (t.call call).1 = .expired ∧ (t.call call).2.expired = true := by
  cases call with
  | query now => exact ⟨h, expired_observe h⟩
  | interrupt now =>
    have hlatched := expired_interrupt h
    exact ⟨state_of_expired hlatched, hlatched⟩

/-- A call that comes too late finds the session expired. -/
theorem state_of_overdue (h : Overdue c origin before call) :
    (IdleTracker.mk c (latest origin before) false).state call.instant = .expired := by
  have hpos := c.idleTime_pos
  rw [Overdue, ← c.expiryTime_eq] at h
  have hlt := c.idleTime_lt_expiryTime
  exact state_eq_expired (by omega)

/-- A call in time is answered by the time since the latest interaction, and only an interaction changes the
tracker. -/
theorem call_of_not_overdue (h : ¬ Overdue c origin before call) :
    (IdleTracker.mk c (latest origin before) false).call call =
      (lively c origin before call, ⟨c, latest origin (before ++ [call]), false⟩) := by
  have hpos := c.idleTime_pos
  have hstill : call.instant < latest origin before + c.expiryTime := by
    rw [Overdue, ← c.expiryTime_eq] at h
    omega
  cases call with
  | query now =>
    rw [instant_query] at hstill
    rw [IdleTracker.call, observe_of_lt hstill, latest_concat_query, lively]
    by_cases hactive : now < latest origin before + c.idleTime
    · rw [state_eq_active hactive, if_pos (by omega)]
    · rw [state_eq_warning (Nat.le_of_not_lt hactive) hstill, if_neg (by omega)]
  | interrupt now =>
    rw [instant_interrupt] at hstill
    have hactive : (IdleTracker.mk c now false).state now = .active := state_eq_active (by omega)
    rw [IdleTracker.call, interrupt_of_lt hstill, hactive, latest_concat_interrupt, lively]

/-! ## All calls -/

/-- After some calls the tracker remembers the expiry if one came too late, or else it counts from the latest
interaction. -/
theorem callAll_start (c : IdleConfig) (origin : Nat) (calls : List IdleCall) :
    (Lapsed c origin calls → ((start c origin).callAll calls).expired = true) ∧
      (¬ Lapsed c origin calls → (start c origin).callAll calls = ⟨c, latest origin calls, false⟩) := by
  induction calls using List.reverseRecOn with
  | nil => exact ⟨fun h => absurd h not_lapsed_nil, fun _ => rfl⟩
  | append_singleton before call ih =>
    have hlast : (start c origin).callAll (before ++ [call]) = (((start c origin).callAll before).call call).2 := by
      simp [callAll]
    rw [hlast]
    by_cases hbefore : Lapsed c origin before
    · have hstate : ((start c origin).callAll before).state call.instant = .expired :=
        state_of_expired (ih.1 hbefore)
      exact ⟨fun _ => (call_of_expired hstate).2, fun h => absurd (hbefore.append [call]) h⟩
    · rw [ih.2 hbefore]
      constructor
      · intro h
        have hdue := (lapsed_concat_iff.mp h).resolve_left hbefore
        exact (call_of_expired (state_of_overdue hdue)).2
      · intro h
        have htime : ¬ Overdue c origin before call := fun hdue => h (lapsed_concat_iff.mpr (.inr hdue))
        rw [call_of_not_overdue htime]

/-- A call that comes too late, or after one that did, is told of the expiry. -/
theorem answer_of_lapsed (h : Lapsed c origin (before ++ [call])) : answer c origin before call = .expired := by
  rw [answer]
  by_cases hbefore : Lapsed c origin before
  · exact (call_of_expired (state_of_expired ((callAll_start c origin before).1 hbefore))).1
  · rw [(callAll_start c origin before).2 hbefore]
    exact (call_of_expired (state_of_overdue ((lapsed_concat_iff.mp h).resolve_left hbefore))).1

/-- A call is answered as one that finds the session alive, if it does not come too late and none before it did. -/
theorem answer_of_not_lapsed (h : ¬ Lapsed c origin (before ++ [call])) :
    answer c origin before call = lively c origin before call := by
  rw [lapsed_concat_iff, not_or] at h
  rw [answer, (callAll_start c origin before).2 h.1, call_of_not_overdue h.2]

/-- A call is told of the expiry if it comes too late or comes after one that did. -/
theorem answer_eq_expired_iff : answer c origin before call = .expired ↔ Lapsed c origin (before ++ [call]) := by
  constructor
  · intro hanswer
    by_contra h
    exact lively_ne_expired call ((answer_of_not_lapsed h).symm.trans hanswer)
  · exact answer_of_lapsed

/-- Calls with the same interactions before them are answered the same. -/
theorem answer_congr {other : List IdleCall} (ordered : InOrder origin (before ++ [call]))
    (ordered' : InOrder origin (other ++ [call])) (h : interactions before = interactions other) :
    answer c origin before call = answer c origin other call := by
  have hlapsed : Lapsed c origin (before ++ [call]) ↔ Lapsed c origin (other ++ [call]) := by
    rw [← not_iff_not, not_lapsed_iff ordered, not_lapsed_iff ordered', h]
  by_cases hbefore : Lapsed c origin (before ++ [call])
  · rw [answer_of_lapsed hbefore, answer_of_lapsed (hlapsed.mp hbefore)]
  · rw [answer_of_not_lapsed hbefore, answer_of_not_lapsed (mt hlapsed.mpr hbefore), lively_congr h]

end

/-- What it means that the answers of a tracker depend on the interactions only. -/
structure FollowsInteractions (c : IdleConfig) (origin : Nat) : Prop where
  alive : ∀ before call, ¬ Lapsed c origin (before ++ [call]) →
    answer c origin before call = lively c origin before call
  expired : ∀ before call, Lapsed c origin (before ++ [call]) → answer c origin before call = .expired
  /-- The interactions before a call are all that is needed of the past. -/
  past : ∀ before other call, InOrder origin (before ++ [call]) → InOrder origin (other ++ [call]) →
    interactions before = interactions other → answer c origin before call = answer c origin other call
  /-- Queries that are put in anywhere change no answer but their own. -/
  queries : ∀ before more call, before.Sublist more → interactions more = interactions before →
    InOrder origin (more ++ [call]) → answer c origin more call = answer c origin before call
  /-- The expiry is final, in whatever order of time the calls are made. -/
  final : ∀ before call later, answer c origin before call = .expired →
    (∀ next, answer c origin (before ++ call :: later) next = .expired) ∧
      ∀ now, ((start c origin).callAll (before ++ call :: later)).nextTransition? now = none

/-- **The tracker depends on interactions only.** -/
theorem depends_on_interactions_only (c : IdleConfig) (origin : Nat) : FollowsInteractions c origin where
  alive _ _ h := answer_of_not_lapsed h
  expired _ _ h := answer_of_lapsed h
  past _ _ _ ordered ordered' h := answer_congr ordered ordered' h
  queries before more call inside same ordered := by
    have hfewer : InOrder origin (before ++ [call]) :=
      ordered.sublist (List.Sublist.cons_cons origin ((inside.append_right [call]).map instant))
    exact answer_congr ordered hfewer same
  final before call later h := by
    have hlapsed : Lapsed c origin (before ++ call :: later) := by
      rw [List.append_cons]
      exact (answer_eq_expired_iff.mp h).append later
    have hexpired := (callAll_start c origin (before ++ call :: later)).1 hlapsed
    refine ⟨fun next => answer_of_lapsed (hlapsed.append [next]), fun now => ?_⟩
    exact nextTransition?_of_expired hexpired

/-- An interaction after an expiry that nobody has seen does not bring the session back. -/
example : answer ⟨600, 30, by decide, by decide⟩ 0 [.query 600000, .interrupt 630000] (.query 630001) = .expired := by
  decide

end IdleTracker

end AdminConsole
