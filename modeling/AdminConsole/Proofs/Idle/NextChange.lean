import AdminConsole.Proofs.Idle.Countdown

/-!
# The next change of a tracker

The state of a tracker is told by a difference of instants and a sum of durations that are cut off where they
cannot be represented, its next change by sums of an instant and a duration that fail there. Main statement: the
two agree at every instant, also when the clock went backwards. A tracker that has just been asked for its state
gives the instant up to which that state lasts and at which the next one begins, and it gives none only after the
expiry and where that instant cannot be represented. So whoever sleeps until then makes progress, and sleeps
through no change.
-/

set_option autoImplicit false

namespace AdminConsole

/-- The state that comes next while nobody interacts. -/
def IdleState.next? : IdleState → Option IdleState
  | .active => some .warning
  | .warning => some .expired
  | .expired => none

namespace IdleTracker

/-- Whether the state of a tracker lasts from one instant up to another, at which the next one begins. -/
structure ChangesAt (t : IdleTracker) (now instant : Nat) : Prop where
  later : now < instant
  lasts : ∀ between, now ≤ between → between < instant → t.state between = t.state now
  begins : (t.state now).next? = some (t.state instant)

section

variable {t : IdleTracker} {c : IdleConfig} {origin now : Nat}

/-- No state is followed by itself, so a state cannot last beyond the instant at which the next one begins. -/
theorem ChangesAt.le {first second : Nat} (h : t.ChangesAt now first) (h' : t.ChangesAt now second) :
    second ≤ first := by
  refine Nat.le_of_not_lt fun hlt => ?_
  have hsame := h'.lasts first (Nat.le_of_lt h.later) hlt
  have hbegins := h.begins
  rw [hsame] at hbegins
  cases hstate : t.state now <;> simp [hstate, IdleState.next?] at hbegins

/-- A tracker has one next change at most. -/
theorem ChangesAt.unique {first second : Nat} (h : t.ChangesAt now first) (h' : t.ChangesAt now second) :
    first = second :=
  Nat.le_antisymm (h'.le h) (h.le h')

/-- A session that has expired does not change again. -/
theorem not_changesAt_of_expired {instant : Nat} (h : t.state now = .expired) : ¬ t.ChangesAt now instant := by
  intro hchange
  have hbegins := hchange.begins
  rw [h] at hbegins
  cases hbegins

/-! ## Where the state changes -/

/-- An active session changes when the idle time is over. -/
theorem changesAt_of_active (h : now < origin + c.idleTime) :
    (IdleTracker.mk c origin false).ChangesAt now (origin + c.idleTime) where
  later := h
  lasts between _ hbetween := by rw [state_eq_active hbetween, state_eq_active h]
  begins := by
    have hlt := c.idleTime_lt_expiryTime
    have hwarning : (IdleTracker.mk c origin false).state (origin + c.idleTime) = .warning :=
      state_eq_warning (Nat.le_refl _) (by omega)
    rw [state_eq_active h, hwarning]
    rfl

/-- After the warning a session changes when it expires. -/
theorem changesAt_of_warning (hidle : origin + c.idleTime ≤ now) (h : now < origin + c.expiryTime) :
    (IdleTracker.mk c origin false).ChangesAt now (origin + c.expiryTime) where
  later := h
  lasts between hnow hbetween := by
    rw [state_eq_warning (Nat.le_trans hidle hnow) hbetween, state_eq_warning hidle h]
  begins := by
    have hexpired : (IdleTracker.mk c origin false).state (origin + c.expiryTime) = .expired :=
      state_eq_expired (Nat.le_refl _)
    rw [state_eq_warning hidle h, hexpired]
    rfl

/-- A tracker that has not expired changes at one instant, and gives that instant if it can be represented. -/
theorem exists_changesAt (h : t.state now ≠ .expired) :
    ∃ instant, t.ChangesAt now instant ∧ t.nextTransition? now = representable? instant := by
  obtain ⟨c, origin, expired⟩ := t
  cases expired with
  | true => exact absurd rfl h
  | false =>
    by_cases hactive : now < origin + c.idleTime
    · exact ⟨_, changesAt_of_active hactive, nextTransition?_of_active hactive⟩
    · have hidle : origin + c.idleTime ≤ now := Nat.le_of_not_lt hactive
      have hunexpired : now < origin + c.expiryTime :=
        Nat.lt_of_not_le fun hdue => h (state_eq_expired hdue)
      exact ⟨_, changesAt_of_warning hidle hunexpired, nextTransition?_of_warning hidle⟩

end

/-- What it means that a tracker which has just been asked for its state knows when that changes. -/
structure KnowsNextChange (t : IdleTracker) (now : Nat) : Prop where
  /-- The state that was answered is the one that it is in. -/
  answered : (t.observe now).state now = t.state now
  ended : t.state now = .expired → (t.observe now).nextTransition? now = none
  exact : ∀ instant, (t.observe now).nextTransition? now = some instant ↔
    (t.observe now).ChangesAt now instant ∧ instant < horizon
  /-- Without an instant there is a change all the same, unless the session has expired. -/
  beyond : t.state now ≠ .expired → (t.observe now).nextTransition? now = none →
    ∃ instant, (t.observe now).ChangesAt now instant ∧ horizon ≤ instant
  /-- The sum of the two countdowns is not cut off. -/
  unrounded : t.config.expiryTime = t.config.idleTime + t.config.timeoutTime

/-- **The next change is exact**, whatever was done to the tracker before. -/
theorem knows_next_change (t : IdleTracker) (now : Nat) : t.KnowsNextChange now := by
  by_cases hexpired : t.state now = .expired
  · have hlatched := expired_observe hexpired
    have hstate : (t.observe now).state now = .expired := state_of_expired hlatched
    have hnone : (t.observe now).nextTransition? now = none := nextTransition?_of_expired hlatched
    refine ⟨hstate.trans hexpired.symm, fun _ => hnone, fun instant => ?_, fun h => absurd hexpired h,
      t.config.expiryTime_eq⟩
    rw [hnone]
    exact iff_of_false (fun h => by cases h) fun h => not_changesAt_of_expired hstate h.1
  · obtain ⟨change, hchange, hnext⟩ := exists_changesAt hexpired
    have hsame := observe_of_unexpired hexpired
    refine ⟨by rw [hsame], fun h => absurd h hexpired, fun instant => ?_, fun _ hnone => ?_,
      t.config.expiryTime_eq⟩
    · rw [hsame, hnext, representable?_eq_some_iff]
      constructor
      · rintro ⟨rfl, hearly⟩
        exact ⟨hchange, hearly⟩
      · rintro ⟨hother, hearly⟩
        rw [hchange.unique hother]
        exact ⟨rfl, hearly⟩
    · rw [hsame, hnext, representable?_eq_none_iff] at hnone
      rw [hsame]
      exact ⟨change, hchange, hnone⟩

end IdleTracker

end AdminConsole
