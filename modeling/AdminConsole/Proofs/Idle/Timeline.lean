import AdminConsole.Proofs.Idle.Countdown
import Mathlib.Data.List.Chain

/-!
# The idle timeline

A run of the watchdog lets time pass and interrupts it, in any order. The timeline of a run is told by the
instants of its interactions and by its end alone: from the start and from each interaction a countdown goes
on up to the next one, an interaction in warning makes the session active again, and after the expiry nothing
comes any more. Main statement: what a watchdog publishes in a run is the timeline, its published state is
that of a tracker with the same interactions, and each change is reported once.

The induction over a run carries a watchdog that counts (`Counting`) together with what its countdown has
brought so far. What is published from there on is what the timeline has more than that.
-/

set_option autoImplicit false

namespace AdminConsole

/-- What is done to a watchdog: time passes, or the user interacts. -/
inductive IdleStep where
  | sleep (duration : Nat)
  | interrupt
  deriving DecidableEq, Repr

namespace IdleStep

/-- The instants of the interactions in a run that goes on from an instant. -/
def instants (now : Nat) : List IdleStep → List Nat
  | [] => []
  | .sleep duration :: steps => instants (now + duration) steps
  | .interrupt :: steps => now :: instants now steps

/-- The instant at which a run ends. -/
def finish (now : Nat) : List IdleStep → Nat
  | [] => now
  | .sleep duration :: steps => finish (now + duration) steps
  | .interrupt :: steps => finish now steps

/-- A run does not end before it begins. -/
theorem le_finish (now : Nat) (steps : List IdleStep) : now ≤ finish now steps := by
  induction steps generalizing now with
  | nil => exact Nat.le_refl now
  | cons step steps ih =>
    cases step with
    | sleep duration => exact Nat.le_trans (Nat.le_add_right now duration) (ih (now + duration))
    | interrupt => exact ih now

/-- No step of a run happens before the run begins. -/
theorem le_of_mem_instants {now instant : Nat} {steps : List IdleStep}
    (h : instant ∈ instants now steps) : now ≤ instant := by
  induction steps generalizing now with
  | nil => cases h
  | cons step steps ih =>
    cases step with
    | sleep duration =>
      have hle := ih h
      omega
    | interrupt =>
      rcases List.mem_cons.mp h with rfl | h
      · exact Nat.le_refl _
      · exact ih h

end IdleStep

namespace IdleState

/-- The changes of state that there are. -/
def Follows : IdleState → IdleState → Prop
  | .active, next => next = .warning
  | .warning, next => next = .active ∨ next = .expired
  | .expired, _ => False

end IdleState

namespace Watchdog

open IdleStep

/-- The states that a subscriber sees in these changes. -/
def shown (changes : List (Nat × IdleChange)) : List IdleState :=
  changes.filterMap fun change =>
    match change.2 with
    | .to state => some state
    | .closed => none

/-- The changes that come from the start of a countdown to the end of a run, with the instants of the
interactions in between. -/
def timeline (c : IdleConfig) (origin : Nat) : (instants : List Nat) → (finish : Nat) →
    List (Nat × IdleChange)
  | [], finish => countdown c origin finish
  | next :: later, finish =>
      if origin + c.expiryTime ≤ next then countdown c origin next
      else
        countdown c origin next ++ (if origin + c.idleTime ≤ next then [(next, .to .active)] else [])
          ++ timeline c next later finish

/-- A watchdog at an instant, after one step. -/
def step (s : Nat × Watched) : IdleStep → Nat × Watched
  | .sleep duration => (s.1 + duration, elapse (s.1 + duration) s.1 s.2)
  | .interrupt => (s.1, interrupt s.1 s.2)

/-- A watchdog at an instant, after some steps. -/
def run (s : Nat × Watched) (steps : List IdleStep) : Nat × Watched :=
  steps.foldl step s

section

variable {c : IdleConfig} {origin now : Nat} {w : Watchdog} {d : Diagnostics}

/-! ## The timeline alone -/

/-- After the expiry nothing comes any more. -/
theorem timeline_of_expired {instants : List Nat} {finish limit : Nat}
    (hlimit : origin + c.expiryTime ≤ limit) (hinstants : ∀ instant ∈ instants, limit ≤ instant)
    (hfinish : limit ≤ finish) :
    timeline c origin instants finish = countdown c origin limit := by
  cases instants with
  | nil =>
    rw [timeline, countdown_of_expired (by omega), countdown_of_expired hlimit]
  | cons next later =>
    have hnext := hinstants next List.mem_cons_self
    rw [timeline, if_pos (by omega), countdown_of_expired (by omega), countdown_of_expired hlimit]

/-- Of one countdown a subscriber sees the warning and then the expiry. -/
theorem isChain_countdown (c : IdleConfig) (origin limit : Nat) :
    (.active :: shown (countdown c origin limit)).IsChain IdleState.Follows := by
  by_cases hidle : limit < origin + c.idleTime
  · simp [countdown_of_active hidle, shown]
  · by_cases hstill : limit < origin + c.expiryTime
    · simp [countdown_of_warning (Nat.le_of_not_lt hidle) hstill, shown, IdleState.Follows]
    · simp [countdown_of_expired (Nat.le_of_not_lt hstill), shown, IdleState.Follows]

/-- **A subscriber sees only** the change to warning, the one back from it, and the one from it to the
expiry. -/
theorem isChain_timeline (c : IdleConfig) (origin : Nat) (instants : List Nat) (finish : Nat) :
    (.active :: shown (timeline c origin instants finish)).IsChain IdleState.Follows := by
  induction instants generalizing origin with
  | nil => exact isChain_countdown c origin finish
  | cons next later ih =>
    unfold timeline
    split
    · exact isChain_countdown c origin next
    · rename_i hstill
      have hrest := ih next
      by_cases hidle : origin + c.idleTime ≤ next
      · -- The interaction ends a warning.
        have hback : shown (countdown c origin next ++
            (if origin + c.idleTime ≤ next then [(next, .to .active)] else []) ++
            timeline c next later finish) =
              .warning :: .active :: shown (timeline c next later finish) := by
          rw [countdown_of_warning hidle (by omega), if_pos hidle]
          rfl
        rw [hback, List.isChain_cons_cons, List.isChain_cons_cons]
        exact ⟨rfl, .inl rfl, hrest⟩
      · rw [countdown_of_active (by omega), if_neg hidle]
        exact hrest

/-! ## Runs -/

/-- A run of a watchdog that has ended changes nothing but the time. -/
theorem Expired.run_eq (h : Expired w) (steps : List IdleStep) :
    run (now, w, d) steps = (finish now steps, w, d) := by
  induction steps generalizing now with
  | nil => rfl
  | cons first steps ih =>
    cases first with
    | sleep duration =>
      rw [run, List.foldl_cons, step, h.elapse_eq]
      exact ih
    | interrupt =>
      rw [run, List.foldl_cons, step, h.interrupt_eq]
      exact ih

/-- What a watchdog publishes from an instant of its countdown on: together with what the countdown has
brought before, that is the timeline. -/
theorem Counting.exists_run (h : Counting c origin now w) (d : Diagnostics) (steps : List IdleStep)
    (hfinish : finish now steps < IdleTracker.horizon) :
    ∃ fresh, Published c (w, d) (run (now, w, d) steps).2 fresh ∧
      countdown c origin now ++ fresh = timeline c origin (instants now steps) (finish now steps) ∧
      (run (now, w, d) steps).1 = finish now steps ∧
      (run (now, w, d) steps).2.1.published =
        ((instants now steps).foldl IdleTracker.interrupt ⟨c, origin, false⟩).state
          (finish now steps) ∧
      ((run (now, w, d) steps).2.1.published = .expired → Expired (run (now, w, d) steps).2.1) := by
  induction steps generalizing origin now w d with
  | nil =>
    refine ⟨[], Published.refl c (w, d), by simp [timeline, instants, finish], rfl, h.published, ?_⟩
    intro hexpired
    exact absurd (h.published.symm.trans hexpired) (IdleTracker.state_ne_expired h.unexpired)
  | cons first steps ih =>
    cases first with
    | sleep duration =>
      have hend := le_finish (now + duration) steps
      have hlimit : now + duration < IdleTracker.horizon := Nat.lt_of_le_of_lt hend hfinish
      obtain ⟨passed, hpublished, hcountdown, hcounting, hexpired⟩ :=
        h.exists_elapse (Nat.le_add_right now duration) hlimit d
      have hrun : run (now, w, d) (.sleep duration :: steps) =
          run (now + duration, elapse (now + duration) now (w, d)) steps := rfl
      rw [hrun]
      by_cases hstill : now + duration < origin + c.expiryTime
      · obtain ⟨fresh, hmore, htimeline, hrest⟩ :=
          ih (hcounting hstill) (elapse (now + duration) now (w, d)).2 hfinish
        refine ⟨passed ++ fresh, hpublished.trans hmore, ?_, hrest⟩
        rw [← List.append_assoc, hcountdown]
        exact htimeline
      · -- The session expires, and the rest of the run brings nothing.
        have hdue : origin + c.expiryTime ≤ now + duration := Nat.le_of_not_lt hstill
        have hstopped := hexpired hdue
        have hlater : ∀ instant ∈ instants (now + duration) steps, now + duration ≤ instant :=
          fun instant hmem => le_of_mem_instants hmem
        rw [hstopped.run_eq (d := (elapse (now + duration) now (w, d)).2)]
        refine ⟨passed, hpublished, ?_, rfl, ?_, fun _ => hstopped⟩
        · rw [hcountdown]
          exact (timeline_of_expired hdue hlater hend).symm
        · rw [hstopped.published]
          refine (IdleTracker.state_foldl_interrupt_of_expired _ ?_ ?_ false).symm
          · exact fun instant hmem => Nat.le_trans hdue (hlater instant hmem)
          · exact Nat.le_trans hdue hend
    | interrupt =>
      obtain ⟨hcounting, hpublished⟩ := h.restart d
      have hrun : run (now, w, d) (.interrupt :: steps) =
          run (now, interrupt now (w, d)) steps := rfl
      obtain ⟨fresh, hmore, htimeline, hinstant, hstate, hexpired⟩ :=
        ih hcounting (interrupt now (w, d)).2 hfinish
      have hbegun : countdown c now now = [] := by
        have hpos := c.idleTime_pos
        exact countdown_of_active (by omega)
      have hunexpired := h.unexpired
      rw [hrun]
      refine ⟨_ ++ fresh, hpublished.trans hmore, ?_, hinstant, ?_, hexpired⟩
      · rw [hbegun, List.nil_append] at htimeline
        have hstill : ¬ origin + c.expiryTime ≤ now := by omega
        rw [← List.append_assoc, htimeline]
        simp only [instants, finish, timeline, if_neg hstill]
      · rw [instants, List.foldl_cons, IdleTracker.interrupt_of_lt hunexpired]
        exact hstate

end

/-- What it means that a watchdog, at the end of a run from `origin`, went along the timeline. -/
structure Refines (c : IdleConfig) (origin : Nat) (d : Diagnostics) (steps : List IdleStep)
    (after : Nat × Watched) : Prop where
  instant : after.1 = finish origin steps
  changes : after.2.1.changes = timeline c origin (instants origin steps) (finish origin steps)
  /-- The published state is what a tracker with the same interactions reports. -/
  published : after.2.1.published =
    ((instants origin steps).foldl IdleTracker.interrupt (IdleTracker.start c origin)).state
      (finish origin steps)
  moves : (.active :: shown after.2.1.changes).IsChain IdleState.Follows
  /-- Each change was reported once, and nothing else was. -/
  reports : after.2.2 = d.reportAll (after.2.1.changes.filterMap fun change => change.2.report? c)
  records : after.2.2.records = d.records ++
    (after.2.1.changes.filterMap fun change => change.2.report? c).filter
      fun report => d.enabled report.severity && d.installed
  /-- After the expiry nothing has any effect. -/
  ended : after.2.1.published = .expired → ∀ more, (run after more).2 = after.2

/-- **The watchdog refines the idle timeline**, as long as the instants can be represented. -/
theorem run_refines_timeline (c : IdleConfig) (origin : Nat) (d : Diagnostics)
    (steps : List IdleStep) (representable : finish origin steps < IdleTracker.horizon) :
    Refines c origin d steps (run (origin, start c origin, d) steps) := by
  have hpos := c.idleTime_pos
  have hlt := c.idleTime_lt_expiryTime
  have hstart : Counting c origin origin (start c origin) := by
    refine ⟨rfl, rfl, Nat.le_refl _, by omega, ?_⟩
    exact (IdleTracker.state_eq_active (by omega)).symm
  obtain ⟨fresh, hpublished, htimeline, hinstant, hstate, hexpired⟩ :=
    hstart.exists_run d steps representable
  have hbegun : countdown c origin origin = [] := countdown_of_active (by omega)
  have hchanges : (run (origin, start c origin, d) steps).2.1.changes = fresh :=
    hpublished.changes
  rw [hbegun, List.nil_append] at htimeline
  have hreports := hpublished.reports
  rw [← hchanges] at hreports
  refine ⟨hinstant, hchanges.trans htimeline, hstate, ?_, hreports, ?_, ?_⟩
  · rw [hchanges, htimeline]
    exact isChain_timeline c origin _ _
  · rw [hreports]
    exact (d.reportAll_spec _).2.2
  · intro h more
    generalize run (origin, start c origin, d) steps = after at hexpired h
    obtain ⟨now, w, channel⟩ := after
    rw [(hexpired h).run_eq]

/-- A session that is interrupted in warning, and expires on the second try. -/
theorem run_refines_timeline_twice :
    let c : IdleConfig := ⟨600, 30, by decide, by decide⟩
    let steps : List IdleStep :=
      [.sleep 500000, .interrupt, .sleep 610000, .interrupt, .sleep 700000, .interrupt]
    finish 0 steps < IdleTracker.horizon ∧
      timeline c 0 (instants 0 steps) (finish 0 steps) = [(1100000, .to .warning),
        (1110000, .to .active), (1710000, .to .warning), (1740000, .to .expired),
        (1740000, .closed)] ∧
      Refines c 0 (Diagnostics.withSink 1) steps
        (run (0, start c 0, Diagnostics.withSink 1) steps) := by
  intro c steps
  have representable : finish 0 steps < IdleTracker.horizon := by decide
  exact ⟨representable, by decide, run_refines_timeline c 0 _ steps representable⟩

end Watchdog

end AdminConsole
