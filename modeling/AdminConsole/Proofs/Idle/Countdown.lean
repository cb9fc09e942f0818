import AdminConsole.Idle.Watchdog
import AdminConsole.Proofs.Diagnostics.Reports

/-!
# One countdown of the watchdog

Between two interactions a watchdog counts from the instant of the first. The changes that this brings up to
an instant are told by that instant alone: the warning if it has come, and the expiry if it has come too.
Letting time pass publishes what the countdown has at the later instant and not at the earlier one, however
the time was cut into pieces, and an interaction begins another countdown. Each change is reported once.
-/

set_option autoImplicit false

namespace AdminConsole

namespace IdleConfig

variable (c : IdleConfig)

/-- A session does not become idle at once. -/
theorem idleTime_pos : 0 < c.idleTime := by
  have hpos := c.idle_pos
  simp only [idleTime]
  omega

/-- A session becomes idle before it expires. -/
theorem idleTime_lt_expiryTime : c.idleTime < c.expiryTime := by
  have hpos := c.timeout_pos
  rw [expiryTime_eq]
  simp only [timeoutTime]
  omega

end IdleConfig

namespace IdleTracker

section

variable {t : IdleTracker} {now : Nat}

/-- To look at a tracker that has not expired changes nothing. -/
theorem observe_of_unexpired (h : t.state now ≠ .expired) : t.observe now = t := by
  obtain ⟨c, origin, expired⟩ := t
  cases expired with
  | true => exact absurd rfl h
  | false => simp [observe, h]

/-- A tracker that is found expired remembers it. -/
theorem expired_observe (h : t.state now = .expired) : (t.observe now).expired = true := by
  simp [observe, h]

/-- An interaction that comes too late makes the tracker remember that it has expired. -/
theorem expired_interrupt (h : t.state now = .expired) : (t.interrupt now).expired = true := by
  simp [interrupt, expired_observe h]

/-- A tracker that remembers its expiry has expired at any instant. -/
theorem state_of_expired (h : t.expired = true) : t.state now = .expired := by
  simp [state, h]

/-- A tracker that remembers its expiry does not change again. -/
theorem nextTransition?_of_expired (h : t.expired = true) : t.nextTransition? now = none := by
  simp [nextTransition?, h]

end

variable {c : IdleConfig} {origin now : Nat}

/-- Before the idle time is over the session is active. -/
theorem state_eq_active (h : now < origin + c.idleTime) :
    (IdleTracker.mk c origin false).state now = .active := by
  have hpos := c.idleTime_pos
  have helapsed : now - origin < c.idleTime := by omega
  simp [state, helapsed]

/-- Between the idle time and the expiry there is a warning. -/
theorem state_eq_warning (hidle : origin + c.idleTime ≤ now) (h : now < origin + c.expiryTime) :
    (IdleTracker.mk c origin false).state now = .warning := by
  have hstill : ¬ now - origin < c.idleTime := by omega
  have helapsed : now - origin < c.expiryTime := by omega
  simp [state, hstill, helapsed]

/-- From the expiry on the session has expired. -/
theorem state_eq_expired (h : origin + c.expiryTime ≤ now) :
    (IdleTracker.mk c origin false).state now = .expired := by
  have hlt := c.idleTime_lt_expiryTime
  have hstill : ¬ now - origin < c.idleTime := by omega
  have hwarned : ¬ now - origin < c.expiryTime := by omega
  simp [state, hstill, hwarned]

/-- Before the expiry the session has not expired. -/
theorem state_ne_expired (h : now < origin + c.expiryTime) :
    (IdleTracker.mk c origin false).state now ≠ .expired := by
  by_cases hidle : now < origin + c.idleTime
  · simp [state_eq_active hidle]
  · simp [state_eq_warning (Nat.le_of_not_lt hidle) h]

/-- To look at a tracker before the expiry changes nothing. -/
theorem observe_of_lt (h : now < origin + c.expiryTime) :
    (IdleTracker.mk c origin false).observe now = ⟨c, origin, false⟩ :=
  observe_of_unexpired (state_ne_expired h)

/-- An interaction before the expiry starts the countdown anew. -/
theorem interrupt_of_lt (h : now < origin + c.expiryTime) :
    (IdleTracker.mk c origin false).interrupt now = ⟨c, now, false⟩ := by
  have hpos := c.idleTime_pos
  have hlt := c.idleTime_lt_expiryTime
  have hagain : (IdleTracker.mk c now false).observe now = ⟨c, now, false⟩ :=
    observe_of_lt (by omega)
  simp [interrupt, observe_of_lt h, hagain]

/-- After the expiry interactions are ignored, and the state stays. -/
theorem state_foldl_interrupt_of_expired (instants : List Nat) {finish : Nat}
    (hinstants : ∀ instant ∈ instants, origin + c.expiryTime ≤ instant)
    (hfinish : origin + c.expiryTime ≤ finish) (expired : Bool) :
    (instants.foldl interrupt ⟨c, origin, expired⟩).state finish = .expired := by
  induction instants generalizing expired with
  | nil =>
    cases expired with
    | false => exact state_eq_expired hfinish
    | true => rfl
  | cons instant instants ih =>
    have hinterrupt : (IdleTracker.mk c origin expired).interrupt instant = ⟨c, origin, true⟩ := by
      cases expired with
      | false =>
        have hexpired := state_eq_expired (hinstants instant List.mem_cons_self)
        simp [interrupt, observe, hexpired]
      | true => simp [interrupt, observe, state]
    rw [List.foldl_cons, hinterrupt]
    exact ih (fun other hother => hinstants other (List.mem_cons_of_mem instant hother)) true

/-- The next change of an active session is the warning. -/
theorem nextTransition?_of_active (h : now < origin + c.idleTime) :
    (IdleTracker.mk c origin false).nextTransition? now = representable? (origin + c.idleTime) := by
  by_cases hrepresentable : origin + c.idleTime < horizon
  · simp [nextTransition?, representable?, hrepresentable, h]
  · simp [nextTransition?, representable?, hrepresentable]

/-- The warning comes before the expiry, so its instant can be represented if that of the expiry can. -/
theorem nextTransition?_of_warning (hidle : origin + c.idleTime ≤ now) :
    (IdleTracker.mk c origin false).nextTransition? now = representable? (origin + c.expiryTime) := by
  have hsum := c.expiryTime_eq
  by_cases hrepresentable : origin + c.idleTime < horizon
  · have hpassed : ¬ now < origin + c.idleTime := Nat.not_lt.mpr hidle
    simp [nextTransition?, representable?, hrepresentable, hpassed, hsum, Nat.add_assoc]
  · have hlate : ¬ origin + c.expiryTime < horizon := by omega
    simp [nextTransition?, representable?, hrepresentable, hlate]

/-- No change is due before the next one of the countdown. -/
theorem lt_of_nextTransition? {limit instant : Nat}
    (hquiet : limit < origin + c.idleTime ∨ origin + c.idleTime ≤ now ∧ limit < origin + c.expiryTime)
    (h : (IdleTracker.mk c origin false).nextTransition? now = some instant) : limit < instant := by
  have hlt := c.idleTime_lt_expiryTime
  have hsum := c.expiryTime_eq
  simp only [nextTransition?, Bool.false_eq_true, if_false, Option.bind_eq_bind, Option.bind_eq_some_iff,
    representable?_eq_some_iff] at h
  obtain ⟨warningAt, ⟨rfl, _⟩, h⟩ := h
  split at h
  · obtain rfl := Option.some.inj h
    omega
  · obtain ⟨rfl, _⟩ := representable?_eq_some_iff.mp h
    omega

end IdleTracker

namespace IdleChange

/-- The report of a change, if it is reported. -/
def report? (c : IdleConfig) : IdleChange → Option Report
  | .to .active => some ⟨.debug, "Idle state ended", "user interaction"⟩
  | .to .warning =>
      let seconds := c.timeout
      some ⟨.warn, "Idle state reached", s!"session expires in {seconds}s"⟩
  | .to .expired => some ⟨.warn, "Session expired", "idle timeout elapsed"⟩
  | .closed => none

end IdleChange

namespace Watchdog

/-- The changes of a countdown from `origin`, up to an instant. -/
def countdown (c : IdleConfig) (origin limit : Nat) : List (Nat × IdleChange) :=
  (if origin + c.idleTime ≤ limit then [(origin + c.idleTime, .to .warning)] else []) ++
    if origin + c.expiryTime ≤ limit then
      [(origin + c.expiryTime, .to .expired), (origin + c.expiryTime, .closed)]
    else []

/-- Whether a watchdog came on by these changes, each of them reported once. -/
structure Published (c : IdleConfig) (w w' : Watched) (fresh : List (Nat × IdleChange)) : Prop where
  changes : w'.1.changes = w.1.changes ++ fresh
  reports : w'.2 = w.2.reportAll (fresh.filterMap fun change => change.2.report? c)

/-- Whether a watchdog counts from `origin` and stands where the countdown is at an instant. -/
structure Counting (c : IdleConfig) (origin now : Nat) (w : Watchdog) : Prop where
  running : w.running = true
  tracker : w.tracker = ⟨c, origin, false⟩
  since : origin ≤ now
  unexpired : now < origin + c.expiryTime
  published : w.published = (IdleTracker.mk c origin false).state now

/-- Whether a watchdog has ended with the expiry. -/
structure Expired (w : Watchdog) : Prop where
  stopped : w.running = false
  published : w.published = .expired

section

variable {c : IdleConfig} {origin now limit : Nat} {w : Watchdog} {d : Diagnostics}

/-- A watchdog that does nothing publishes nothing. -/
theorem Published.refl (c : IdleConfig) (w : Watched) : Published c w w [] :=
  ⟨by simp, rfl⟩

/-- A watchdog that comes on twice publishes what it has published each time. -/
theorem Published.trans {first second third : Watched} {fresh more : List (Nat × IdleChange)}
    (h : Published c first second fresh) (h' : Published c second third more) :
    Published c first third (fresh ++ more) where
  changes := by rw [h'.changes, h.changes, List.append_assoc]
  reports := by rw [h'.reports, h.reports, List.filterMap_append, Diagnostics.reportAll_append]

/-! ## The countdown -/

/-- Nothing changes in a countdown before the idle time is over. -/
theorem countdown_of_active (h : limit < origin + c.idleTime) : countdown c origin limit = [] := by
  have hlt := c.idleTime_lt_expiryTime
  have hwarning : ¬ origin + c.idleTime ≤ limit := by omega
  have hexpiry : ¬ origin + c.expiryTime ≤ limit := by omega
  simp [countdown, hwarning, hexpiry]

/-- Between the idle time and the expiry a countdown has come to the warning. -/
theorem countdown_of_warning (hidle : origin + c.idleTime ≤ limit)
    (h : limit < origin + c.expiryTime) :
    countdown c origin limit = [(origin + c.idleTime, .to .warning)] := by
  have hexpiry : ¬ origin + c.expiryTime ≤ limit := by omega
  simp [countdown, hidle, hexpiry]

/-- From the expiry on a countdown has come to the warning, to the expiry and to its end. -/
theorem countdown_of_expired (h : origin + c.expiryTime ≤ limit) :
    countdown c origin limit = [(origin + c.idleTime, .to .warning),
      (origin + c.expiryTime, .to .expired), (origin + c.expiryTime, .closed)] := by
  have hlt := c.idleTime_lt_expiryTime
  have hwarning : origin + c.idleTime ≤ limit := by omega
  simp [countdown, hwarning, h]

/-! ## Publishing -/

/-- What publishing at an instant adds to the changes. -/
def news (w : Watchdog) (now : Nat) : List (Nat × IdleChange) :=
  (if w.tracker.state now = w.published then [] else [(now, .to (w.tracker.state now))]) ++
    if w.tracker.state now = .expired then [(now, .closed)] else []

/-- A state is announced with its own report, if it has one. -/
theorem announce_eq_reportAll (c : IdleConfig) (state : IdleState) (d : Diagnostics) :
    announce c state d = d.reportAll (IdleChange.report? c (.to state)).toList := by
  cases state <;> rfl

/-- What a watchdog is after it has published, and the channel it has reported to. -/
theorem publish_eq (now : Nat) (w : Watched) : publish now w =
    ({ tracker := w.1.tracker.observe now
       published := w.1.tracker.state now
       running := w.1.running && w.1.tracker.state now != .expired
       changes := w.1.changes ++ w.1.news now },
      w.2.reportAll ((w.1.news now).filterMap fun change =>
        change.2.report? w.1.tracker.config)) := by
  obtain ⟨⟨tracker, published, running, changes⟩, d⟩ := w
  have hconfig : (tracker.observe now).config = tracker.config := rfl
  simp only [publish, news, hconfig, announce_eq_reportAll]
  generalize tracker.state now = state
  by_cases hsame : state = published
  · subst hsame
    cases state <;> simp [IdleChange.report?, Diagnostics.reportAll]
  · cases state <;> simp [hsame, IdleChange.report?]

/-- Publishing comes to the news of this instant, each change reported once. -/
theorem published_of_publish (now : Nat) (w : Watched) :
    Published w.1.tracker.config w (publish now w) (w.1.news now) := by
  rw [publish_eq]
  exact ⟨rfl, rfl⟩

/-- A watchdog that has published before the expiry counts on. -/
theorem counting_publish {w : Watched} (running : w.1.running = true)
    (tracker : w.1.tracker = ⟨c, origin, false⟩) (since : origin ≤ now)
    (unexpired : now < origin + c.expiryTime) : Counting c origin now (publish now w).1 where
  running := by
    have hstill := IdleTracker.state_ne_expired unexpired
    rw [publish_eq, running, tracker]
    simpa using hstill
  tracker := by rw [publish_eq, tracker, IdleTracker.observe_of_lt unexpired]
  since := since
  unexpired := unexpired
  published := by rw [publish_eq, tracker]

/-! ## Single wake-ups -/

/-- A watchdog goes on counting while no change is due. -/
theorem Counting.later (h : Counting c origin now w) (hle : now ≤ limit)
    (hquiet : limit < origin + c.idleTime ∨
      origin + c.idleTime ≤ now ∧ limit < origin + c.expiryTime) :
    Counting c origin limit w where
  running := h.running
  tracker := h.tracker
  since := Nat.le_trans h.since hle
  unexpired := by
    have hlt := c.idleTime_lt_expiryTime
    omega
  published := by
    rw [h.published]
    rcases hquiet with hactive | ⟨hwarned, hstill⟩
    · rw [IdleTracker.state_eq_active hactive, IdleTracker.state_eq_active (by omega)]
    · rw [IdleTracker.state_eq_warning hwarned h.unexpired,
        IdleTracker.state_eq_warning (by omega) hstill]

/-- A watchdog does not wake before a change is due. -/
theorem Counting.wake_of_quiet (h : Counting c origin now w)
    (hquiet : limit < origin + c.idleTime ∨
      origin + c.idleTime ≤ now ∧ limit < origin + c.expiryTime) :
    wake limit now (w, d) = (now, w, d) := by
  unfold wake
  split
  · rename_i instant hinstant
    simp only [wakeUp?, h.running, h.tracker, if_true] at hinstant
    have hlate := IdleTracker.lt_of_nextTransition? hquiet hinstant
    rw [if_neg (by omega)]
  · rfl

/-- A watchdog that counts from an interaction wakes when the idle time is over, and publishes the warning. -/
theorem Counting.wake_of_warning (h : Counting c origin now w) (hactive : now < origin + c.idleTime)
    (hdue : origin + c.idleTime ≤ limit) (hlimit : limit < IdleTracker.horizon) :
    ∃ w', wake limit now (w, d) = (origin + c.idleTime, w') ∧
      Counting c origin (origin + c.idleTime) w'.1 ∧
      Published c (w, d) w' [(origin + c.idleTime, .to .warning)] := by
  have hlt := c.idleTime_lt_expiryTime
  have hwake : w.wakeUp? now = some (origin + c.idleTime) := by
    simp only [wakeUp?, h.running, h.tracker, if_true]
    rw [IdleTracker.nextTransition?_of_active hactive, IdleTracker.representable?, if_pos (by omega)]
  have hstate : (IdleTracker.mk c origin false).state (origin + c.idleTime) = .warning :=
    IdleTracker.state_eq_warning (Nat.le_refl _) (by omega)
  have hpublished : w.published = .active := by
    rw [h.published, IdleTracker.state_eq_active hactive]
  have hnews : w.news (origin + c.idleTime) = [(origin + c.idleTime, .to .warning)] := by
    simp [news, h.tracker, hstate, hpublished]
  refine ⟨publish (origin + c.idleTime) (w, d), ?_, ?_, ?_⟩
  · simp only [wake, hwake, if_pos hdue]
  · apply counting_publish h.running h.tracker (Nat.le_add_right _ _)
    omega
  · have hspec := published_of_publish (origin + c.idleTime) (w, d)
    rw [h.tracker, hnews] at hspec
    exact hspec

/-- The expiry is published when it is due, and the watchdog ends. -/
theorem Counting.wake_of_expiry (h : Counting c origin now w) (hwarned : origin + c.idleTime ≤ now)
    (hdue : origin + c.expiryTime ≤ limit) (hlimit : limit < IdleTracker.horizon) :
    ∃ w', wake limit now (w, d) = (origin + c.expiryTime, w') ∧ Expired w'.1 ∧
      Published c (w, d) w'
        [(origin + c.expiryTime, .to .expired), (origin + c.expiryTime, .closed)] := by
  have hrepresentable : origin + c.expiryTime < IdleTracker.horizon := by omega
  have hwake : w.wakeUp? now = some (origin + c.expiryTime) := by
    simp only [wakeUp?, h.running, h.tracker, if_true]
    rw [IdleTracker.nextTransition?_of_warning hwarned]
    simp [IdleTracker.representable?, hrepresentable]
  have hstate : (IdleTracker.mk c origin false).state (origin + c.expiryTime) = .expired :=
    IdleTracker.state_eq_expired (Nat.le_refl _)
  have hpublished : w.published = .warning := by
    rw [h.published, IdleTracker.state_eq_warning hwarned h.unexpired]
  have hnews : w.news (origin + c.expiryTime) =
      [(origin + c.expiryTime, .to .expired), (origin + c.expiryTime, .closed)] := by
    simp [news, h.tracker, hstate, hpublished]
  refine ⟨publish (origin + c.expiryTime) (w, d), ?_, ⟨?_, ?_⟩, ?_⟩
  · simp only [wake, hwake, if_pos hdue]
  · simp [publish_eq, h.tracker, hstate]
  · rw [publish_eq, h.tracker, hstate]
  · have hspec := published_of_publish (origin + c.expiryTime) (w, d)
    rw [h.tracker, hnews] at hspec
    exact hspec

/-- A watchdog that has ended never wakes. -/
theorem Expired.wake_eq (h : Expired w) : wake limit now (w, d) = (now, w, d) := by
  simp [wake, wakeUp?, h.stopped]

/-! ## Passing time and interactions -/

/-- **What passing time publishes** is what the countdown has at the later instant and not at the earlier
one. -/
theorem Counting.exists_elapse (h : Counting c origin now w) (hle : now ≤ limit)
    (hlimit : limit < IdleTracker.horizon) (d : Diagnostics) :
    ∃ fresh, Published c (w, d) (elapse limit now (w, d)) fresh ∧
      countdown c origin now ++ fresh = countdown c origin limit ∧
      (limit < origin + c.expiryTime → Counting c origin limit (elapse limit now (w, d)).1) ∧
      (origin + c.expiryTime ≤ limit → Expired (elapse limit now (w, d)).1) := by
  have hlt := c.idleTime_lt_expiryTime
  have hunexpired := h.unexpired
  by_cases hquiet : limit < origin + c.idleTime ∨
      origin + c.idleTime ≤ now ∧ limit < origin + c.expiryTime
  · -- No change is due.
    have helapse : elapse limit now (w, d) = (w, d) := by
      simp only [elapse, h.wake_of_quiet hquiet]
    have hcountdown : countdown c origin now = countdown c origin limit := by
      rcases hquiet with hactive | ⟨hwarned, hstill⟩
      · rw [countdown_of_active hactive, countdown_of_active (by omega)]
      · rw [countdown_of_warning hwarned h.unexpired, countdown_of_warning (by omega) hstill]
    rw [helapse]
    refine ⟨[], Published.refl c (w, d), by rw [List.append_nil, hcountdown],
      fun _ => h.later hle hquiet, fun hdue => ?_⟩
    omega
  · by_cases hwarned : origin + c.idleTime ≤ now
    · -- Only the expiry is due.
      have hdue : origin + c.expiryTime ≤ limit := by omega
      obtain ⟨w', hwake, hexpired, hpublished⟩ :=
        h.wake_of_expiry (d := d) hwarned hdue hlimit
      have helapse : elapse limit now (w, d) = w' := by
        simp only [elapse, hwake]
        rw [hexpired.wake_eq (d := w'.2)]
      rw [helapse]
      refine ⟨_, hpublished, ?_, fun hstill => ?_, fun _ => hexpired⟩
      · rw [countdown_of_warning hwarned hunexpired, countdown_of_expired hdue]
        rfl
      · omega
    · have hactive : now < origin + c.idleTime := by omega
      have hidle : origin + c.idleTime ≤ limit := by omega
      obtain ⟨w', hwake, hcounting, hpublished⟩ :=
        h.wake_of_warning (d := d) hactive hidle hlimit
      by_cases hdue : origin + c.expiryTime ≤ limit
      · -- Both are due.
        obtain ⟨w'', hwake', hexpired, hpublished'⟩ :=
          hcounting.wake_of_expiry (d := w'.2) (Nat.le_refl _) hdue hlimit
        have helapse : elapse limit now (w, d) = w'' := by
          simp only [elapse, hwake, hwake']
        rw [helapse]
        refine ⟨_, hpublished.trans hpublished', ?_, fun hstill => ?_, fun _ => hexpired⟩
        · rw [countdown_of_active hactive, countdown_of_expired hdue]
          rfl
        · omega
      · -- Only the warning is due.
        have hstill : limit < origin + c.expiryTime := by omega
        have helapse : elapse limit now (w, d) = w' := by
          simp only [elapse, hwake]
          rw [hcounting.wake_of_quiet (d := w'.2) (.inr ⟨Nat.le_refl _, hstill⟩)]
        rw [helapse]
        refine ⟨_, hpublished, ?_, fun _ => ?_, fun hdue' => ?_⟩
        · rw [countdown_of_active hactive, countdown_of_warning hidle hstill]
          rfl
        · exact hcounting.later hidle (.inr ⟨Nat.le_refl _, hstill⟩)
        · omega

/-- **What an interaction publishes** is the end of a warning, and it begins another countdown. -/
theorem Counting.restart (h : Counting c origin now w) (d : Diagnostics) :
    Counting c now now (interrupt now (w, d)).1 ∧
      Published c (w, d) (interrupt now (w, d))
        (if origin + c.idleTime ≤ now then [(now, .to .active)] else []) := by
  have hpos := c.idleTime_pos
  have hlt := c.idleTime_lt_expiryTime
  have hinterrupt : interrupt now (w, d) = publish now ({ w with tracker := ⟨c, now, false⟩ }, d) := by
    simp only [interrupt, h.running, h.tracker, IdleTracker.interrupt_of_lt h.unexpired, if_true]
  have hstate : (IdleTracker.mk c now false).state now = .active :=
    IdleTracker.state_eq_active (by omega)
  have hnews : ({ w with tracker := ⟨c, now, false⟩ } : Watchdog).news now =
      if origin + c.idleTime ≤ now then [(now, .to .active)] else [] := by
    by_cases hwarned : origin + c.idleTime ≤ now
    · have hpublished : w.published = .warning := by
        rw [h.published, IdleTracker.state_eq_warning hwarned h.unexpired]
      simp [news, hstate, hpublished, hwarned]
    · have hpublished : w.published = .active := by
        rw [h.published, IdleTracker.state_eq_active (by omega)]
      simp [news, hstate, hpublished, hwarned]
  rw [hinterrupt, ← hnews]
  constructor
  · apply counting_publish h.running rfl (Nat.le_refl now)
    omega
  · have hspec := published_of_publish now ({ w with tracker := ⟨c, now, false⟩ }, d)
    exact ⟨hspec.changes, hspec.reports⟩

/-- Time changes nothing for a watchdog that has ended. -/
theorem Expired.elapse_eq (h : Expired w) : elapse limit now (w, d) = (w, d) := by
  simp [elapse, h.wake_eq]

/-- An interaction changes nothing for a watchdog that has ended. -/
theorem Expired.interrupt_eq (h : Expired w) : interrupt now (w, d) = (w, d) := by
  simp [interrupt, h.stopped]

end

end Watchdog

end AdminConsole
