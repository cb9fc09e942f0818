import AdminConsole.Session.Clock

/-!
# The uses of a session

All that is done with a session from outside, and the few things that a session does in each of them: it
begins and polls jobs, forgets them or their names, moves its clock, and lets the watchdog look. A relation
between sessions that each of these keeps, and that can be put together, is kept by every use. Main statement:
it holds between a session and what it comes to after any number of uses.
-/

set_option autoImplicit false

namespace AdminConsole

/-- What can be done with a session. -/
inductive SessionUse where
  | launch (name : JobName) (request : JobRequest)
  | await (name : JobName)
  | check (name : JobName)
  | drop (name : JobName)
  | sleep (duration : Nat)
  | interact
  /-- The services are worked on from outside. -/
  | serve (services : GuardServices)

namespace Session

/-- The session after one use. -/
def apply (s : Session) : SessionUse → Session
  | .launch name request => s.launch name request
  | .await name => (s.await name).2
  | .check name => (s.check name).2
  | .drop name => s.drop name
  | .sleep duration => s.sleep duration
  | .interact => s.interact
  | .serve services => { s with navigator := { s.navigator with services } }

/-- The session after a job has begun, which is not polled yet. -/
def withJob (s : Session) (name : JobName) (request : JobRequest) : Session :=
  { (s.beginJob request).2 with
    jobs := (s.beginJob request).2.jobs ++ [⟨name, (s.beginJob request).1⟩] }

/-- What a relation has to satisfy to hold after every use. -/
structure Kept (R : Session → Session → Prop) : Prop where
  refl : ∀ s, R s s
  trans : ∀ {s middle after}, R s middle → R middle after → R s after
  detach : ∀ s name, R s (s.detach name)
  withJob : ∀ s name request, R s (s.withJob name request)
  poll : ∀ s, R s s.poll
  drop : ∀ s name, R s (s.drop name)
  clock : ∀ s now, R s { s with now }
  watchdog : ∀ s change, R s (s.changeWatchdog change)
  serve : ∀ s services, R s { s with navigator := { s.navigator with services } }

namespace Kept

variable {R : Session → Session → Prop}

/-- What every use keeps is kept when a job is launched. -/
theorem launch (h : Kept R) (s : Session) (name : JobName) (request : JobRequest) :
    R s (s.launch name request) :=
  h.trans (h.trans (h.detach s name) (h.withJob (s.detach name) name request)) (h.poll _)

/-- What every use keeps is kept when an instant arrives. -/
theorem arrive (h : Kept R) (s : Session) (instant : Nat) : R s (s.arrive instant) :=
  h.trans (h.trans (h.watchdog s fun w => (Watchdog.wake instant s.now w).2)
    (h.clock _ instant)) (h.poll _)

/-- What every use keeps is kept while the session runs up to an instant, however many steps that takes. -/
theorem runUntil (h : Kept R) (limit steps : Nat) (s : Session) :
    R s (Session.runUntil limit steps s) := by
  induction steps generalizing s with
  | zero => exact h.refl s
  | succ left ih =>
    unfold Session.runUntil
    split
    · rename_i instant _
      split
      · exact h.trans (h.arrive s instant) (ih _)
      · exact h.refl s
    · exact h.refl s

/-- What every use keeps is kept while the session sleeps. -/
theorem sleep (h : Kept R) (s : Session) (duration : Nat) : R s (s.sleep duration) :=
  h.trans (h.runUntil (s.now + duration) s.eventBound s) (h.arrive _ _)

/-- What every use keeps is kept while the session runs to the end of a job, however many steps that takes. -/
theorem runUntilEnd (h : Kept R) (name : JobName) (steps : Nat) (s : Session) :
    R s (Session.runUntilEnd name steps s) := by
  induction steps generalizing s with
  | zero => exact h.refl s
  | succ left ih =>
    unfold Session.runUntilEnd
    split
    · exact h.refl s
    · split
      · rename_i instant _
        exact h.trans (h.arrive s instant) (ih _)
      · exact h.refl s

/-- What every use keeps is kept when a job is awaited. -/
theorem await (h : Kept R) (s : Session) (name : JobName) : R s (s.await name).2 :=
  h.trans (h.runUntilEnd name s.eventBound s) (h.drop _ name)

/-- What every use keeps is kept when a job is checked. -/
theorem check (h : Kept R) (s : Session) (name : JobName) : R s (s.check name).2 := by
  unfold Session.check
  split
  · exact h.drop s name
  · exact h.refl s

/-- What every use keeps is kept in each of them. -/
theorem apply (h : Kept R) (s : Session) (use : SessionUse) : R s (s.apply use) := by
  cases use with
  | launch name request => exact h.launch s name request
  | await name => exact h.await s name
  | check name => exact h.check s name
  | drop name => exact h.drop s name
  | sleep duration => exact h.sleep s duration
  | interact => exact h.watchdog s (Watchdog.interrupt s.now)
  | serve services => exact h.serve s services

/-- **What the parts of all uses keep is kept by any number of uses.** -/
theorem uses (h : Kept R) (uses : List SessionUse) (s : Session) :
    R s (uses.foldl Session.apply s) := by
  induction uses generalizing s with
  | nil => exact h.refl s
  | cons use uses ih => exact h.trans (h.apply s use) (ih _)

end Kept

end Session

end AdminConsole
