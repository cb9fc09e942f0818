import AdminConsole.Proofs.Bundle.Deliveries
import AdminConsole.Proofs.Bundle.SingleFlight

/-!
# What calls return

A call is for one bundle from its beginning to its end, and it returns without an error only if that bundle is
marked as loaded. Calls that were made together come to what the list of them comes to; one that was dropped
comes to nothing. Main statement: where calls for some bundles came to a success together, each of the bundles
is loaded and was fetched as a whole.
-/

set_option autoImplicit false

namespace AdminConsole

namespace Load

/-- The bundle that the call is for. -/
def name : Load → String
  | .requested name => name
  | .waiting name _ => name
  | .ended name _ => name

end Load

namespace Loader

/-- A call that enters stays one for its bundle. -/
theorem name_enter (l : Loader) (name : String) : (l.enter name).1.name = name := by
  rcases l.enter_cases name with ⟨_, ⟨result, hended⟩ | ⟨run, hwaiting, _⟩⟩ | ⟨_, _, _, hbegin⟩
  · rw [hended]
    rfl
  · rw [hwaiting]
    rfl
  · rw [hbegin]
    rfl

/-- A call that takes notice of its run stays one for its bundle. -/
theorem name_leave (l : Loader) (name : String) (run : Nat) :
    (l.leave name run).1.name = name := by
  unfold leave
  split <;> rfl

/-- A call that enters returns without an error only if its bundle is loaded. -/
theorem isLoaded_of_enter {l : Loader} {name other : String}
    (h : (l.enter name).1 = .ended other (.ok ())) : l.isLoaded other = true := by
  unfold enter at h
  cases hentry : l.entries.get? name with
  | none =>
    rw [hentry] at h
    cases hregistered : l.registry.get? name <;> simp [hregistered] at h
  | some entry =>
    rw [hentry] at h
    cases entry with
    | loading run => cases h
    | loaded =>
      cases h
      exact isLoaded_iff.mpr hentry

end Loader

namespace LoadTraffic

/-- How far the call at a place has come. -/
def statusAt (s : LoadTraffic) (place : Nat) : Progress BundleError :=
  match s.callAt place with
  | some call => call.load.status
  | none => .pending

/-- How far the calls at some places have come together. -/
def statusOf (s : LoadTraffic) (places : List Nat) : Progress BundleError :=
  Join.outcome (JoinMode.ofCount places.length) s.statusAt places

/-- Whether the call at a place is for a bundle, unless it was dropped. -/
def Asks (s : LoadTraffic) (place : Nat) (name : String) : Prop :=
  place < s.calls.length ∧ ∀ call, s.callAt place = some call → call.load.name = name

/-- What a call asks for stays the same when another call changes, or when it changes itself and keeps its bundle. -/
theorem Asks.put {s : LoadTraffic} {place : Nat} {name : String} (h : s.Asks place name)
    (other : Nat) (call : Option LoadCall) (loader : Loader)
    (own : other = place → ∀ after, call = some after → after.load.name = name) :
    (s.put other call loader).Asks place name := by
  obtain ⟨hplace, hname⟩ := h
  refine ⟨by simpa [LoadTraffic.put] using hplace, ?_⟩
  intro after hafter
  by_cases hsame : other = place
  · subst hsame
    rw [callAt_put_self hplace] at hafter
    exact own rfl after hafter
  · rw [callAt_put_of_ne hsame] at hafter
    exact hname after hafter

/-- **A call stays one for its bundle**, whatever happens. -/
theorem asks_moved {s s' : LoadTraffic} {place : Nat} {name : String} (h : s.Asks place name)
    (move : Moved s s') : s'.Asks place name := by
  cases move with
  | same => exact h
  | called other =>
    obtain ⟨hplace, hname⟩ := h
    refine ⟨by simp only [step, List.length_append]; omega, ?_⟩
    rw [callAt_call, if_neg (Nat.ne_of_lt hplace)]
    exact hname
  | entered other name' inside call =>
    apply h.put
    rintro rfl after hafter
    have hname : name' = name := h.2 _ call
    cases hafter
    rw [← hname]
    exact s.loader.name_enter name'
  | polled other now name' run inside call =>
    apply h.put
    rintro rfl after hafter
    have hname : name' = name := h.2 _ call
    cases hafter
    exact hname
  | left other name' run call =>
    apply h.put
    rintro rfl after hafter
    have hname : name' = name := h.2 _ call
    cases hafter
    rw [← hname]
    exact s.loader.name_leave name' run
  | dropped other load call =>
    apply h.put
    rintro _ after hafter
    cases hafter

/-- A call asks for the same bundle whatever happens at the loader. -/
theorem asks_run {s : LoadTraffic} {place : Nat} {name : String} (h : s.Asks place name)
    (moves : List LoadMove) : (s.run moves).Asks place name := by
  induction moves generalizing s with
  | nil => exact h
  | cons move moves ih => exact ih (asks_moved h (s.moved_step move))

/-- The traffic after somebody has called for some bundles, in order. -/
def callAll (s : LoadTraffic) (names : List String) : LoadTraffic :=
  s.run (names.map .call)

/-- Calls that are made together stand at the next places. -/
theorem asks_callAll (s : LoadTraffic) {names : List String} {index : Nat} {name : String}
    (h : names[index]? = some name) : (s.callAll names).Asks (s.calls.length + index) name := by
  induction names generalizing s index with
  | nil => cases h
  | cons first names ih =>
    cases index with
    | zero =>
      obtain rfl : first = name := by simpa using h
      have hfirst : (s.step (.call first)).Asks s.calls.length first := by
        refine ⟨by simp [step], ?_⟩
        intro call hcall
        rw [callAt_call, if_pos rfl] at hcall
        cases hcall
        rfl
      exact asks_run hfirst _
    | succ index =>
      have hlength : (s.step (.call first)).calls.length = s.calls.length + 1 := by simp [step]
      have hrest := ih (s.step (.call first)) (by simpa using h)
      rw [hlength, Nat.add_right_comm] at hrest
      exact hrest

/-- Calling for bundles does not use the loader yet. -/
@[simp] theorem loader_callAll (s : LoadTraffic) (names : List String) :
    (s.callAll names).loader = s.loader := by
  induction names generalizing s with
  | nil => rfl
  | cons first names ih => exact ih (s.step (.call first))

/-- The registered bundles stay the same whatever happens at the loader. -/
@[simp] theorem registry_run (s : LoadTraffic) (moves : List LoadMove) :
    (s.run moves).loader.registry = s.loader.registry := by
  induction moves generalizing s with
  | nil => rfl
  | cons move moves ih =>
    have hmove := s.moved_step move
    have hstep : (s.step move).loader.registry = s.loader.registry := by
      generalize s.step move = s' at hmove
      cases hmove with
      | same => rfl
      | called name => rfl
      | entered place name inside call => exact s.loader.registry_enter name
      | polled place now name run inside call => exact s.loader.registry_pollRun now run
      | left place name run call => exact s.loader.registry_leave name run
      | dropped place load call => rfl
    exact (ih (s.step move)).trans hstep

/-! ## Calls that succeeded -/

/-- Whether what the history says fits the runs, and what calls have returned fits the marks. -/
structure Truthful (s : LoadTraffic) : Prop where
  accounted : s.loader.Accounted
  /-- A call that has returned without an error was for a bundle that is loaded. -/
  answered : ∀ place name inside, s.callAt place = some ⟨.ended name (.ok ()), inside⟩ →
    s.loader.isLoaded name = true

/-- A loader at which nobody has called is truthful. -/
theorem truthful_start (registry : BundleRegistry) (debug : Bool) (plan : FetchPlan) :
    (start registry debug plan).Truthful where
  accounted := Loader.accounted_start registry debug plan
  answered := by simp [start, callAt]

namespace Truthful

variable {s : LoadTraffic}

/-- Where the other calls stay and the one at `place` has returned what fits the marks, all have. -/
theorem answered_put (h : s.Truthful) {place : Nat} (hplace : place < s.calls.length)
    (call : Option LoadCall) {loader : Loader} (grows : s.loader.Grows loader)
    (own : ∀ name inside, call = some ⟨.ended name (.ok ()), inside⟩ → loader.isLoaded name = true)
    (other : Nat) (name : String) (inside : Bool)
    (hother : (s.put place call loader).callAt other = some ⟨.ended name (.ok ()), inside⟩) :
    loader.isLoaded name = true := by
  by_cases hsame : place = other
  · subst hsame
    rw [callAt_put_self hplace] at hother
    exact own name inside hother
  · rw [callAt_put_of_ne hsame] at hother
    exact grows.loaded name (h.answered other name inside hother)

/-- **What calls return fits the marks**, whatever happens. -/
theorem moved (h : s.Truthful) (orderly : s.Orderly) {s' : LoadTraffic} (move : Moved s s') :
    s'.Truthful := by
  cases move with
  | same => exact h
  | called name =>
    refine ⟨h.accounted, ?_⟩
    intro place other inside hcall
    rw [callAt_call] at hcall
    split at hcall
    · cases hcall
    · exact h.answered place other inside hcall
  | entered place name inside call =>
    refine ⟨h.accounted.enter orderly.coherent name,
      h.answered_put (lt_of_callAt call) _ (s.loader.grows_enter name) ?_⟩
    intro other inside' hown
    have hload : (s.loader.enter name).1 = .ended other (.ok ()) :=
      congrArg LoadCall.load (Option.some.inj hown)
    exact (s.loader.grows_enter name).loaded other (Loader.isLoaded_of_enter hload)
  | polled place now name run inside call =>
    refine ⟨h.accounted.pollRun now run,
      h.answered_put (lt_of_callAt call) _ (s.loader.grows_pollRun now run) ?_⟩
    intro other inside' hown
    cases hown
  | left place name run call =>
    obtain ⟨r, hr, hname⟩ := orderly.waiting place name run true call
    refine ⟨h.accounted.leave hr hname,
      h.answered_put (lt_of_callAt call) _ (s.loader.grows_leave name run) ?_⟩
    intro other inside' hown
    have hload : (s.loader.leave name run).1 = .ended other (.ok ()) :=
      congrArg LoadCall.load (Option.some.inj hown)
    rcases s.loader.leave_cases name hr with ⟨_, hleave⟩ | ⟨hsucceeded, hleave⟩ | ⟨e, _, hleave⟩
    · rw [hleave] at hload
      cases hload
    · have hloaded := orderly.loaded_of_leave call hr hsucceeded
      rw [hleave] at hload
      cases hload
      simpa only [step, call, put] using hloaded
    · rw [hleave] at hload
      cases hload
  | dropped place load call =>
    refine ⟨h.accounted, h.answered_put (lt_of_callAt call) _ (Loader.Grows.refl s.loader) ?_⟩
    intro other inside hown
    cases hown

/-- Whatever happens at a truthful loader leaves it truthful. -/
theorem run (h : s.Truthful) (orderly : s.Orderly) (moves : List LoadMove) :
    (s.run moves).Truthful := by
  induction moves generalizing s with
  | nil => exact h
  | cons move moves ih =>
    exact ih (h.moved orderly (s.moved_step move)) (orderly.step move)

/-- A call for a bundle that has succeeded says that the bundle is loaded. -/
theorem isLoaded_of_statusAt (h : s.Truthful) {place : Nat} {name : String}
    (asks : s.Asks place name) (hstatus : s.statusAt place = .succeeded) :
    s.loader.isLoaded name = true := by
  unfold statusAt at hstatus
  cases hcall : s.callAt place with
  | none =>
    rw [hcall] at hstatus
    cases hstatus
  | some call =>
    obtain ⟨load, inside⟩ := call
    rw [hcall] at hstatus
    have hname : load.name = name := asks.2 _ hcall
    cases load with
    | requested other => cases hstatus
    | waiting other run => cases hstatus
    | ended other result =>
      cases result with
      | error e => cases hstatus
      | ok _ =>
        obtain rfl : other = name := hname
        exact h.answered place other inside hcall

/-- **Where calls for some bundles have succeeded together**, each of them is loaded. -/
theorem isLoaded_of_statusOf (h : s.Truthful) {places : List Nat} {names : List String}
    (asks : ∀ name ∈ names, ∃ place ∈ places, s.Asks place name)
    (hstatus : s.statusOf places = .succeeded) :
    ∀ name ∈ names, s.loader.isLoaded name = true := by
  intro name hname
  obtain ⟨place, hplace, hasks⟩ := asks name hname
  have hsucceeded := (Join.outcome_eq_succeeded_iff _ places).mp hstatus place hplace
  exact h.isLoaded_of_statusAt hasks hsucceeded

end Truthful

end LoadTraffic

end AdminConsole
