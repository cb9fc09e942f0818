import AdminConsole.Proofs.Bundle.Growth

/-!
# Calls side by side

Any number of calls can be at a loader at a time. Each of them goes through its moments in its own time, with
those of the others between them: it enters, polls its run as often as it likes, and leaves, which brings it
to its end or lets it rest until it polls again. A call that rests may be dropped, as a joint call drops the
others when one has failed; while a call is being advanced it cannot be dropped. The traffic of a loader is the
loader with all calls there ever were. Main statement: at any time the loader is coherent (`Loader.Coherent`),
and each call that waits does so for a run of its bundle.
-/

set_option autoImplicit false

namespace AdminConsole

/-- A call at a loader. -/
structure LoadCall where
  load : Load
  /-- Whether the call is being advanced: it has entered or polled its run, and has not taken notice of what
  that came to. -/
  inside : Bool

/-- Something that happens at a loader. Calls are known by their places. -/
inductive LoadMove where
  /-- Somebody calls for a bundle, alone or together with others. -/
  | call (name : String)
  | enter (place : Nat)
  | poll (place now : Nat)
  | leave (place : Nat)
  | drop (place : Nat)

/-- A loader with its calls. -/
structure LoadTraffic where
  loader : Loader
  /-- All calls, the first one first; those that were dropped are none. -/
  calls : List (Option LoadCall)

namespace LoadTraffic

/-- A loader at which nobody has called. -/
def start (registry : BundleRegistry) (debug : Bool) (plan : FetchPlan) : LoadTraffic :=
  { loader := Loader.start registry debug plan, calls := [] }

/-- The call at a place, unless it was dropped. -/
def callAt (s : LoadTraffic) (place : Nat) : Option LoadCall :=
  s.calls[place]?.join

/-- The traffic after the call at a place has used the loader. -/
def put (s : LoadTraffic) (place : Nat) (call : Option LoadCall) (loader : Loader) : LoadTraffic :=
  { loader, calls := s.calls.set place call }

/-- The traffic after one move. Nothing happens where the call at the place is not ready for it. -/
def step (s : LoadTraffic) : LoadMove → LoadTraffic
  | .call name => { s with calls := s.calls ++ [some ⟨.requested name, false⟩] }
  | .enter place =>
      match s.callAt place with
      | some ⟨.requested name, _⟩ =>
          let (load, loader) := s.loader.enter name
          s.put place (some ⟨load, load.run?.isSome⟩) loader
      | _ => s
  | .poll place now =>
      match s.callAt place with
      | some ⟨.waiting name run, _⟩ =>
          s.put place (some ⟨.waiting name run, true⟩) (s.loader.pollRun now run)
      | _ => s
  | .leave place =>
      match s.callAt place with
      | some ⟨.waiting name run, true⟩ =>
          let (load, loader) := s.loader.leave name run
          s.put place (some ⟨load, false⟩) loader
      | _ => s
  | .drop place =>
      match s.callAt place with
      | some ⟨_, false⟩ => s.put place none s.loader
      | _ => s

/-- The traffic after some moves. -/
def run (s : LoadTraffic) (moves : List LoadMove) : LoadTraffic :=
  moves.foldl step s

/-- Moves in two parts are made one part after the other. -/
theorem run_append (s : LoadTraffic) (first second : List LoadMove) :
    s.run (first ++ second) = (s.run first).run second :=
  List.foldl_append

/-! ## What a move does to the calls -/

/-- A call stands at one of the places. -/
theorem lt_of_callAt {s : LoadTraffic} {place : Nat} {call : LoadCall}
    (h : s.callAt place = some call) : place < s.calls.length := by
  unfold callAt at h
  cases hplace : s.calls[place]? with
  | none =>
    rw [hplace] at h
    cases h
  | some found => exact (List.getElem?_eq_some_iff.mp hplace).1

/-- The call that has used the loader stands at its place. -/
theorem callAt_put_self {s : LoadTraffic} {place : Nat} (hplace : place < s.calls.length)
    (call : Option LoadCall) (loader : Loader) : (s.put place call loader).callAt place = call := by
  simp [callAt, put, hplace]

/-- The calls at other places stay as they are. -/
theorem callAt_put_of_ne {s : LoadTraffic} {place other : Nat} (hne : place ≠ other)
    (call : Option LoadCall) (loader : Loader) :
    (s.put place call loader).callAt other = s.callAt other := by
  simp [callAt, put, hne]

section

variable {s : LoadTraffic} {place run : Nat} {name : String} {inside : Bool}

/-- What it comes to when a call enters that has been made. -/
theorem step_enter (call : s.callAt place = some ⟨.requested name, inside⟩) :
    s.step (.enter place) =
      s.put place (some ⟨(s.loader.enter name).1, (s.loader.enter name).1.run?.isSome⟩)
        (s.loader.enter name).2 := by
  simp only [step, call]

/-- What it comes to when a call that waits polls its run. -/
theorem step_poll (now : Nat) (call : s.callAt place = some ⟨.waiting name run, inside⟩) :
    s.step (.poll place now) =
      s.put place (some ⟨.waiting name run, true⟩) (s.loader.pollRun now run) := by
  simp only [step, call]

/-- What it comes to when a call that has entered or polled takes notice of its run. -/
theorem step_leave (call : s.callAt place = some ⟨.waiting name run, true⟩) :
    s.step (.leave place) =
      s.put place (some ⟨(s.loader.leave name run).1, false⟩) (s.loader.leave name run).2 := by
  simp only [step, call]

/-- What it comes to when a call is dropped that is not being advanced. -/
theorem step_drop {load : Load} (call : s.callAt place = some ⟨load, false⟩) :
    s.step (.drop place) = s.put place none s.loader := by
  simp only [step, call]

end

/-- A new call is put behind all others. -/
theorem callAt_call {s : LoadTraffic} {name : String} {place : Nat} :
    (s.step (.call name)).callAt place =
      if place = s.calls.length then some ⟨.requested name, false⟩ else s.callAt place := by
  simp only [step, callAt]
  rw [List.getElem?_append]
  by_cases hlt : place < s.calls.length
  · rw [if_pos hlt, if_neg (by omega)]
  · rw [if_neg hlt, List.getElem?_singleton]
    by_cases heq : place = s.calls.length
    · rw [if_pos (by omega), if_pos heq]
      rfl
    · rw [if_neg (by omega), if_neg heq, List.getElem?_eq_none (by omega)]

/-- What a move comes to, if it comes to anything: somebody calls, or the call at one place changes and
uses the loader. -/
inductive Moved (s : LoadTraffic) : LoadTraffic → Prop where
  | same : Moved s s
  | called (name : String) : Moved s (s.step (.call name))
  | entered (place : Nat) (name : String) (inside : Bool)
      (call : s.callAt place = some ⟨.requested name, inside⟩) :
      Moved s (s.put place (some ⟨(s.loader.enter name).1, (s.loader.enter name).1.run?.isSome⟩)
        (s.loader.enter name).2)
  | polled (place now : Nat) (name : String) (run : Nat) (inside : Bool)
      (call : s.callAt place = some ⟨.waiting name run, inside⟩) :
      Moved s (s.put place (some ⟨.waiting name run, true⟩) (s.loader.pollRun now run))
  | left (place : Nat) (name : String) (run : Nat)
      (call : s.callAt place = some ⟨.waiting name run, true⟩) :
      Moved s (s.put place (some ⟨(s.loader.leave name run).1, false⟩) (s.loader.leave name run).2)
  | dropped (place : Nat) (load : Load) (call : s.callAt place = some ⟨load, false⟩) :
      Moved s (s.put place none s.loader)

/-- Every move is one of these. -/
theorem moved_step (s : LoadTraffic) (move : LoadMove) : Moved s (s.step move) := by
  cases move with
  | call name => exact .called name
  | enter place =>
    unfold step
    dsimp only
    split
    · rename_i name inside hcall
      exact .entered place name inside hcall
    · exact .same
  | poll place now =>
    unfold step
    dsimp only
    split
    · rename_i name run inside hcall
      exact .polled place now name run inside hcall
    · exact .same
  | leave place =>
    unfold step
    dsimp only
    split
    · rename_i name run hcall
      exact .left place name run hcall
    · exact .same
  | drop place =>
    unfold step
    dsimp only
    split
    · rename_i load hcall
      exact .dropped place load hcall
    · exact .same

/-! ## The invariant -/

/-- Whether a call of this run is about to take notice of what it came to. -/
def Noticed (s : LoadTraffic) (run : Nat) : Prop :=
  ∃ place name, s.callAt place = some ⟨.waiting name run, true⟩

/-- What holds of the traffic of a loader at any time. -/
structure Orderly (s : LoadTraffic) : Prop where
  coherent : s.loader.Coherent s.Noticed
  /-- A call waits for a run of the bundle that it asked for. -/
  waiting : ∀ place name run inside, s.callAt place = some ⟨.waiting name run, inside⟩ →
    ∃ r, s.loader.runs[run]? = some r ∧ r.definition.name = name

/-- A loader at which nobody has called is orderly. -/
theorem orderly_start (registry : BundleRegistry) (debug : Bool) (plan : FetchPlan) :
    (start registry debug plan).Orderly where
  coherent := Loader.coherent_start registry debug plan _
  waiting := by simp [start, callAt]

/-- Every move only lets the loader grow. -/
theorem grows_moved {s s' : LoadTraffic} (h : Moved s s') : s.loader.Grows s'.loader := by
  cases h with
  | same => exact Loader.Grows.refl s.loader
  | called name => exact Loader.Grows.refl s.loader
  | entered place name inside call => exact s.loader.grows_enter name
  | polled place now name run inside call => exact s.loader.grows_pollRun now run
  | left place name run call => exact s.loader.grows_leave name run
  | dropped place load call => exact Loader.Grows.refl s.loader

/-- Whatever happens at a loader only lets it grow. -/
theorem grows_run (s : LoadTraffic) (moves : List LoadMove) :
    s.loader.Grows (s.run moves).loader := by
  induction moves generalizing s with
  | nil => exact Loader.Grows.refl s.loader
  | cons move moves ih => exact (grows_moved (s.moved_step move)).trans (ih (s.step move))

/-- A call that uses the loader leaves the other calls alone, as far as they are about to take notice. -/
theorem noticed_put {s : LoadTraffic} {place : Nat} {load : LoadCall}
    (hcall : s.callAt place = some load) (call : Option LoadCall) (loader : Loader) {run : Nat}
    (hother : ∀ name, load ≠ ⟨.waiting name run, true⟩) (h : s.Noticed run) :
    (s.put place call loader).Noticed run := by
  obtain ⟨other, name, hnoticed⟩ := h
  have hne : place ≠ other := by
    rintro rfl
    rw [hcall] at hnoticed
    exact hother name (Option.some.inj hnoticed)
  exact ⟨other, name, by rw [callAt_put_of_ne hne]; exact hnoticed⟩

namespace Orderly

variable {s : LoadTraffic}

/-- The run of a call that waits stays one of its bundle. -/
theorem waiting_of_grows (h : s.Orderly) {loader : Loader} (grows : s.loader.Grows loader)
    {place run : Nat} {name : String} {inside : Bool}
    (call : s.callAt place = some ⟨.waiting name run, inside⟩) :
    ∃ r, loader.runs[run]? = some r ∧ r.definition.name = name := by
  obtain ⟨r, hr, hname⟩ := h.waiting place name run inside call
  obtain ⟨r', hr', hdefinition, _⟩ := grows.runs run r hr
  exact ⟨r', hr', by rw [hdefinition, hname]⟩

/-- Where the calls of the others stay and the one at `place` waits for a run of its bundle, if it waits,
all calls do. -/
theorem waiting_put (h : s.Orderly) {place : Nat} (hplace : place < s.calls.length)
    (call : Option LoadCall) {loader : Loader} (grows : s.loader.Grows loader)
    (own : ∀ name run inside, call = some ⟨.waiting name run, inside⟩ →
      ∃ r, loader.runs[run]? = some r ∧ r.definition.name = name)
    (other : Nat) (name : String) (run : Nat) (inside : Bool)
    (hother : (s.put place call loader).callAt other = some ⟨.waiting name run, inside⟩) :
    ∃ r, loader.runs[run]? = some r ∧ r.definition.name = name := by
  by_cases hsame : place = other
  · subst hsame
    rw [callAt_put_self hplace] at hother
    exact own name run inside hother
  · rw [callAt_put_of_ne hsame] at hother
    exact h.waiting_of_grows grows hother

/-- An orderly loader stays so when somebody calls. -/
theorem called (h : s.Orderly) (name : String) : (s.step (.call name)).Orderly where
  coherent := by
    refine h.coherent.mono ?_
    rintro run ⟨place, name', hnoticed⟩
    refine ⟨place, name', ?_⟩
    rw [callAt_call, if_neg (Nat.ne_of_lt (lt_of_callAt hnoticed))]
    exact hnoticed
  waiting := by
    intro place name' run inside hcall
    rw [callAt_call] at hcall
    split at hcall
    · cases hcall
    · exact h.waiting place name' run inside hcall

/-- An orderly loader stays so when a call enters, as the call waits for the run in the table or for one that it has
put there. -/
theorem entered (h : s.Orderly) {place : Nat} {name : String} {inside : Bool}
    (call : s.callAt place = some ⟨.requested name, inside⟩) :
    (s.put place (some ⟨(s.loader.enter name).1, (s.loader.enter name).1.run?.isSome⟩)
      (s.loader.enter name).2).Orderly := by
  have hplace := lt_of_callAt call
  refine ⟨h.coherent.enter name ?_ ?_, h.waiting_put hplace _ (s.loader.grows_enter name) ?_⟩
  · intro run hnoticed
    exact noticed_put call _ _ (by simp) hnoticed
  · intro run hwaiting
    refine ⟨place, name, ?_⟩
    rw [callAt_put_self hplace, hwaiting]
    rfl
  · intro name' run inside' hown
    have hload : (s.loader.enter name).1 = .waiting name' run :=
      congrArg LoadCall.load (Option.some.inj hown)
    rcases s.loader.enter_cases name with ⟨hsame, ⟨result, hended⟩ | ⟨run', hwaiting, hentry⟩⟩ |
      ⟨definition, hdefinition, _, hbegin⟩
    · rw [hended] at hload
      cases hload
    · rw [hwaiting] at hload
      cases hload
      rw [hsame]
      exact h.coherent.loading name run hentry
    · rw [hbegin] at hload ⊢
      cases hload
      exact ⟨BundleRun.begin definition, by simp, hdefinition⟩

/-- An orderly loader stays so when a call polls its run, as the call is then about to take notice of an end. -/
theorem polled (h : s.Orderly) {place run : Nat} (now : Nat) {name : String} {inside : Bool}
    (call : s.callAt place = some ⟨.waiting name run, inside⟩) :
    (s.put place (some ⟨.waiting name run, true⟩) (s.loader.pollRun now run)).Orderly := by
  have hplace := lt_of_callAt call
  have grows := s.loader.grows_pollRun now run
  refine ⟨h.coherent.pollRun now run ?_ ?_, h.waiting_put hplace _ grows ?_⟩
  · rintro other ⟨place', name', hnoticed⟩
    by_cases hsame : place = place'
    · subst hsame
      rw [call] at hnoticed
      cases hnoticed
      exact ⟨place, name, callAt_put_self hplace _ _⟩
    · exact ⟨place', name', by rw [callAt_put_of_ne hsame]; exact hnoticed⟩
  · exact ⟨place, name, callAt_put_self hplace _ _⟩
  · intro name' run' inside' hown
    cases hown
    exact h.waiting_of_grows grows call

/-- An orderly loader stays so when a call takes notice of its run, as a run that has ended is settled then. -/
theorem left (h : s.Orderly) {place run : Nat} {name : String}
    (call : s.callAt place = some ⟨.waiting name run, true⟩) :
    (s.put place (some ⟨(s.loader.leave name run).1, false⟩)
      (s.loader.leave name run).2).Orderly := by
  have hplace := lt_of_callAt call
  have grows := s.loader.grows_leave name run
  obtain ⟨r, hr, hname⟩ := h.waiting place name run true call
  refine ⟨h.coherent.leave hr hname ?_, h.waiting_put hplace _ grows ?_⟩
  · intro other hne hnoticed
    exact noticed_put call _ _ (by simpa using fun e => hne e.symm) hnoticed
  · intro name' run' inside' hown
    have hload : (s.loader.leave name run).1 = .waiting name' run' :=
      congrArg LoadCall.load (Option.some.inj hown)
    rcases s.loader.leave_cases name hr with ⟨_, hleave⟩ | ⟨_, hleave⟩ | ⟨e, _, hleave⟩
    · rw [hleave] at hload ⊢
      cases hload
      exact ⟨r, hr, hname⟩
    · rw [hleave] at hload
      cases hload
    · rw [hleave] at hload
      cases hload

/-- An orderly loader stays so when a call is dropped that is not being advanced. -/
theorem dropped (h : s.Orderly) {place : Nat} {load : Load}
    (call : s.callAt place = some ⟨load, false⟩) : (s.put place none s.loader).Orderly := by
  refine ⟨h.coherent.mono ?_,
    h.waiting_put (lt_of_callAt call) none (Loader.Grows.refl s.loader) (by simp)⟩
  intro run hnoticed
  exact noticed_put call _ _ (by simp) hnoticed

/-- An orderly loader stays so in every move. -/
theorem moved (h : s.Orderly) {s' : LoadTraffic} (move : Moved s s') : s'.Orderly := by
  cases move with
  | same => exact h
  | called name => exact h.called name
  | entered place name inside call => exact h.entered call
  | polled place now name run inside call => exact h.polled now call
  | left place name run call => exact h.left call
  | dropped place load call => exact h.dropped call

/-- An orderly loader stays so in one move. -/
theorem step (h : s.Orderly) (move : LoadMove) : (s.step move).Orderly :=
  h.moved (s.moved_step move)

/-- An orderly loader stays so whatever happens at it. -/
theorem run (h : s.Orderly) (moves : List LoadMove) : (s.run moves).Orderly := by
  induction moves generalizing s with
  | nil => exact h
  | cons move moves ih => exact ih (h.step move)

end Orderly

end LoadTraffic

end AdminConsole
