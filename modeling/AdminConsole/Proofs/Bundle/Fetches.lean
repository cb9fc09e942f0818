import AdminConsole.Proofs.Bundle.Openings
import Mathlib.Data.List.Forall2

/-!
# The fetches of a run

The history tells for each run which fetches it has requested: of which file, at which instant, and how the plan lets
each of them go. And it tells what became of them, which is the trace of the run. Where a file of the run stands
follows from its fetch, and a poll of the file continues the history by what the file did. Main statements: a file
that waits is requested by its poll, and one that is being fetched ends with its fetch, if the poll does not come
before that.
-/

set_option autoImplicit false

namespace AdminConsole

/-- A fetch that was requested at an instant, and how it goes. -/
structure RequestedFetch where
  file : String
  begun : Nat
  rule : FetchRule
  deriving DecidableEq, Repr

/-- The instant at which the fetch ends. -/
def RequestedFetch.ends (fetch : RequestedFetch) : Nat :=
  fetch.begun + fetch.rule.delay

namespace Network

/-- The fetch that an event requests which comes after some others, if the run made the request. -/
def fetchAt? (plan : FetchPlan) (run : Nat) (earlier : List FetchEvent) (event : FetchEvent) :
    Option RequestedFetch :=
  if event.phase = .start ∧ event.run = run then
    some ⟨event.file, event.time, plan event.file ((⟨plan, earlier⟩ : Network).requests event.file)⟩
  else none

/-- The fetches that a run requests by events which come after some others. -/
def fetchesAfter (plan : FetchPlan) (run : Nat) (earlier : List FetchEvent) :
    List FetchEvent → List RequestedFetch
  | [] => []
  | event :: more =>
      (fetchAt? plan run earlier event).toList ++ fetchesAfter plan run (earlier ++ [event]) more

/-- The fetches that a run has requested, in order. -/
def fetchesOf (n : Network) (run : Nat) : List RequestedFetch :=
  fetchesAfter n.plan run [] n.events

/-- What has happened to which file in a run, in order. -/
def traceOf (n : Network) (run : Nat) : List (FetchPhase × String) :=
  (n.events.filter fun event => event.run == run).map fun event => (event.phase, event.file)

/-- The fetches of a history in two parts are those of the first part and those that the second part adds to it. -/
theorem fetchesAfter_append (plan : FetchPlan) (run : Nat) (earlier first second : List FetchEvent) :
    fetchesAfter plan run earlier (first ++ second) =
      fetchesAfter plan run earlier first ++ fetchesAfter plan run (earlier ++ first) second := by
  induction first generalizing earlier with
  | nil => simp [fetchesAfter]
  | cons event first ih =>
    simp only [List.cons_append, fetchesAfter, ih, List.append_assoc, List.nil_append]

/-- What other runs do is no fetch of a run. -/
theorem fetchesAfter_of_others (plan : FetchPlan) {run : Nat} (earlier : List FetchEvent)
    {events : List FetchEvent} (others : ∀ event ∈ events, event.run ≠ run) :
    fetchesAfter plan run earlier events = [] := by
  induction events generalizing earlier with
  | nil => rfl
  | cons event events ih =>
    obtain ⟨hevent, hevents⟩ := List.forall_mem_cons.mp others
    rw [fetchesAfter, ih _ hevents, fetchAt?, if_neg (fun h => hevent h.2)]
    rfl

/-- The fetches of a run are for the files that it has requested. -/
theorem map_file_fetchesAfter (plan : FetchPlan) (run : Nat) (earlier events : List FetchEvent) :
    (fetchesAfter plan run earlier events).map (·.file) =
      (events.filter fun event => event.phase == .start && event.run == run).map (·.file) := by
  induction events generalizing earlier with
  | nil => rfl
  | cons event events ih =>
    rw [fetchesAfter, List.map_append, ih, List.filter_cons, fetchAt?]
    by_cases hown : event.phase = .start ∧ event.run = run
    · rw [if_pos hown, if_pos (by simp [hown.1, hown.2])]
      rfl
    · rw [if_neg hown, if_neg (by simpa using hown)]
      rfl

/-- The fetches of a run are those of the files that it has requested. -/
theorem map_file_fetchesOf (n : Network) (run : Nat) :
    (n.fetchesOf run).map (·.file) = n.requestedBy run :=
  map_file_fetchesAfter n.plan run [] n.events

/-- Whether the history of a run goes on with these fetches and this trace. -/
structure Continued (run : Nat) (n : Network) (fetches : List RequestedFetch)
    (trace : List (FetchPhase × String)) (n' : Network) : Prop where
  fetches : n'.fetchesOf run = n.fetchesOf run ++ fetches
  trace : n'.traceOf run = n.traceOf run ++ trace

namespace Continued

variable {run : Nat} {n n' n'' : Network}

/-- A history goes on with nothing. -/
theorem refl (run : Nat) (n : Network) : Continued run n [] [] n :=
  ⟨by simp, by simp⟩

/-- A history that goes on twice goes on with both, one after the other. -/
theorem trans {fetches fetches' : List RequestedFetch} {trace trace' : List (FetchPhase × String)}
    (first : Continued run n fetches trace n') (second : Continued run n' fetches' trace' n'') :
    Continued run n (fetches ++ fetches') (trace ++ trace') n'' :=
  ⟨by rw [second.fetches, first.fetches, List.append_assoc],
    by rw [second.trace, first.trace, List.append_assoc]⟩

/-- What others do is no part of the history of a run. -/
theorem of_others {fresh : List FetchEvent} (plan : n'.plan = n.plan) (events : n'.events = n.events ++ fresh)
    (others : ∀ event ∈ fresh, event.run ≠ run) : Continued run n [] [] n' where
  fetches := by
    rw [fetchesOf, plan, events, fetchesAfter_append, fetchesAfter_of_others n.plan _ others]
    rfl
  trace := by
    have hnone : (fresh.filter fun event => event.run == run) = [] := by
      rw [List.filter_eq_nil_iff]
      intro event hevent
      simp [others event hevent]
    rw [traceOf, events, List.filter_append, hnone, List.append_nil, List.append_nil]
    rfl

end Continued

/-- A history goes on with an event, and with a fetch if the event is a request. -/
theorem continued_record (n : Network) (event : FetchEvent) :
    Continued event.run n (fetchAt? n.plan event.run n.events event).toList [(event.phase, event.file)]
      (n.record event) where
  fetches := by
    simp only [fetchesOf, record, fetchesAfter_append, fetchesAfter, List.nil_append, List.append_nil]
  trace := by simp [traceOf, record]

end Network

open Network (Continued)

namespace FileFetch

/-- What the trace of a run says of the file. -/
def shown (f : FileFetch) : List (FetchPhase × String) :=
  match f.state with
  | .waiting => []
  | .running _ _ _ => [(.start, f.file)]
  | .fetched => [(.start, f.file), (.done, f.file)]
  | .failed _ => [(.start, f.file), (.fail, f.file)]

/-- Where a file can stand that is fetched in this way. -/
inductive Follows : FileFetch → RequestedFetch → Prop where
  | running (fetch : RequestedFetch) (started : Nat) :
      Follows ⟨fetch.file, .running started fetch.ends fetch.rule.failure⟩ fetch
  | fetched (fetch : RequestedFetch) (succeeds : fetch.rule.failure = none) :
      Follows ⟨fetch.file, .fetched⟩ fetch
  | failed (fetch : RequestedFetch) (reason : String) (fails : fetch.rule.failure = some reason) :
      Follows ⟨fetch.file, .failed reason⟩ fetch

/-- Where a file can stand that is fetched in this way and was polled at this instant: it ends when it should. -/
structure Polled (now : Nat) (f : FileFetch) (fetch : RequestedFetch) : Prop where
  follows : f.Follows fetch
  running : f.status.isPending = true → now < fetch.ends
  failed : f.status.isFailed = true → fetch.ends ≤ now

/-- A fetch that a file follows is a fetch of this file. -/
theorem Follows.file {f : FileFetch} {fetch : RequestedFetch} (h : f.Follows fetch) : f.file = fetch.file := by
  cases h <;> rfl

/-- A file that follows a fetch does not wait. -/
theorem Follows.requested {f : FileFetch} {fetch : RequestedFetch} (h : f.Follows fetch) : f.state ≠ .waiting := by
  cases h <;> simp

section

variable (owner : FetchOwner) (now : Nat) (n : Network)

/-- The end of a fetch adds to the trace, and is no fetch itself. -/
theorem continued_record_of_end (f : FileFetch) {phase : FetchPhase} (h : phase ≠ .start) :
    Continued owner.run n [] [(phase, f.file)] (n.record (f.event owner now phase)) := by
  have hrecord := n.continued_record (f.event owner now phase)
  rw [Network.fetchAt?, if_neg (fun hstart => h hstart.1)] at hrecord
  exact hrecord

/-- **A file that is being fetched** ends with its fetch, unless the poll comes before that. -/
theorem poll_of_running (fetch : RequestedFetch) (started : Nat) :
    ∃ f' n' ending,
      (⟨fetch.file, .running started fetch.ends fetch.rule.failure⟩ : FileFetch).poll owner now n = (f', n') ∧
      Continued owner.run n [] ending n' ∧ f'.Polled now fetch ∧ f'.shown = (.start, fetch.file) :: ending ∧
      (∀ entry ∈ ending, entry.1 ≠ .start) ∧
      (now < fetch.ends → ending = [] ∧ f'.status.isPending = true) := by
  simp only [poll, start, finish]
  by_cases hdue : fetch.ends ≤ now
  · rw [if_pos hdue]
    cases hfailure : fetch.rule.failure with
    | none =>
      exact ⟨_, _, [(.done, fetch.file)], rfl, continued_record_of_end owner now n ⟨fetch.file, _⟩ (by decide),
        ⟨.fetched fetch hfailure, by simp [status, Progress.isPending], by simp [status, Progress.isFailed]⟩,
        rfl, by simp, by omega⟩
    | some reason =>
      exact ⟨_, _, [(.fail, fetch.file)], rfl, continued_record_of_end owner now n ⟨fetch.file, _⟩ (by decide),
        ⟨.failed fetch reason hfailure, by simp [status, Progress.isPending], fun _ => hdue⟩, rfl, by simp, by omega⟩
  · rw [if_neg hdue]
    exact ⟨_, _, [], rfl, .refl owner.run n,
      ⟨.running fetch started, fun _ => by omega, by simp [status, Progress.isFailed]⟩, rfl, by simp,
      fun _ => ⟨rfl, rfl⟩⟩

/-- **A file that waits** is requested, and if its fetch takes time, nothing else happens to it. -/
theorem poll_of_waiting (file : String) :
    ∃ fetch f' n' ending, (⟨file, .waiting⟩ : FileFetch).poll owner now n = (f', n') ∧ fetch.file = file ∧
      Continued owner.run n [fetch] ((.start, file) :: ending) n' ∧ f'.Polled now fetch ∧
      f'.shown = (.start, file) :: ending ∧
      (0 < fetch.rule.delay → ending = [] ∧ f'.status.isPending = true) := by
  -- what the start requests is polled as a file that is being fetched
  have hrecord := n.continued_record (FileFetch.event ⟨file, .waiting⟩ owner now .start)
  rw [Network.fetchAt?, if_pos ⟨rfl, rfl⟩] at hrecord
  obtain ⟨f', n', ending, hpoll, hends, hpolled, hshown, _, hlater⟩ :=
    poll_of_running owner now (n.record (FileFetch.event ⟨file, .waiting⟩ owner now .start))
      ⟨file, now, n.plan file (n.requests file)⟩ n.events.length
  refine ⟨_, f', n', ending, hpoll, rfl, hrecord.trans hends, hpolled, hshown, ?_⟩
  intro hdelay
  exact hlater (Nat.lt_add_of_pos_right hdelay)

/-- What a poll of a file adds to the trace is what it adds to what is shown of the file. -/
theorem exists_shown_poll (f : FileFetch) :
    ∃ fetches more, Continued owner.run n fetches more (f.poll owner now n).2 ∧
      (f.poll owner now n).1.shown = f.shown ++ more := by
  obtain ⟨file, state⟩ := f
  cases state with
  | waiting =>
    obtain ⟨fetch, f', n', ending, hpoll, _, hcontinued, _, hshown, _⟩ := poll_of_waiting owner now n file
    exact ⟨_, _, by rw [hpoll]; exact hcontinued, by rw [hpoll]; exact hshown⟩
  | running started due failure =>
    -- the instant at which the fetch began does not matter here
    obtain ⟨f', n', ending, hpoll, hcontinued, _, hshown, _⟩ :=
      poll_of_running owner now n ⟨file, due, ⟨0, failure⟩⟩ started
    have hsame : (⟨file, .running started due failure⟩ : FileFetch).poll owner now n = (f', n') := hpoll
    exact ⟨_, _, by rw [hsame]; exact hcontinued, by rw [hsame]; exact hshown⟩
  | fetched => exact ⟨[], [], .refl owner.run n, by simp [poll, start, finish]⟩
  | failed reason => exact ⟨[], [], .refl owner.run n, by simp [poll, start, finish]⟩

end

/-! ## The files of a run and its fetches -/

/-- Whether the first files of a list are related to these fetches, in order, and the others wait. -/
inductive Accompanied (R : FileFetch → RequestedFetch → Prop) : List FileFetch → List RequestedFetch → Prop where
  | waiting (files : List FileFetch) (h : ∀ f ∈ files, f.state = .waiting) : Accompanied R files []
  | cons {f : FileFetch} {fetch : RequestedFetch} {files : List FileFetch} {fetches : List RequestedFetch}
      (first : R f fetch) (others : Accompanied R files fetches) : Accompanied R (f :: files) (fetch :: fetches)

namespace Accompanied

variable {R R' : FileFetch → RequestedFetch → Prop}

/-- Files that have all had their turn can be put before others. -/
theorem append {before after : List FileFetch} {first second : List RequestedFetch}
    (h : List.Forall₂ R before first) (h' : Accompanied R after second) :
    Accompanied R (before ++ after) (first ++ second) := by
  induction h with
  | nil => exact h'
  | cons hfirst _ ih => exact .cons hfirst ih

/-- Files of which each has its fetch are accompanied by these fetches. -/
theorem of_forall₂ {files : List FileFetch} {fetches : List RequestedFetch} (h : List.Forall₂ R files fetches) :
    Accompanied R files fetches := by
  simpa using append h (.waiting [] (by simp))

/-- A file that does not wait has its fetch between those of the files before it and those of the files after it. -/
theorem split {before after : List FileFetch} {f : FileFetch} {fetches : List RequestedFetch}
    (h : Accompanied R (before ++ f :: after) fetches) (requested : f.state ≠ .waiting) :
    ∃ first fetch second, fetches = first ++ fetch :: second ∧ List.Forall₂ R before first ∧ R f fetch ∧
      Accompanied R after second := by
  induction before generalizing fetches with
  | nil =>
    cases h with
    | waiting _ hwaiting => exact absurd (hwaiting f List.mem_cons_self) requested
    | cons hf hafter => exact ⟨[], _, _, rfl, .nil, hf, hafter⟩
  | cons other before ih =>
    cases h with
    | waiting _ hwaiting => exact absurd (hwaiting f (by simp)) requested
    | cons hother hothers =>
      obtain ⟨first, fetch, second, rfl, hbefore, hf, hafter⟩ := ih hothers
      exact ⟨_ :: first, fetch, second, rfl, .cons hother hbefore, hf, hafter⟩

/-- What holds of files and their fetches may be exchanged for what follows from it. -/
theorem mono {files : List FileFetch} {fetches : List RequestedFetch} (h : Accompanied R files fetches)
    (imp : ∀ f ∈ files, ∀ fetch, R f fetch → R' f fetch) : Accompanied R' files fetches := by
  induction h with
  | waiting files hwaiting => exact .waiting files hwaiting
  | cons hfirst _ ih =>
    obtain ⟨hf, hfiles⟩ := List.forall_mem_cons.mp imp
    exact .cons (hf _ hfirst) (ih hfiles)

/-- What follows for each fetch from its file, holds of all fetches. -/
theorem forall_mem {motive : RequestedFetch → Prop} {files : List FileFetch} {fetches : List RequestedFetch}
    (h : Accompanied R files fetches) (each : ∀ f ∈ files, ∀ fetch, R f fetch → motive fetch) :
    ∀ fetch ∈ fetches, motive fetch := by
  induction h with
  | waiting files _ => simp
  | cons hfirst _ ih =>
    obtain ⟨hf, hfiles⟩ := List.forall_mem_cons.mp each
    exact List.forall_mem_cons.mpr ⟨hf _ hfirst, ih hfiles⟩

/-- The files that were requested are the first ones. -/
theorem map_file_prefix {files : List FileFetch} {fetches : List RequestedFetch}
    (h : Accompanied Follows files fetches) : fetches.map (·.file) <+: files.map (·.file) := by
  induction h with
  | waiting files _ => exact List.nil_prefix
  | cons hfirst _ ih =>
    rw [List.map_cons, List.map_cons, hfirst.file]
    exact (List.prefix_cons_inj _).mpr ih

end Accompanied

end FileFetch

end AdminConsole
