import AdminConsole.Proofs.Bundle.Fetches
import AdminConsole.Proofs.Bundle.Turns

/-!
# The history of a run

What the history tells of a run fits its files at any time. The fetches of a run are those of its first files, in
order, and the files after them wait. In a serial bundle a file is requested only when all before it were fetched, so
that the trace is that of one file after the other. In a bundle that is not serial all files are requested by the
first poll, unless one of their fetches takes no time. Main statement: what holds of a run that begins, and is kept
when the run is polled, holds of it at any time, whatever others do at the loader.
-/

set_option autoImplicit false

namespace AdminConsole

open Network (Continued)

namespace BundleRun

/-- A file goes on as a part of its bundle while it goes on by itself. -/
@[simp] theorem isPending_fileStatus (bundle : String) (f : FileFetch) :
    (fileStatus bundle f).isPending = f.status.isPending := by
  cases h : f.status <;> simp [fileStatus, h, Progress.isPending]

/-- A file has failed as a part of its bundle if it has failed by itself. -/
@[simp] theorem isFailed_fileStatus (bundle : String) (f : FileFetch) :
    (fileStatus bundle f).isFailed = f.status.isFailed := by
  cases h : f.status <;> simp [fileStatus, h, Progress.isFailed]

end BundleRun

namespace FileFetch

open BundleRun (fileStatus)

/-- A file that has ended does not wait. -/
theorem requested_of_ended {f : FileFetch} (h : f.status.isPending = false) : f.state ≠ .waiting := by
  intro hwaiting
  simp [status, hwaiting, Progress.isPending] at h

/-! ## Files that had their turn and files that did not -/

/-- Whether the fetches of a run are those of some files that had their turn, followed by those of the files that
did not. -/
def Divided (R R' : FileFetch → RequestedFetch → Prop) (run : Nat) (before after : List FileFetch) (n : Network) :
    Prop :=
  ∃ first second, n.fetchesOf run = first ++ second ∧ List.Forall₂ R before first ∧ Accompanied R' after second

namespace Divided

variable {R R' : FileFetch → RequestedFetch → Prop} {run : Nat} {before after : List FileFetch} {f : FileFetch}
  {n : Network}

/-- Before a poll no file has had its turn. -/
theorem start {files : List FileFetch} (h : Accompanied R' files (n.fetchesOf run)) :
    Divided R R' run [] files n :=
  ⟨[], n.fetchesOf run, rfl, .nil, h⟩

/-- After a poll the files are accompanied by the fetches of the run, whether they had their turn or not. -/
theorem accompanied (h : Divided R R run before after n) : Accompanied R (before ++ after) (n.fetchesOf run) := by
  obtain ⟨first, second, hfetches, hbefore, hafter⟩ := h
  rw [hfetches]
  exact hafter.append hbefore

/-- A file that was requested before has its turn without being polled. -/
theorem passed (h : Divided R R' run before (f :: after) n) (requested : f.state ≠ .waiting)
    (turned : ∀ fetch, R' f fetch → R f fetch) : Divided R R' run (before ++ [f]) after n := by
  obtain ⟨first, second, hfetches, hbefore, hafter⟩ := h
  cases hafter with
  | waiting _ hwaiting => exact absurd (hwaiting f List.mem_cons_self) requested
  | @cons _ fetch _ rest hf hrest =>
    exact ⟨first ++ [fetch], rest, by rw [hfetches, List.append_assoc]; rfl,
      List.rel_append hbefore (.cons (turned fetch hf) .nil), hrest⟩

/-- **A file that is polled** has a fetch from then on, if it had none. -/
theorem polled {owner : FetchOwner} (h : Divided R R' owner.run before (f :: after) n) (now : Nat)
    (pending : f.status.isPending = true) (follows : ∀ fetch, R' f fetch → f.Follows fetch)
    (turned : ∀ f' fetch, Polled now f' fetch → R f' fetch) :
    Divided R R' owner.run (before ++ [(f.poll owner now n).1]) after (f.poll owner now n).2 := by
  obtain ⟨first, second, hfetches, hbefore, hafter⟩ := h
  cases hafter with
  | waiting _ hwaiting =>
    obtain ⟨hf, hothers⟩ := List.forall_mem_cons.mp hwaiting
    obtain ⟨file, state⟩ := f
    obtain rfl : state = .waiting := hf
    obtain ⟨fetch, f', n', ending, hpoll, _, hcontinued, hpolled, _⟩ := poll_of_waiting owner now n file
    rw [hpoll]
    exact ⟨first ++ [fetch], [], by rw [hcontinued.fetches, hfetches]; simp,
      List.rel_append hbefore (.cons (turned f' fetch hpolled) .nil), .waiting after hothers⟩
  | @cons _ fetch _ rest hf hrest =>
    cases follows fetch hf with
    | running _ started =>
      obtain ⟨f', n', ending, hpoll, hcontinued, hpolled, _⟩ := poll_of_running owner now n fetch started
      rw [hpoll]
      exact ⟨first ++ [fetch], rest, by rw [hcontinued.fetches, hfetches]; simp,
        List.rel_append hbefore (.cons (turned f' fetch hpolled) .nil), hrest⟩
    | fetched _ _ => cases pending
    | failed _ _ _ => cases pending

end Divided

/-! ## One file after another -/

/-- Whether files are fetched one after another: those behind one that is not fetched wait, and the trace goes from
file to file. -/
structure OneByOne (files : List FileFetch) (trace : List (FetchPhase × String)) : Prop where
  order : files.Pairwise fun f g => f.state = .fetched ∨ g.state = .waiting
  trace : trace = files.flatMap shown

section

variable {owner : FetchOwner} {now : Nat} {before after files : List FileFetch} {f : FileFetch} {n : Network}

/-- Nothing is shown of files that wait. -/
theorem flatMap_shown_of_waiting (h : ∀ f ∈ files, f.state = .waiting) : files.flatMap shown = [] := by
  rw [List.flatMap_eq_nil_iff]
  intro f hf
  rw [shown, h f hf]

/-- Files are fetched one after another when one is polled of which all files before it are fetched. -/
theorem OneByOne.polled (h : OneByOne (before ++ f :: after) (n.traceOf owner.run))
    (done : ∀ g ∈ before, g.state = .fetched) (pending : f.status.isPending = true) :
    OneByOne (before ++ [(f.poll owner now n).1] ++ after) ((f.poll owner now n).2.traceOf owner.run) := by
  obtain ⟨hbefore, hrest, _⟩ := List.pairwise_append.mp h.order
  obtain ⟨hlater, hafter⟩ := List.pairwise_cons.mp hrest
  have hwaiting : ∀ g ∈ after, g.state = .waiting := by
    intro g hg
    refine (hlater g hg).resolve_left ?_
    intro hfetched
    simp [status, hfetched, Progress.isPending] at pending
  obtain ⟨fetches, more, hcontinued, hshown⟩ := exists_shown_poll owner now n f
  rw [List.append_assoc]
  refine ⟨List.pairwise_append.mpr ⟨hbefore, List.pairwise_cons.mpr ⟨?_, hafter⟩, ?_⟩, ?_⟩
  · exact fun g hg => .inr (hwaiting g hg)
  · exact fun g hg _ _ => .inl (done g hg)
  · have htrace := h.trace
    rw [List.flatMap_append, List.flatMap_cons, flatMap_shown_of_waiting hwaiting] at htrace
    rw [hcontinued.trace, htrace, List.flatMap_append, List.singleton_append, List.flatMap_cons,
      flatMap_shown_of_waiting hwaiting, hshown]
    simp

/-- **Polling a serial list** goes on with the first file that is not fetched, and with the next ones as long as all
are fetched at once. -/
theorem oneByOne_poll (bundle : String) (owner : FetchOwner) (now : Nat)
    (accompanied : Accompanied Follows files (n.fetchesOf owner.run)) (h : OneByOne files (n.traceOf owner.run)) :
    let polled := Join.poll .serial (fileStatus bundle) (woken now) (poll owner now) files n
    Accompanied Follows polled.1 (polled.2.fetchesOf owner.run) ∧ OneByOne polled.1 (polled.2.traceOf owner.run) := by
  have hdone : ∀ {others : List FileFetch}, Join.Going .serial (fileStatus bundle) others →
      ∀ g ∈ others, g.state = .fetched := by
    intro others hgoing g hg
    have hstops := hgoing g hg
    cases hstate : g.state <;> simp_all [fileStatus, status, Join.stops]
  obtain ⟨turned, left, hsplit, ⟨hdivided, honeByOne⟩, _⟩ := Join.advance_in_turn .serial (fileStatus bundle)
    (motive := fun before after n => Divided Follows Follows owner.run before after n ∧
      OneByOne (before ++ after) (n.traceOf owner.run))
    (fun before f after n _ hended h =>
      ⟨h.1.passed (requested_of_ended (by simpa using hended)) (fun _ hf => hf), by
        rw [List.append_assoc]
        exact h.2⟩)
    (fun before f after n hgoing hpending h =>
      ⟨h.1.polled now (by simpa using hpending) (fun _ hf => hf) (fun _ _ hf => hf.follows),
        h.2.polled (hdone hgoing) (by simpa using hpending)⟩)
    [] files n (by simp [Join.Going]) ⟨.start accompanied, h⟩
  rw [List.nil_append] at hsplit
  exact ⟨hsplit ▸ hdivided.accompanied, hsplit ▸ honeByOne⟩

end

/-! ## All files at once -/

/-- Whether a trace begins with the requests for all files, unless some fetch takes no time. -/
def RequestedFirst (files : List FileFetch) (fetches : List RequestedFetch) (trace : List (FetchPhase × String)) :
    Prop :=
  (∃ fetch ∈ fetches, fetch.rule.delay = 0) ∨
    ∃ ends, trace = files.map (fun f => (.start, f.file)) ++ ends ∧ ∀ entry ∈ ends, entry.1 ≠ .start

/-- What holds within the first poll of files that are not fetched one after another, of those that had their turn and
those that did not. -/
structure FirstTurns (run : Nat) (turned left : List FileFetch) (n : Network) : Prop where
  divided : Divided Follows Follows run turned left n
  requested : ∀ f ∈ turned, f.state ≠ .waiting
  waiting : ∀ f ∈ left, f.state = .waiting
  lasting : (∃ fetch ∈ n.fetchesOf run, fetch.rule.delay = 0) ∨
    n.traceOf run = turned.map (fun f => (.start, f.file)) ∧ ∀ f ∈ turned, f.status.isPending = true

section

variable {owner : FetchOwner} {now : Nat} {files : List FileFetch} {n : Network}

/-- A file that waits goes on. -/
theorem isPending_of_waiting {f : FileFetch} (h : f.state = .waiting) : f.status.isPending = true := by
  rw [status, h]
  rfl

/-- In the first poll of its run a file that is polled is requested, and ends at once only if its fetch takes no time.
-/
theorem FirstTurns.polled {before after : List FileFetch} {f : FileFetch}
    (h : FirstTurns owner.run before (f :: after) n) :
    FirstTurns owner.run (before ++ [(f.poll owner now n).1]) after (f.poll owner now n).2 := by
  obtain ⟨file, state⟩ := f
  obtain ⟨hwaiting, hlater⟩ := List.forall_mem_cons.mp h.waiting
  obtain rfl : state = .waiting := hwaiting
  have hdivided := h.divided.polled now rfl (fun _ hf => hf) (fun _ _ hf => hf.follows)
  obtain ⟨fetch, f', n', ending, hpoll, hfile, hcontinued, hpolled, _, hlasts⟩ := poll_of_waiting owner now n file
  rw [hpoll] at hdivided ⊢
  refine ⟨hdivided, ?_, hlater, ?_⟩
  · rw [List.forall_mem_append]
    exact ⟨h.requested, by simpa using hpolled.follows.requested⟩
  · rw [hcontinued.fetches, hcontinued.trace]
    rcases h.lasting with ⟨other, hother, hdelay⟩ | ⟨htrace, hgoing⟩
    · exact .inl ⟨other, List.mem_append_left _ hother, hdelay⟩
    · rcases Nat.eq_zero_or_pos fetch.rule.delay with hdelay | hdelay
      · exact .inl ⟨fetch, by simp, hdelay⟩
      · obtain ⟨rfl, hgoes⟩ := hlasts hdelay
        refine .inr ⟨?_, ?_⟩
        · rw [htrace, List.map_append, List.map_singleton, hpolled.follows.file, hfile]
        · rw [List.forall_mem_append]
          exact ⟨hgoing, by simpa using hgoes⟩

/-- **The first poll of a list that is not serial** requests all its files, unless the list has failed before, and
nothing ends with it, unless some fetch takes no time. -/
theorem requestedFirst_first_poll {mode : JoinMode} (concurrent : mode ≠ .serial) (bundle : String)
    (owner : FetchOwner) (now : Nat) (accompanied : Accompanied Follows files (n.fetchesOf owner.run))
    (waits : ∀ f ∈ files, f.state = .waiting) (quiet : n.traceOf owner.run = []) :
    let polled := Join.poll mode (fileStatus bundle) (woken now) (poll owner now) files n
    Accompanied Follows polled.1 (polled.2.fetchesOf owner.run) ∧
      RequestedFirst polled.1 (polled.2.fetchesOf owner.run) (polled.2.traceOf owner.run) ∧
      ((∀ f ∈ polled.1, f.state ≠ .waiting) ∨ (Join.outcome mode (fileStatus bundle) polled.1).isFailed = true) := by
  have hpending : ∀ f ∈ files, (fileStatus bundle f).isPending = true := by
    intro f hf
    rw [BundleRun.isPending_fileStatus]
    exact isPending_of_waiting (waits f hf)
  obtain ⟨turned, left, hsplit, hturns, hend⟩ :=
    Join.poll_in_turn (motive := FirstTurns owner.run) concurrent (woken now) (fun _ _ _ _ h => h.polled) files n
      hpending (fun f hf => by rw [woken, waits f hf])
      ⟨.start accompanied, by simp, waits, .inr ⟨quiet, by simp⟩⟩
  dsimp only
  rw [hsplit]
  refine ⟨hturns.divided.accompanied, ?_, ?_⟩
  · rcases hturns.lasting with hdelay | ⟨htrace, hgoing⟩
    · exact .inl hdelay
    · rcases hend with rfl | hfailed
      · exact .inr ⟨[], by rw [htrace, List.append_nil, List.append_nil], by simp⟩
      · -- none of the files can have ended
        obtain ⟨e, hfailed⟩ := Progress.isFailed_iff.mp hfailed
        obtain ⟨before, f, after, hsplit', hf, _⟩ := (Join.outcome_eq_failed_iff mode _ e).mp hfailed
        have hgoes : ∀ g ∈ turned ++ left, g.status.isPending = true :=
          List.forall_mem_append.mpr ⟨hgoing, fun g hg => isPending_of_waiting (hturns.waiting g hg)⟩
        have hfgoes := hgoes f (by rw [hsplit']; simp)
        rw [← BundleRun.isPending_fileStatus bundle, hf] at hfgoes
        cases hfgoes
  · rcases hend with rfl | hfailed
    · rw [List.append_nil]
      exact .inl hturns.requested
    · exact .inr hfailed

/-- **The later polls** only let fetches end. -/
theorem requestedFirst_later_poll (mode : JoinMode) (bundle : String) (owner : FetchOwner) (now : Nat)
    (accompanied : Accompanied Follows files (n.fetchesOf owner.run)) (requested : ∀ f ∈ files, f.state ≠ .waiting)
    (h : RequestedFirst files (n.fetchesOf owner.run) (n.traceOf owner.run)) :
    let polled := Join.poll mode (fileStatus bundle) (woken now) (poll owner now) files n
    Accompanied Follows polled.1 (polled.2.fetchesOf owner.run) ∧ (∀ f ∈ polled.1, f.state ≠ .waiting) ∧
      RequestedFirst polled.1 (polled.2.fetchesOf owner.run) (polled.2.traceOf owner.run) := by
  apply Join.poll_induction (motive := fun files (n : Network) => Accompanied Follows files (n.fetchesOf owner.run) ∧
    (∀ f ∈ files, f.state ≠ .waiting) ∧ RequestedFirst files (n.fetchesOf owner.run) (n.traceOf owner.run))
  · rintro before f after n hpending ⟨haccompanied, hrequested, hfirst⟩
    rw [BundleRun.isPending_fileStatus] at hpending
    obtain ⟨hbefore, hrest⟩ := List.forall_mem_append.mp hrequested
    obtain ⟨hf, hafter⟩ := List.forall_mem_cons.mp hrest
    obtain ⟨first, fetch, second, hfetches, hfirsts, hfollows, hsecond⟩ := haccompanied.split hf
    have hdivided : Divided Follows Follows owner.run before (f :: after) n :=
      ⟨first, fetch :: second, hfetches, hfirsts, .cons hfollows hsecond⟩
    have hpolled := (hdivided.polled now hpending (fun _ hf => hf) (fun _ _ hf => hf.follows)).accompanied
    cases hfollows with
    | fetched _ _ => cases hpending
    | failed _ _ _ => cases hpending
    | running _ started =>
      obtain ⟨f', n', ending, hpoll, hcontinued, hf', _, hends, _⟩ := poll_of_running owner now n fetch started
      rw [hpoll, List.append_assoc, List.singleton_append] at hpolled
      rw [hpoll]
      refine ⟨hpolled, ?_, ?_⟩
      · exact List.forall_mem_append.mpr ⟨hbefore, List.forall_mem_cons.mpr ⟨hf'.follows.requested, hafter⟩⟩
      · rw [hcontinued.fetches, hcontinued.trace, List.append_nil]
        refine hfirst.imp id ?_
        rintro ⟨ends, htrace, hnone⟩
        refine ⟨ends ++ ending, ?_, List.forall_mem_append.mpr ⟨hnone, hends⟩⟩
        rw [htrace, List.append_assoc]
        simp [hf'.follows.file]
  · exact ⟨accompanied, requested, h⟩

/-- What is shown of a file is in the trace. -/
theorem shown_poll (mode : JoinMode) (bundle : String) (owner : FetchOwner) (now : Nat)
    (h : ∀ f ∈ files, f.shown ⊆ n.traceOf owner.run) :
    let polled := Join.poll mode (fileStatus bundle) (woken now) (poll owner now) files n
    ∀ f ∈ polled.1, f.shown ⊆ polled.2.traceOf owner.run := by
  apply Join.poll_induction (motive := fun (files : List FileFetch) (n : Network) =>
    ∀ f ∈ files, f.shown ⊆ n.traceOf owner.run)
  · intro before f after n _ hshown
    obtain ⟨hbefore, hrest⟩ := List.forall_mem_append.mp hshown
    obtain ⟨hf, hafter⟩ := List.forall_mem_cons.mp hrest
    obtain ⟨fetches, more, hcontinued, hmore⟩ := exists_shown_poll owner now n f
    rw [hcontinued.trace, List.forall_mem_append, List.forall_mem_cons, hmore]
    exact ⟨fun g hg => List.subset_append_of_subset_left _ (hbefore g hg),
      List.append_subset.mpr ⟨List.subset_append_of_subset_left _ hf, List.subset_append_right _ _⟩,
      fun g hg => List.subset_append_of_subset_left _ (hafter g hg)⟩
  · exact h

/-- Polling a file leaves the plan of all fetches as it is. -/
theorem plan_poll (owner : FetchOwner) (now : Nat) (f : FileFetch) (n : Network) :
    (f.poll owner now n).2.plan = n.plan := by
  have hstart : (f.start owner now n).2.plan = n.plan := by
    unfold start
    split <;> rfl
  have hfinish : ∀ (f : FileFetch) (n : Network), (f.finish owner now n).2.plan = n.plan := by
    intro f n
    unfold finish
    split
    · split
      · split <;> rfl
      · rfl
    · rfl
  exact (hfinish _ _).trans hstart

end

end FileFetch

namespace BundleRun

open FileFetch (Accompanied Follows OneByOne RequestedFirst)

/-- What the fetches and the trace of a run say of its files. -/
structure Recorded (r : BundleRun) (fetches : List RequestedFetch) (trace : List (FetchPhase × String)) : Prop where
  accompanied : Accompanied Follows r.files fetches
  shown : ∀ f ∈ r.files, f.shown ⊆ trace
  serial : r.mode = .serial → OneByOne r.files trace
  /-- A run that is not serial was not polled, or has requested all its files, if it has not failed before. -/
  concurrent : r.mode ≠ .serial → (∀ f ∈ r.files, f.state = .waiting) ∧ trace = [] ∨
    RequestedFirst r.files fetches trace ∧ ((∀ f ∈ r.files, f.state ≠ .waiting) ∨ r.status.isFailed = true)

/-- The empty history fits the files of a run that begins. -/
theorem recorded_begin (definition : BundleDefinition) : (BundleRun.begin definition).Recorded [] [] := by
  have hwaits : ∀ f ∈ (BundleRun.begin definition).files, f.state = .waiting := by
    intro f hf
    obtain ⟨file, _, rfl⟩ := List.mem_map.mp hf
    rfl
  refine ⟨.waiting _ hwaits, ?_, fun _ => ⟨?_, ?_⟩, fun _ => .inl ⟨hwaits, rfl⟩⟩
  · intro f hf
    rw [FileFetch.shown, hwaits f hf]
    exact List.nil_subset []
  · exact List.pairwise_of_forall_mem_list fun f _ g hg => .inr (hwaits g hg)
  · exact (FileFetch.flatMap_shown_of_waiting hwaits).symm

/-- Polling a run leaves the plan of all fetches as it is. -/
theorem plan_poll (id now : Nat) (r : BundleRun) (n : Network) : (r.poll id now n).2.plan = n.plan := by
  unfold poll
  split
  · apply Join.poll_induction (motive := fun _ (n' : Network) => n'.plan = n.plan)
    · intro before f after n' _ h
      exact (FileFetch.plan_poll _ now f n').trans h
    · rfl
  · rfl

/-- A poll of a run that goes on is one of its files. -/
theorem poll_of_pending (run now : Nat) {r : BundleRun} (n : Network) (pending : r.status.isPending = true) :
    r.poll run now n =
      ({ r with files := (Join.poll r.mode (fileStatus r.definition.name) (FileFetch.woken now)
          (FileFetch.poll ⟨run, r.definition.name⟩ now) r.files n).1 },
        (Join.poll r.mode (fileStatus r.definition.name) (FileFetch.woken now)
          (FileFetch.poll ⟨run, r.definition.name⟩ now) r.files n).2) := by
  rw [BundleRun.poll, if_pos pending]

/-- **The history of a run keeps fitting its files** when the run is polled. -/
theorem Recorded.poll {r : BundleRun} {run now : Nat} {n : Network}
    (h : r.Recorded (n.fetchesOf run) (n.traceOf run)) (pending : r.status.isPending = true) :
    (r.poll run now n).1.Recorded ((r.poll run now n).2.fetchesOf run) ((r.poll run now n).2.traceOf run) := by
  have hshown := FileFetch.shown_poll r.mode r.definition.name ⟨run, r.definition.name⟩ now h.shown
  rw [poll_of_pending run now n pending]
  by_cases hmode : r.mode = .serial
  · obtain ⟨haccompanied, honeByOne⟩ :=
      FileFetch.oneByOne_poll r.definition.name ⟨run, r.definition.name⟩ now h.accompanied (h.serial hmode)
    rw [hmode] at hshown ⊢
    exact ⟨haccompanied, hshown, fun _ => honeByOne, fun hserial => absurd hmode hserial⟩
  · rcases h.concurrent hmode with ⟨hwaits, hquiet⟩ | ⟨hfirst, hrequested⟩
    · obtain ⟨haccompanied, hfirst, hrequested⟩ :=
        FileFetch.requestedFirst_first_poll hmode r.definition.name ⟨run, r.definition.name⟩ now h.accompanied hwaits
          hquiet
      exact ⟨haccompanied, hshown, fun hserial => absurd hserial hmode, fun _ => .inr ⟨hfirst, hrequested⟩⟩
    · have hall : ∀ f ∈ r.files, f.state ≠ .waiting := by
        refine hrequested.resolve_right ?_
        intro hfailed
        cases hstatus : r.status <;> simp_all [Progress.isPending, Progress.isFailed]
      obtain ⟨haccompanied, hrequested, hfirst⟩ :=
        FileFetch.requestedFirst_later_poll r.mode r.definition.name ⟨run, r.definition.name⟩ now h.accompanied hall
          hfirst
      exact ⟨haccompanied, hshown, fun hserial => absurd hserial hmode, fun _ => .inr ⟨hfirst, .inl hrequested⟩⟩

end BundleRun

namespace Loader

variable {P : BundleRun → List RequestedFetch → List (FetchPhase × String) → Prop} {l : Loader} {run : Nat}

/-- Whether something holds of a run and its history, if it has begun. -/
def HoldsOf (P : BundleRun → List RequestedFetch → List (FetchPhase × String) → Prop) (l : Loader) (run : Nat) :
    Prop :=
  ∀ r, l.runs[run]? = some r → P r (l.network.fetchesOf run) (l.network.traceOf run)

/-- What holds of a run that begins holds when a call has entered, as entering fetches nothing. -/
theorem HoldsOf.enter {Noticed : Nat → Prop} (h : l.HoldsOf P run) (coherent : l.Coherent Noticed)
    (begins : ∀ definition, P (BundleRun.begin definition) [] []) (name : String) :
    (l.enter name).2.HoldsOf P run := by
  intro r hr
  rw [l.network_enter name]
  rcases l.enter_cases name with ⟨hsame, _⟩ | ⟨definition, _, _, hbegin⟩
  · rw [hsame] at hr
    exact h r hr
  · rw [hbegin] at hr
    rcases getElem?_begin hr with hr | ⟨rfl, rfl⟩
    · exact h r hr
    · have hothers : ∀ event ∈ l.network.events, event.run ≠ l.runs.length := fun event hevent =>
        Nat.ne_of_lt (coherent.owned event hevent)
      have hquiet : Continued l.runs.length (Network.quiet l.network.plan) [] [] l.network :=
        .of_others rfl (List.nil_append _).symm hothers
      rw [hquiet.fetches, hquiet.trace]
      exact begins definition

/-- What the polls of a run keep holds when any run has been polled, as the polls of others are none of its history. -/
theorem HoldsOf.pollRun (h : l.HoldsOf P run) (now polled : Nat)
    (keeps : polled = run → ∀ r, l.runs[run]? = some r → r.status.isPending = true →
      P r (l.network.fetchesOf run) (l.network.traceOf run) →
      P (r.poll run now l.network).1 ((r.poll run now l.network).2.fetchesOf run)
        ((r.poll run now l.network).2.traceOf run)) :
    (l.pollRun now polled).HoldsOf P run := by
  rcases l.pollRun_cases now polled with hsame | ⟨q, hq, hpending, hpoll⟩
  · rw [hsame]
    exact h
  · rw [hpoll]
    intro r hr
    rcases getElem?_set hr with ⟨rfl, rfl⟩ | ⟨hne, hr⟩
    · exact keeps rfl q hq hpending (h q hq)
    · obtain ⟨fresh, hevents, howner⟩ := (BundleRun.advanced_poll polled now q l.network).events
      have hothers : ∀ event ∈ fresh, event.run ≠ run := by
        intro event hevent
        rw [(howner event hevent).1]
        exact fun e => hne e.symm
      have hcontinued := Continued.of_others (BundleRun.plan_poll polled now q l.network) hevents hothers
      rw [hcontinued.fetches, hcontinued.trace, List.append_nil, List.append_nil]
      exact h r hr

end Loader

namespace LoadTraffic

/-- The instant at which a move polls a run, if it does. -/
def polledAt? (s : LoadTraffic) (run : Nat) : LoadMove → Option Nat
  | .poll place now =>
      match s.callAt place with
      | some ⟨.waiting _ polled, _⟩ => if polled = run then some now else none
      | _ => none
  | _ => none

/-- Whether a run is polled only when it may be. -/
def PolledWhen (allowed : BundleRun → Nat → Prop) (s : LoadTraffic) (run : Nat) : List LoadMove → Prop
  | [] => True
  | move :: moves =>
      (∀ now ∈ s.polledAt? run move, ∀ r ∈ s.loader.runs[run]?, allowed r now) ∧
        (s.step move).PolledWhen allowed run moves

/-- Whether a run is polled only when it may be can be decided move by move, if this can be at each instant. -/
instance decidablePolledWhen (allowed : BundleRun → Nat → Prop) [∀ r now, Decidable (allowed r now)]
    (s : LoadTraffic) (run : Nat) : (moves : List LoadMove) → Decidable (s.PolledWhen allowed run moves)
  | [] => .isTrue trivial
  | move :: moves =>
      have := decidablePolledWhen allowed (s.step move) run moves
      inferInstanceAs (Decidable (_ ∧ _))

section

variable {P : BundleRun → List RequestedFetch → List (FetchPhase × String) → Prop}
  {allowed : BundleRun → Nat → Prop} {run : Nat}

/-- **What the polls of a run keep, holds of the run at any time**, whatever happens at the loader. -/
theorem holdsOf_run (begins : ∀ definition, P (BundleRun.begin definition) [] [])
    (keeps : ∀ r n now, r.status.isPending = true → allowed r now → P r (n.fetchesOf run) (n.traceOf run) →
      P (r.poll run now n).1 ((r.poll run now n).2.fetchesOf run) ((r.poll run now n).2.traceOf run))
    {s : LoadTraffic} (orderly : s.Orderly) (h : s.loader.HoldsOf P run) (moves : List LoadMove)
    (polledWhen : s.PolledWhen allowed run moves) : (s.run moves).loader.HoldsOf P run := by
  induction moves generalizing s with
  | nil => exact h
  | cons move moves ih =>
    obtain ⟨hallowed, hlater⟩ := polledWhen
    refine ih (orderly.step move) ?_ hlater
    cases move with
    | call name => exact h
    | enter place =>
      simp only [step]
      split
      · rename_i name inside _
        exact h.enter orderly.coherent begins name
      · exact h
    | poll place now =>
      simp only [step]
      split
      · rename_i name polled inside hcall
        refine h.pollRun now polled ?_
        rintro rfl r hr hpending hP
        have hpolled : s.polledAt? polled (.poll place now) = some now := by
          simp only [polledAt?, hcall, if_true]
        exact keeps r s.loader.network now hpending (hallowed now hpolled r hr) hP
      · exact h
    | leave place =>
      simp only [step]
      split
      · rename_i name left hcall
        intro r hr
        simp only [put, Loader.runs_leave] at hr
        simp only [put, Loader.network_leave]
        exact h r hr
      · exact h
    | drop place =>
      simp only [step]
      split <;> exact h

/-- A run is polled only when it may be, if it may be at any time. -/
theorem polledWhen_of_forall (always : ∀ r now, allowed r now) (s : LoadTraffic) (run : Nat)
    (moves : List LoadMove) : s.PolledWhen allowed run moves := by
  induction moves generalizing s with
  | nil => trivial
  | cons move moves ih => exact ⟨fun now _ r _ => always r now, ih (s.step move)⟩

end

/-- **The history of every run fits its files** at any time. -/
theorem recorded_run {s : LoadTraffic} (orderly : s.Orderly) {run : Nat}
    (h : s.loader.HoldsOf BundleRun.Recorded run) (moves : List LoadMove) :
    (s.run moves).loader.HoldsOf BundleRun.Recorded run := by
  have halways : s.PolledWhen (fun _ _ => True) run moves := polledWhen_of_forall (fun _ _ => trivial) s run moves
  exact holdsOf_run BundleRun.recorded_begin (fun _ _ _ hpending _ h => h.poll hpending) orderly h moves halways

end LoadTraffic

end AdminConsole
