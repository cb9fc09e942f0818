import AdminConsole.Bundle.Run
import AdminConsole.Proofs.Bundle.Polling

/-!
# What a run requests and receives

Polling a run only adds to the history, with events of this run for files of its bundle, and it keeps the
list of files. What carries the counts is that a file is requested when it leaves its waiting state and fetched
to the end when it reaches the fetched one, and that it never comes back from either. So for each run and file,
the requests that were made grow by exactly the number of files that left the first state, and the deliveries by
the number of files that reached the second.
-/

set_option autoImplicit false

namespace AdminConsole

namespace Network

/-- How often a run requested a file. -/
def requestsOf (n : Network) (run : Nat) (file : String) : Nat :=
  n.events.countP fun event => event.phase == .start && event.run == run && event.file == file

/-- How often files were requested for a bundle. -/
def requestsFor (n : Network) (bundle : String) : Nat :=
  n.events.countP fun event => event.phase == .start && event.bundle == bundle

/-- How often a file was fetched to the end for an owner. -/
def deliveriesOf (n : Network) (owner : FetchOwner) (file : String) : Nat :=
  n.events.countP fun event =>
    event.phase == .done && event.run == owner.run && event.bundle == owner.bundle &&
      event.file == file

end Network

namespace FileFetch

/-- Whether the file was requested. -/
def isStarted (f : FileFetch) : Bool := f.state != .waiting

/-- How many of the files with this name were requested. -/
def started (files : List FileFetch) (file : String) : Nat :=
  files.countP fun f => f.isStarted && f.file == file

/-- Whether the file was fetched to the end. -/
def isFetched (f : FileFetch) : Bool := f.state == .fetched

/-- How many of the files with this name were fetched to the end. -/
def delivered (files : List FileFetch) (file : String) : Nat :=
  files.countP fun f => f.isFetched && f.file == file

/-! ## Counting files by events -/

/-- Whether as many events of a kind were added as files came so far since `files` and `n`. -/
def Counted (kind : FetchEvent → Bool) (cameSoFar : FileFetch → Bool) (files : List FileFetch) (n : Network)
    (files' : List FileFetch) (n' : Network) : Prop :=
  n'.events.countP kind + files.countP cameSoFar = n.events.countP kind + files'.countP cameSoFar

namespace Counted

variable {kind : FetchEvent → Bool} {cameSoFar : FileFetch → Bool} {files files' files'' : List FileFetch}
  {n n' n'' : Network}

/-- Where nothing happens nothing is counted. -/
theorem refl (kind : FetchEvent → Bool) (cameSoFar : FileFetch → Bool) (files : List FileFetch) (n : Network) :
    Counted kind cameSoFar files n files n :=
  rfl

/-- What is counted one after the other is counted together. -/
theorem trans (first : Counted kind cameSoFar files n files' n')
    (second : Counted kind cameSoFar files' n' files'' n'') : Counted kind cameSoFar files n files'' n'' := by
  unfold Counted at *
  omega

/-- One file that is counted is the list that is counted. -/
theorem inside {f f' : FileFetch} (h : Counted kind cameSoFar [f] n [f'] n') (before after : List FileFetch) :
    Counted kind cameSoFar (before ++ f :: after) n (before ++ f' :: after) n' := by
  have hsplit : ∀ g : FileFetch, (before ++ g :: after).countP cameSoFar =
      before.countP cameSoFar + [g].countP cameSoFar + after.countP cameSoFar := by
    intro g
    simp only [List.countP_append, List.countP_cons, List.countP_nil]
    omega
  unfold Counted at *
  rw [hsplit f, hsplit f']
  omega

end Counted

/-- Whether files and network came on for one owner. -/
structure Advanced (owner : FetchOwner) (files : List FileFetch) (n : Network)
    (files' : List FileFetch) (n' : Network) : Prop where
  /-- The files stay the same. -/
  names : files'.map (·.file) = files.map (·.file)
  /-- The new events are the owner's. -/
  events : ∃ fresh, n'.events = n.events ++ fresh ∧
    ∀ event ∈ fresh, event.run = owner.run ∧ event.bundle = owner.bundle
  /-- Each file that is no longer waiting was requested. -/
  requests : ∀ file, n'.requestsOf owner.run file + started files file =
    n.requestsOf owner.run file + started files' file
  /-- Each file that is fetched was fetched to the end. -/
  deliveries : ∀ file, n'.deliveriesOf owner file + delivered files file =
    n.deliveriesOf owner file + delivered files' file

namespace Advanced

variable {owner : FetchOwner} {files files' files'' : List FileFetch} {n n' n'' : Network}

/-- Files that were left alone came on by nothing. -/
theorem refl (owner : FetchOwner) (files : List FileFetch) (n : Network) :
    Advanced owner files n files n where
  names := rfl
  events := ⟨[], by simp, by simp⟩
  requests _ := Counted.refl _ _ files n
  deliveries _ := Counted.refl _ _ files n

/-- Files that came on twice came on. -/
theorem trans (first : Advanced owner files n files' n')
    (second : Advanced owner files' n' files'' n'') : Advanced owner files n files'' n'' where
  names := second.names.trans first.names
  events := by
    obtain ⟨fresh, hfresh, howner⟩ := first.events
    obtain ⟨more, hmore, howner'⟩ := second.events
    refine ⟨fresh ++ more, by rw [hmore, hfresh, List.append_assoc], ?_⟩
    intro event hevent
    rcases List.mem_append.mp hevent with h | h
    · exact howner event h
    · exact howner' event h
  requests file := Counted.trans (first.requests file) (second.requests file)
  deliveries file := Counted.trans (first.deliveries file) (second.deliveries file)

/-- One file coming on is the list coming on. -/
theorem inside {f f' : FileFetch} (h : Advanced owner [f] n [f'] n')
    (before after : List FileFetch) :
    Advanced owner (before ++ f :: after) n (before ++ f' :: after) n' where
  names := by
    have hname := h.names
    simp only [List.map_cons, List.map_nil, List.cons.injEq, and_true] at hname
    simp [hname]
  events := h.events
  requests file := Counted.inside (h.requests file) before after
  deliveries file := Counted.inside (h.deliveries file) before after

/-- Events that are not the owner's are as many as before. -/
theorem countP_of_others (h : Advanced owner files n files' n') {kind : FetchEvent → Bool}
    (others : ∀ event : FetchEvent, event.run = owner.run → event.bundle = owner.bundle → kind event = false) :
    n'.events.countP kind = n.events.countP kind := by
  obtain ⟨fresh, hevents, howner⟩ := h.events
  have hnone : fresh.countP kind = 0 := by
    rw [List.countP_eq_zero]
    intro event hevent
    obtain ⟨hrun, hbundle⟩ := howner event hevent
    simp [others event hrun hbundle]
  rw [hevents, List.countP_append, hnone, Nat.add_zero]

end Advanced

/-- A fetch that is started is requested, and not fetched yet. -/
theorem advanced_start (owner : FetchOwner) (now : Nat) (f : FileFetch) (n : Network) :
    Advanced owner [f] n [(f.start owner now n).1] (f.start owner now n).2 := by
  unfold start
  split
  · rename_i hwaiting
    refine ⟨rfl, ⟨[f.event owner now .start], rfl, by simp [event]⟩, ?_, ?_⟩
    · intro file
      by_cases hfile : f.file = file <;>
        simp [Network.requestsOf, Network.record, event, started, isStarted, hwaiting, hfile]
    · intro file
      simp [Network.deliveriesOf, Network.record, event, delivered, isFetched, hwaiting]
  · exact Advanced.refl owner [f] n

/-- A fetch that ends was requested before, and is fetched to the end unless it fails. -/
theorem advanced_finish (owner : FetchOwner) (now : Nat) (f : FileFetch) (n : Network) :
    Advanced owner [f] n [(f.finish owner now n).1] (f.finish owner now n).2 := by
  unfold finish
  split
  · rename_i first due failure hrunning
    split
    · cases failure with
      | none =>
        refine ⟨rfl, ⟨[f.event owner now .done], rfl, by simp [event]⟩, ?_, ?_⟩
        · intro file
          simp [Network.requestsOf, Network.record, event, started, isStarted, hrunning]
        · intro file
          by_cases hfile : f.file = file <;>
            simp [Network.deliveriesOf, Network.record, event, delivered, isFetched, hrunning, hfile]
      | some reason =>
        refine ⟨rfl, ⟨[f.event owner now .fail], rfl, by simp [event]⟩, ?_, ?_⟩
        · intro file
          simp [Network.requestsOf, Network.record, event, started, isStarted, hrunning]
        · intro file
          simp [Network.deliveriesOf, Network.record, event, delivered, isFetched, hrunning]
    · exact Advanced.refl owner [f] n
  · exact Advanced.refl owner [f] n

/-- Polling a fetch is starting it and ending it, as far as it can come. -/
theorem advanced_poll (owner : FetchOwner) (now : Nat) (f : FileFetch) (n : Network) :
    Advanced owner [f] n [(f.poll owner now n).1] (f.poll owner now n).2 :=
  (advanced_start owner now f n).trans (advanced_finish owner now _ _)

end FileFetch

namespace BundleRun

/-- A run stays one of its bundle. -/
theorem definition_poll (id now : Nat) (r : BundleRun) (n : Network) :
    (r.poll id now n).1.definition = r.definition := by
  unfold poll
  split <;> rfl

/-- **Polling a run makes only requests that it has not made**, and fetches what it has requested; all of it is its
own. -/
theorem advanced_poll (id now : Nat) (r : BundleRun) (n : Network) :
    FileFetch.Advanced ⟨id, r.definition.name⟩ r.files n (r.poll id now n).1.files
      (r.poll id now n).2 := by
  unfold poll
  split
  · apply Join.poll_induction (motive := fun files n' =>
      FileFetch.Advanced ⟨id, r.definition.name⟩ r.files n files n')
    · intro before f after n' _ h
      exact h.trans ((FileFetch.advanced_poll ⟨id, r.definition.name⟩ now f n').inside before after)
    · exact FileFetch.Advanced.refl _ r.files n
  · exact FileFetch.Advanced.refl _ r.files n

/-- A run that has ended is not polled any more. -/
theorem poll_of_ended (id now : Nat) {r : BundleRun} (n : Network)
    (h : r.status.isPending = false) : r.poll id now n = (r, n) := by
  rw [poll, h]
  rfl

end BundleRun

end AdminConsole
