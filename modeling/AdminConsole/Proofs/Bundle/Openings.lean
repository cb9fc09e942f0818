import AdminConsole.Proofs.Bundle.LoadTraffic
import AdminConsole.Proofs.Bundle.Outcomes

/-!
# How a run begins

A run of a bundle that has files is opened by the first poll: this poll requests the first file of the bundle
before it requests any other, whatever the mode in which the files are fetched. A bundle with very many files is
no exception, as its files are polled in the order in which they were woken, and at the start they count as
woken together. Main statement: at any time a run has either not been polled, and then it has requested nothing,
or the first file that it has requested is the first of its bundle.
-/

set_option autoImplicit false

namespace AdminConsole

namespace Network

/-- The files that a run has requested, in order. -/
def requestedBy (n : Network) (run : Nat) : List String :=
  (n.events.filter fun event => event.phase == .start && event.run == run).map (·.file)

/-- The requests of a longer history are those of its beginning, followed by those among the new events. -/
theorem requestedBy_of_append {n n' : Network} {fresh : List FetchEvent}
    (h : n'.events = n.events ++ fresh) (run : Nat) :
    n'.requestedBy run = n.requestedBy run ++
      (fresh.filter fun event => event.phase == .start && event.run == run).map (·.file) := by
  simp [requestedBy, h]

/-- What others do is none of a run's requests. -/
theorem requestedBy_of_others {n n' : Network} {fresh : List FetchEvent}
    (h : n'.events = n.events ++ fresh) {run : Nat} (others : ∀ event ∈ fresh, event.run ≠ run) :
    n'.requestedBy run = n.requestedBy run := by
  have hnone : (fresh.filter fun event => event.phase == .start && event.run == run) = [] := by
    rw [List.filter_eq_nil_iff]
    intro event hevent
    simp [others event hevent]
  rw [requestedBy_of_append h, hnone]
  simp

/-- The first request of a run stays the first. -/
theorem head?_requestedBy_of_append {n n' : Network} {fresh : List FetchEvent}
    (h : n'.events = n.events ++ fresh) {run : Nat} {file : String}
    (first : (n.requestedBy run).head? = some file) : (n'.requestedBy run).head? = some file := by
  rw [requestedBy_of_append h, List.head?_append, first]
  rfl

end Network

namespace Waking

/-- Of two computations one was woken no later than the other. -/
theorem notAfter_total (a b : Waking) : (a.notAfter b || b.notAfter a) = true := by
  cases a <;> cases b <;> simp [notAfter] <;> omega

/-- What was woken no later than something is no later than what comes after that. -/
theorem notAfter_trans (a b c : Waking) (first : a.notAfter b = true) (second : b.notAfter c = true) :
    a.notAfter c = true := by
  cases a <;> cases b <;> cases c <;> simp_all [notAfter] <;> omega

end Waking

namespace Join

variable {α σ ε : Type} {status : α → Progress ε} {pollItem : α → σ → α × σ}

/-! ## The order of waking -/

/-- A computation is put between those that were woken before it and the others. -/
theorem queue_append {entry : Waking × Nat} {earlier later : List (Waking × Nat)}
    (before : ∀ other ∈ earlier, entry.1.notAfter other.1 = false)
    (after : ∀ other ∈ later, entry.1.notAfter other.1 = true) :
    queue entry (earlier ++ later) = earlier ++ entry :: later := by
  induction earlier with
  | nil =>
    cases later with
    | nil => rfl
    | cons next more => exact if_pos (after next List.mem_cons_self)
  | cons next more ih =>
    obtain ⟨hnext, hmore⟩ := List.forall_mem_cons.mp before
    have hpassed : queue entry (next :: (more ++ later)) = next :: queue entry (more ++ later) := by
      rw [queue, hnext]
      rfl
    rw [List.cons_append, hpassed, ih hmore, List.cons_append]

/-- **The queue is sorted by waking**, and what was woken together keeps its order. -/
theorem foldr_queue (entries : List (Waking × Nat)) :
    entries.foldr queue [] = entries.mergeSort fun a b => a.1.notAfter b.1 := by
  have htrans : ∀ a b c : Waking × Nat, a.1.notAfter b.1 = true → b.1.notAfter c.1 = true →
      a.1.notAfter c.1 = true := fun a b c => Waking.notAfter_trans a.1 b.1 c.1
  have htotal : ∀ a b : Waking × Nat, (a.1.notAfter b.1 || b.1.notAfter a.1) = true :=
    fun a b => Waking.notAfter_total a.1 b.1
  induction entries with
  | nil => exact List.mergeSort_nil.symm
  | cons entry entries ih =>
    obtain ⟨earlier, later, hsorted, hothers, hbefore⟩ := List.mergeSort_cons htrans htotal entry entries
    have hpairs := List.pairwise_mergeSort htrans htotal (entry :: entries)
    rw [hsorted, List.pairwise_append] at hpairs
    rw [List.foldr_cons, ih, hothers, hsorted]
    refine queue_append (fun other hother => ?_) fun _ => List.rel_of_pairwise_cons hpairs.2.1
    simpa using hbefore other hother

/-- Computations that were all woken at their start are polled in their order. -/
theorem wakeOrder_of_atStart {woken : α → Waking} {items : List α}
    (h : ∀ item ∈ items, woken item = .atStart) : wakeOrder woken items = List.range items.length := by
  have hsorted : (items.zipIdx.map fun entry => (woken entry.1, entry.2)).Pairwise
      fun a b => a.1.notAfter b.1 = true := by
    rw [List.pairwise_map, List.pairwise_iff_forall_sublist]
    intro a b hab
    have hfirst := h a.1 (List.fst_mem_of_mem_zipIdx (hab.subset List.mem_cons_self))
    simp [hfirst, Waking.notAfter]
  rw [wakeOrder, foldr_queue, List.mergeSort_of_pairwise hsorted, List.map_map, List.range_eq_range']
  exact List.zipIdx_map_snd 0 items

/-! ## The first poll of a list -/

/-- Whatever is done with the rest of a list comes after the poll of its first computation, if that has not
ended and all of them were woken at their start. What the polls of the others keep is kept. -/
theorem holds_poll_of_first {mode : JoinMode} {woken : α → Waking} {item : α} {items : List α}
    {state : σ} {motive : σ → Prop} (pending : (status item).isPending = true)
    (atStart : ∀ other ∈ item :: items, woken other = .atStart)
    (first : motive (pollItem item state).2)
    (kept : ∀ other state, motive state → motive (pollItem other state).2) :
    motive (poll mode status woken pollItem (item :: items) state).2 := by
  have hadvance : ∀ mode, motive (advance mode status pollItem (item :: items) state).2 := by
    intro mode
    unfold advance
    rw [if_pos pending]
    dsimp only
    split
    · exact first
    · exact advance_induction mode (motive := fun _ after => motive after)
        (fun _ other _ state _ h => kept other state h) [] items _ first
  cases mode with
  | serial => exact hadvance .serial
  | together => exact hadvance .together
  | inOrder =>
    have horder : wakeOrder woken (item :: items) =
        0 :: (List.range items.length).map Nat.succ := by
      rw [wakeOrder_of_atStart atStart, List.length_cons, List.range_succ_eq_map]
    show motive (advanceAt status pollItem (wakeOrder woken (item :: items)) (item :: items) state).2
    rw [horder]
    unfold advanceAt
    simp only [List.getElem?_cons_zero, if_pos pending]
    split
    · exact first
    · exact advanceAt_induction (motive := fun _ after => motive after)
        (fun _ other _ state _ h => kept other state h) _ _ _ first

end Join

namespace FileFetch

/-- A file that waits is requested when it is polled. -/
theorem exists_events_poll_of_waiting (owner : FetchOwner) (now : Nat) {f : FileFetch} (n : Network)
    (h : f.state = .waiting) :
    ∃ more, (f.poll owner now n).2.events = n.events ++ f.event owner now .start :: more := by
  have hstart : (f.start owner now n).2.events = n.events ++ [f.event owner now .start] := by
    simp [start, h, Network.record]
  obtain ⟨more, hfinish, _⟩ :=
    (advanced_finish owner now (f.start owner now n).1 (f.start owner now n).2).events
  refine ⟨more, ?_⟩
  have hpoll : (f.poll owner now n).2 =
      ((f.start owner now n).1.finish owner now (f.start owner now n).2).2 := rfl
  rw [hpoll, hfinish, hstart, List.append_assoc]
  rfl

end FileFetch

namespace BundleRun

/-- A run of a bundle without files has succeeded when it begins. -/
theorem status_begin_of_nil {definition : BundleDefinition} (h : definition.files = []) :
    (BundleRun.begin definition).status = .succeeded := by
  simp [status, begin, h, Join.outcome]

/-- A run of a bundle that has files goes on when it begins. -/
theorem isPending_status_begin {definition : BundleDefinition} (h : definition.files ≠ []) :
    (BundleRun.begin definition).status.isPending = true := by
  have hwaiting : ∀ f ∈ (BundleRun.begin definition).files,
      fileStatus definition.name f = .pending := by
    intro f hf
    obtain ⟨file, _, rfl⟩ := List.mem_map.mp hf
    rfl
  cases hstatus : (BundleRun.begin definition).status with
  | pending => rfl
  | succeeded =>
    obtain ⟨file, hfile⟩ := List.exists_mem_of_ne_nil _ h
    have hmem : (⟨file, .waiting⟩ : FileFetch) ∈ (BundleRun.begin definition).files :=
      List.mem_map_of_mem hfile
    have hall := (Join.outcome_eq_succeeded_iff _ _).mp hstatus _ hmem
    cases hall
  | failed e =>
    obtain ⟨before, f, after, hsplit, hfailed, _⟩ := (Join.outcome_eq_failed_iff _ _ e).mp hstatus
    have hpending := hwaiting f (by rw [hsplit]; simp)
    cases hfailed.symm.trans hpending

/-- **The first poll of a run requests the first file of its bundle**, before any other. -/
theorem requestedBy_poll_begin {definition : BundleDefinition} {file : String} {more : List String}
    (files : definition.files = file :: more) (id now : Nat) {n : Network}
    (quiet : n.requestedBy id = []) :
    (((BundleRun.begin definition).poll id now n).2.requestedBy id).head? = some file := by
  have hpending : (BundleRun.begin definition).status.isPending = true :=
    isPending_status_begin (by simp [files])
  have hfiles : (BundleRun.begin definition).files =
      ⟨file, .waiting⟩ :: more.map fun file => ⟨file, .waiting⟩ := by
    simp [begin, files]
  unfold poll
  rw [if_pos hpending]
  dsimp only
  rw [hfiles]
  apply Join.holds_poll_of_first (motive := fun after : Network => (after.requestedBy id).head? = some file)
  · rfl
  · intro other hother
    rw [← hfiles] at hother
    obtain ⟨name, _, rfl⟩ := List.mem_map.mp hother
    rfl
  · obtain ⟨rest, hevents⟩ := FileFetch.exists_events_poll_of_waiting
      ⟨id, (BundleRun.begin definition).definition.name⟩ now (f := ⟨file, .waiting⟩) n rfl
    rw [Network.requestedBy_of_append hevents, quiet]
    simp [FileFetch.event]
  · intro other state hfirst
    obtain ⟨fresh, hevents, _⟩ := (FileFetch.advanced_poll
      ⟨id, (BundleRun.begin definition).definition.name⟩ now other state).events
    exact Network.head?_requestedBy_of_append hevents hfirst

end BundleRun

namespace Loader

/-- Whether the requests of a run begin as they should: it was not polled and has requested nothing, or it has
requested the first file of its bundle first. -/
def Opened (l : Loader) (run : Nat) (r : BundleRun) : Prop :=
  r = BundleRun.begin r.definition ∧ l.network.requestedBy run = [] ∨
    ∃ file, r.definition.files.head? = some file ∧ (l.network.requestedBy run).head? = some file

variable {l : Loader} {Noticed : Nat → Prop}

/-- A call that enters leaves the runs to begin as they should: one that it starts has not been polled. -/
theorem opened_enter (h : ∀ run r, l.runs[run]? = some r → l.Opened run r)
    (coherent : l.Coherent Noticed) (name : String) {run : Nat} {r : BundleRun}
    (hr : (l.enter name).2.runs[run]? = some r) : (l.enter name).2.Opened run r := by
  have hnetwork := l.network_enter name
  unfold Opened
  rw [hnetwork]
  rcases l.enter_cases name with ⟨hsame, _⟩ | ⟨definition, _, _, hbegin⟩
  · rw [hsame] at hr
    exact h run r hr
  · rw [hbegin] at hr
    rcases getElem?_begin hr with hr | ⟨rfl, rfl⟩
    · exact h run r hr
    · refine .inl ⟨rfl, ?_⟩
      rw [Network.requestedBy, List.map_eq_nil_iff, List.filter_eq_nil_iff]
      intro event hevent
      have hlt := coherent.owned event hevent
      have hne : event.run ≠ l.runs.length := by omega
      simp [hne]

/-- A run that was polled and has files has requested the first of them first. -/
theorem opened_polled {run : Nat} {r : BundleRun} (h : l.Opened run r) (now : Nat)
    (pending : r.status.isPending = true) :
    ∃ file, r.definition.files.head? = some file ∧
      ((r.poll run now l.network).2.requestedBy run).head? = some file := by
  rcases h with ⟨hbegin, hquiet⟩ | ⟨file, hfile, hfirst⟩
  · rw [hbegin] at pending ⊢
    cases hfiles : r.definition.files with
    | nil =>
      rw [BundleRun.status_begin_of_nil hfiles] at pending
      cases pending
    | cons file more =>
      refine ⟨file, ?_, BundleRun.requestedBy_poll_begin hfiles run now hquiet⟩
      rw [BundleRun.begin, hfiles]
      rfl
  · obtain ⟨fresh, hevents, _⟩ := (BundleRun.advanced_poll run now r l.network).events
    exact ⟨file, hfile, Network.head?_requestedBy_of_append hevents hfirst⟩

/-- Polling a run leaves the runs to begin as they should: the first poll requests the first file before any other. -/
theorem opened_pollRun (h : ∀ run r, l.runs[run]? = some r → l.Opened run r) (now polled : Nat)
    {run : Nat} {r : BundleRun} (hr : (l.pollRun now polled).runs[run]? = some r) :
    (l.pollRun now polled).Opened run r := by
  rcases l.pollRun_cases now polled with hsame | ⟨q, hq, hpending, hpoll⟩
  · rw [hsame] at hr ⊢
    exact h run r hr
  · rw [hpoll] at hr ⊢
    rcases getElem?_set hr with ⟨rfl, rfl⟩ | ⟨hne, hr⟩
    · have hfirst := opened_polled (h run q hq) now hpending
      rw [← BundleRun.definition_poll run now q l.network] at hfirst
      exact .inr hfirst
    · -- The new events are those of another run.
      obtain ⟨fresh, hevents, howner⟩ := (BundleRun.advanced_poll polled now q l.network).events
      have hothers : ∀ event ∈ fresh, event.run ≠ run := by
        intro event hevent
        rw [(howner event hevent).1]
        exact fun e => hne e.symm
      unfold Opened
      rw [Network.requestedBy_of_others hevents hothers]
      exact h run r hr

end Loader

namespace LoadTraffic

/-- Every move at an orderly loader leaves the runs to begin as they should. -/
theorem opened_moved {s s' : LoadTraffic} (orderly : s.Orderly)
    (h : ∀ run r, s.loader.runs[run]? = some r → s.loader.Opened run r) (move : Moved s s') :
    ∀ run r, s'.loader.runs[run]? = some r → s'.loader.Opened run r := by
  cases move with
  | same => exact h
  | called name => exact h
  | entered place name inside call =>
    intro run r hr
    exact Loader.opened_enter h orderly.coherent name hr
  | polled place now name polled inside call =>
    intro run r hr
    exact Loader.opened_pollRun h now polled hr
  | left place name left call =>
    intro run r hr
    simp only [put, Loader.runs_leave] at hr
    simp only [put, Loader.Opened, Loader.network_leave]
    exact h run r hr
  | dropped place load call => exact h

/-- **Every run begins with the first file of its bundle.** -/
theorem opened_run {s : LoadTraffic} (orderly : s.Orderly)
    (h : ∀ run r, s.loader.runs[run]? = some r → s.loader.Opened run r) (moves : List LoadMove) :
    ∀ run r, (s.run moves).loader.runs[run]? = some r → (s.run moves).loader.Opened run r := by
  induction moves generalizing s with
  | nil => exact h
  | cons move moves ih => exact ih (orderly.step move) (opened_moved orderly h (s.moved_step move))

end LoadTraffic

end AdminConsole
