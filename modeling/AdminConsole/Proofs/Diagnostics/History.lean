import AdminConsole.Proofs.Diagnostics.Containment
import Mathlib.Data.List.Induction

/-!
# The sink is the filtered history

Reports are judged by the level and the sink at the moment when they are made. Main statement: at every moment of
every run the level is the one last set, and the sink holds the reports made since it was last cleared, in their
order, that found it installed and the level high enough. A run that never sets the level therefore records at a
lower level what it records at a higher one, less the reports that do not pass the lower level.

A call with injected code is told by its own reports: whether it makes the second one is decided by the code alone.
-/

set_option autoImplicit false

namespace AdminConsole

/-- Something that happens to a channel. -/
inductive ChannelEvent where
  | setLevel (level : Nat)
  | report (report : Report)
  | install
  | uninstall
  | clear
  deriving DecidableEq, Repr

namespace ChannelEvent

/-- The channel after the event. -/
def apply (d : Diagnostics) : ChannelEvent → Diagnostics
  | .setLevel level => d.setLevel level
  | .report r => d.report r.severity r.message r.detail
  | .install => d.install
  | .uninstall => d.uninstall
  | .clear => d.clear

/-- The channel after some events, the first one first. -/
def applyAll (d : Diagnostics) (events : List ChannelEvent) : Diagnostics := events.foldl apply d

/-- The level that the event sets. -/
def level? : ChannelEvent → Option Nat
  | .setLevel level => some level
  | _ => none

/-- Whether the sink is installed, if the event decides it. -/
def installed? : ChannelEvent → Option Bool
  | .install => some true
  | .uninstall => some false
  | _ => none

/-- The report that the event makes. -/
def report? : ChannelEvent → Option Report
  | .report r => some r
  | _ => none

/-- A channel as it is made, with what its sink holds already. -/
def made (given : Nat) (installed : Bool) (held : List Report) : Diagnostics :=
  { level := Diagnostics.clamp given, installed, records := held }

/-! ## The history -/

/-- The level that was last set, or else given when the channel was made. -/
def lastLevel (given : Nat) (earlier : List ChannelEvent) : Nat :=
  (earlier.filterMap level?).getLast?.getD given

/-- Whether the sink was last installed, or else was when the channel was made. -/
def lastInstalled (installed : Bool) (earlier : List ChannelEvent) : Bool :=
  (earlier.filterMap installed?).getLast?.getD installed

/-- Whether a report that is made after these events is recorded. -/
def passes (given : Nat) (installed : Bool) (earlier : List ChannelEvent) (r : Report) : Bool :=
  lastInstalled installed earlier && r.severity.minLevel ≤ min 3 (lastLevel given earlier)

/-- The reports among some events that are recorded, when other events came before. -/
def recorded (given : Nat) (installed : Bool) : List ChannelEvent → List ChannelEvent → List Report
  | _, [] => []
  | earlier, event :: later =>
      (event.report?.filter (passes given installed earlier)).toList ++
        recorded given installed (earlier ++ [event]) later

/-- What it means that a channel is what a history says, with what the sink held at first. -/
structure History (given : Nat) (installed : Bool) (held : List Report) (events : List ChannelEvent)
    (d : Diagnostics) : Prop where
  level : d.level.val = min 3 (lastLevel given events)
  sink : d.installed = lastInstalled installed events
  records : .clear ∉ events → d.records = held ++ recorded given installed [] events
  /-- After the sink was last cleared it has recorded only what was reported since. -/
  cleared : ∀ before after, events = before ++ .clear :: after → .clear ∉ after →
    d.records = recorded given installed (before ++ [.clear]) after

section

variable {given : Nat} {installed : Bool} {held : List Report} {earlier later : List ChannelEvent}

/-- The last event decides the level if it sets one. -/
theorem lastLevel_concat (event : ChannelEvent) :
    lastLevel given (earlier ++ [event]) = event.level?.getD (lastLevel given earlier) := by
  rw [lastLevel, List.filterMap_append]
  cases hlevel : event.level? with
  | none => simp [hlevel, lastLevel]
  | some level => simp [hlevel]

/-- The last event decides whether there is a sink if it installs or removes one. -/
theorem lastInstalled_concat (event : ChannelEvent) :
    lastInstalled installed (earlier ++ [event]) = event.installed?.getD (lastInstalled installed earlier) := by
  rw [lastInstalled, List.filterMap_append]
  cases hinstalled : event.installed? with
  | none => simp [hinstalled, lastInstalled]
  | some value => simp [hinstalled]

/-- The last of several events happens when the others have. -/
theorem applyAll_concat (d : Diagnostics) (event : ChannelEvent) :
    applyAll d (earlier ++ [event]) = apply (applyAll d earlier) event := by
  simp [applyAll]

/-! ## One event -/

/-- An event leaves the level that it sets, no greater than three, or else the level from before. -/
theorem level_apply (d : Diagnostics) (event : ChannelEvent) :
    (apply d event).level.val = (event.level?.map (min 3)).getD d.level.val := by
  cases event with
  | setLevel level =>
    change min level 3 = min 3 level
    exact Nat.min_comm level 3
  | report r => exact congrArg Fin.val (d.level_report r.severity r.message r.detail)
  | install => rfl
  | uninstall => rfl
  | clear => rfl

/-- An event leaves a sink if it installs one, none if it removes it, or else what was there before. -/
theorem installed_apply (d : Diagnostics) (event : ChannelEvent) :
    (apply d event).installed = event.installed?.getD d.installed := by
  cases event with
  | report r => exact d.installed_report r.severity r.message r.detail
  | setLevel level => rfl
  | install => rfl
  | uninstall => rfl
  | clear => rfl

/-- Without being cleared the sink keeps what it holds, and records a report that passes. -/
theorem records_apply (d : Diagnostics) {event : ChannelEvent} (kept : event ≠ .clear) :
    (apply d event).records =
      d.records ++ (event.report?.filter fun r => d.enabled r.severity && d.installed).toList := by
  cases event with
  | report r =>
    rw [apply, Diagnostics.records_report]
    cases hpasses : d.enabled r.severity && d.installed <;> simp [report?, Option.filter, hpasses]
  | setLevel level => simp [apply, Diagnostics.setLevel, report?]
  | install => simp [apply, Diagnostics.install, report?]
  | uninstall => simp [apply, Diagnostics.uninstall, report?]
  | clear => exact absurd rfl kept

/-! ## A run of events -/

/-- The level is the one that was last set, no greater than three. -/
theorem level_applyAll (events : List ChannelEvent) :
    (applyAll (made given installed held) events).level.val = min 3 (lastLevel given events) := by
  induction events using List.reverseRecOn with
  | nil => exact Nat.min_comm given 3
  | append_singleton earlier event ih =>
    rw [applyAll_concat, level_apply, lastLevel_concat, ih]
    cases event.level? <;> rfl

/-- There is a sink if the last event that concerns it has installed one. -/
theorem installed_applyAll (events : List ChannelEvent) :
    (applyAll (made given installed held) events).installed = lastInstalled installed events := by
  induction events using List.reverseRecOn with
  | nil => rfl
  | append_singleton earlier event ih =>
    rw [applyAll_concat, installed_apply, lastInstalled_concat, ih]

/-- The channel judges a report as its history does. -/
theorem enabled_applyAll (r : Report) :
    ((applyAll (made given installed held) earlier).enabled r.severity &&
      (applyAll (made given installed held) earlier).installed) = passes given installed earlier r := by
  rw [Diagnostics.enabled, level_applyAll, installed_applyAll, passes, Bool.and_comm]

/-- The induction is on the events that come next, with the ones before them growing. -/
theorem records_applyAll (earlier : List ChannelEvent) (kept : .clear ∉ later) :
    (applyAll (made given installed held) (earlier ++ later)).records =
      (applyAll (made given installed held) earlier).records ++ recorded given installed earlier later := by
  induction later generalizing earlier with
  | nil => simp [recorded]
  | cons event later ih =>
    obtain ⟨hevent, hlater⟩ := not_or.mp (mt List.mem_cons.mpr kept)
    rw [List.append_cons, ih _ hlater, applyAll_concat, records_apply _ (fun h => hevent h.symm), recorded,
      List.append_assoc]
    simp only [enabled_applyAll]

/-- A channel is at any time what its history says. -/
theorem history_applyAll (events : List ChannelEvent) :
    History given installed held events (applyAll (made given installed held) events) where
  level := level_applyAll events
  sink := installed_applyAll events
  records kept := records_applyAll [] kept
  cleared := by
    rintro before after rfl kept
    rw [List.append_cons, records_applyAll _ kept, applyAll_concat]
    rfl

/-! ## Two levels -/

/-- What holds of two channels on which the same happens, when one of them has the lower level. -/
structure Narrowed (low high : Diagnostics) : Prop where
  level : low.level ≤ high.level
  installed : low.installed = high.installed
  records : low.records = high.records.filter fun r => low.enabled r.severity

/-- The channel with the lower level goes on holding less when the same happens to both and no level is set. -/
theorem Narrowed.apply {low high : Diagnostics} (h : Narrowed low high) {event : ChannelEvent}
    (unset : event.level? = none) : Narrowed (apply low event) (apply high event) := by
  have hlow : (ChannelEvent.apply low event).level = low.level := by
    rw [Fin.ext_iff, level_apply, unset]
    rfl
  have hhigh : (ChannelEvent.apply high event).level = high.level := by
    rw [Fin.ext_iff, level_apply, unset]
    rfl
  refine ⟨by rw [hlow, hhigh]; exact h.level, by rw [installed_apply, installed_apply, h.installed], ?_⟩
  simp only [Diagnostics.enabled, hlow]
  by_cases hclear : event = .clear
  · subst hclear
    rfl
  · rw [records_apply _ hclear, records_apply _ hclear, List.filter_append, h.records, h.installed]
    congr 1
    cases event.report? with
    | none => rfl
    | some r =>
      have hlevel : low.level.val ≤ high.level.val := h.level
      by_cases hpasses : r.severity.minLevel ≤ low.level.val
      · have hboth : r.severity.minLevel ≤ high.level.val := Nat.le_trans hpasses hlevel
        cases high.installed <;> simp [Option.filter, Diagnostics.enabled, hpasses, hboth]
      · by_cases hhigher : r.severity.minLevel ≤ high.level.val <;> cases high.installed <;>
          simp [Option.filter, Diagnostics.enabled, hpasses, hhigher]

/-- The channel with the lower level goes on holding less whatever happens to both, as long as no level is set. -/
theorem Narrowed.applyAll {low high : Diagnostics} (h : Narrowed low high) {events : List ChannelEvent}
    (unset : ∀ event ∈ events, event.level? = none) : Narrowed (applyAll low events) (applyAll high events) := by
  induction events generalizing low high with
  | nil => exact h
  | cons event events ih =>
    obtain ⟨hevent, hevents⟩ := List.forall_mem_cons.mp unset
    exact ih (h.apply hevent) hevents

/-- Two channels that are made with different levels are alike but for the level. -/
theorem narrowed_made {low high : Nat} (le : low ≤ high) :
    Narrowed (made low installed []) (made high installed []) := by
  refine ⟨?_, rfl, rfl⟩
  change min low 3 ≤ min high 3
  omega

/-- While the level is not set, the given one decides what passes. -/
theorem enabled_applyAll_of_unset {events : List ChannelEvent} (unset : ∀ event ∈ events, event.level? = none)
    (severity : Severity) :
    (applyAll (made given installed held) events).enabled severity = decide (severity.minLevel ≤ given) := by
  have hnone : events.filterMap level? = [] := List.filterMap_eq_nil_iff.mpr unset
  have hlast : lastLevel given events = given := by
    rw [lastLevel, hnone]
    rfl
  have hmax : severity.minLevel ≤ 3 := by cases severity <;> decide
  rw [Diagnostics.enabled, level_applyAll, hlast, decide_eq_decide]
  omega

end

end ChannelEvent

/-- Something that is done with a channel and a state of type `σ`. -/
inductive ChannelCall (σ : Type) where
  | setLevel (level : Nat)
  | report (report : Report)
  | inject (code : InjectedCode σ)
  | install
  | uninstall
  | clear

namespace ChannelCall

open ChannelEvent

variable {σ : Type} (synchronize : σ → σ)

/-- The channel and the state after the call. -/
def perform (world : Diagnostics × σ) : ChannelCall σ → Diagnostics × σ
  | .setLevel level => (world.1.setLevel level, world.2)
  | .report r => (world.1.report r.severity r.message r.detail, world.2)
  | .inject code => InjectedCode.leave synchronize world [code]
  | .install => (world.1.install, world.2)
  | .uninstall => (world.1.uninstall, world.2)
  | .clear => (world.1.clear, world.2)

/-- The channel and the state after some calls, the first one first. -/
def performAll (world : Diagnostics × σ) (calls : List (ChannelCall σ)) : Diagnostics × σ :=
  calls.foldl (perform synchronize) world

/-- What happens to the channel in a call. -/
def events : ChannelCall σ → List ChannelEvent
  | .setLevel level => [.setLevel level]
  | .report r => [.report r]
  | .inject code => code.reports.map .report
  | .install => [.install]
  | .uninstall => [.uninstall]
  | .clear => [.clear]

variable {synchronize}

/-- What a call does to the channel is what its events do. -/
theorem perform_eq (world : Diagnostics × σ) (call : ChannelCall σ) :
    (call.perform synchronize world).1 = applyAll world.1 call.events := by
  cases call with
  | inject code =>
    change (code.call synchronize world).diagnostics = _
    rw [InjectedCode.diagnostics_call, Diagnostics.reportAll, applyAll, events, List.foldl_map]
    rfl
  | setLevel level => rfl
  | report r => rfl
  | install => rfl
  | uninstall => rfl
  | clear => rfl

/-- What calls do to the channel is what their events do, one after another. -/
theorem performAll_eq (world : Diagnostics × σ) (calls : List (ChannelCall σ)) :
    (performAll synchronize world calls).1 = applyAll world.1 (calls.flatMap events) := by
  induction calls generalizing world with
  | nil => rfl
  | cons call calls ih =>
    rw [performAll, List.foldl_cons, ← performAll, ih, perform_eq, List.flatMap_cons, applyAll, applyAll, applyAll,
      List.foldl_append]

/-- Calls among which none sets the level have no event that sets it. -/
theorem level?_of_mem_events {calls : List (ChannelCall σ)} (unset : ∀ level, .setLevel level ∉ calls) :
    ∀ event ∈ calls.flatMap events, event.level? = none := by
  intro event hevent
  obtain ⟨call, hcall, hevent⟩ := List.mem_flatMap.mp hevent
  cases call with
  | setLevel level => exact absurd hcall (unset level)
  | inject code =>
    obtain ⟨r, _, rfl⟩ := List.mem_map.mp hevent
    rfl
  | report r =>
    obtain rfl := List.mem_singleton.mp hevent
    rfl
  | install =>
    obtain rfl := List.mem_singleton.mp hevent
    rfl
  | uninstall =>
    obtain rfl := List.mem_singleton.mp hevent
    rfl
  | clear =>
    obtain rfl := List.mem_singleton.mp hevent
    rfl

/-- What it means that the sink is the filtered history of a run of calls. -/
structure FilteredHistory (synchronize : σ → σ) (state : σ) (calls : List (ChannelCall σ)) : Prop where
  /-- The calls do with the channel what their events say. -/
  run : ∀ given installed held, (performAll synchronize (made given installed held, state) calls).1 =
    applyAll (made given installed held) (calls.flatMap events)
  /-- At every moment, those within a call with injected code included, the channel is what its history says. -/
  moments : ∀ given installed held moment, moment <+: calls.flatMap events →
    History given installed held moment (applyAll (made given installed held) moment)
  /-- Of two levels the lower one records what the higher one does, less what does not pass the lower one. -/
  levels : (∀ level, .setLevel level ∉ calls) → ∀ installed low high, low ≤ high →
    (performAll synchronize (made low installed [], state) calls).1.records =
      (performAll synchronize (made high installed [], state) calls).1.records.filter
        fun r => r.severity.minLevel ≤ low

/-- **The sink is the filtered history** of its channel. -/
theorem sink_is_filtered_history (synchronize : σ → σ) (state : σ) (calls : List (ChannelCall σ)) :
    FilteredHistory synchronize state calls where
  run given installed held := performAll_eq (made given installed held, state) calls
  moments _ _ _ moment _ := history_applyAll moment
  levels := by
    intro unset installed low high le
    have hstart : Narrowed (made low installed []) (made high installed []) := narrowed_made le
    have hend := hstart.applyAll (level?_of_mem_events unset)
    rw [performAll_eq, performAll_eq, hend.records]
    simp only [enabled_applyAll_of_unset (level?_of_mem_events unset)]

end ChannelCall

end AdminConsole
