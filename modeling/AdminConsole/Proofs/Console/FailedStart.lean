import AdminConsole.Proofs.Console.Start

/-!
# What a failed start leaves behind

The only thing that a start does to the diagnostics channel is to raise its level on the developer's own machine, and
that comes after the settings were checked and before the runtime is looked for. Main statement: a failed start leaves
both channels, the given one and that of the process, as they were, but for a start on the developer's own machine
that fails for want of a runtime. That one leaves the used channel at the highest level, and nothing else behind.
-/

set_option autoImplicit false

namespace AdminConsole

namespace Channels

variable (c : Channels) (d : Diagnostics)

/-- The channel in use is the one that was put in use. -/
@[simp] theorem used_withUsed : (c.withUsed d).used = d := by
  obtain ⟨given, shared⟩ := c
  cases given <;> rfl

/-- Nothing changes when the channel in use is put in use again. -/
@[simp] theorem withUsed_used : c.withUsed c.used = c := by
  obtain ⟨given, shared⟩ := c
  cases given <;> rfl

/-- The channel of the process stays as it is if another one is given. -/
theorem shared_withUsed (h : c.given.isSome) : (c.withUsed d).shared = c.shared := by
  obtain ⟨given, shared⟩ := c
  cases given with
  | none => cases h
  | some own => rfl

end Channels

namespace Console

variable {settings : Settings} {around : Surroundings} {channels : Channels} {e : StartError}

/-- What a start leaves of its channel when it fails, for each of the reasons. -/
theorem diagnostics_of_error (failed : (start settings around).console = .error e) :
    (start settings around).diagnostics =
      if e = .noRuntime ∧ settings.isLocalhost then { around.services.diagnostics with level := 3 }
      else around.services.diagnostics := by
  cases hvalid : settings.validate with
  | error fault =>
    rw [start_of_invalid hvalid] at failed ⊢
    obtain rfl := Except.error.inj failed
    simp
  | ok _ =>
    obtain ⟨_, _, rfl⟩ := (error_iff_of_valid hvalid).mp failed
    rw [start_of_valid hvalid]
    simp only [true_and]
    split <;> rfl

/-- What a start that failed with this error has left of the two channels. -/
structure FailureTrace (settings : Settings) (around : Surroundings) (channels : Channels) (e : StartError) :
    Prop where
  untouched : ¬ (e = .noRuntime ∧ settings.ServedLocally) → (startWith settings around channels).2 = channels
  /-- The level that was raised for a console which then did not start. -/
  raised : e = .noRuntime → settings.ServedLocally →
    (startWith settings around channels).2 = channels.withUsed { channels.used with level := 3 }
  sink : (startWith settings around channels).2.used.installed = channels.used.installed
  records : (startWith settings around channels).2.used.records = channels.used.records
  shared : channels.given.isSome → (startWith settings around channels).2.shared = channels.shared

/-- **A failed start leaves no trace**, unless it fails for want of a runtime on the developer's own machine. -/
theorem failed_start_leaves_no_trace (failed : (startWith settings around channels).1 = .error e) :
    FailureTrace settings around channels e := by
  have hleft : (startWith settings around channels).2 = channels.withUsed
      (if e = .noRuntime ∧ settings.isLocalhost then { channels.used with level := 3 } else channels.used) :=
    congrArg channels.withUsed (diagnostics_of_error failed)
  constructor
  · intro hlasting
    rw [← Settings.isLocalhost_iff] at hlasting
    rw [hleft, if_neg hlasting, Channels.withUsed_used]
  · intro hreason hlocal
    rw [hleft, if_pos ⟨hreason, Settings.isLocalhost_iff.mpr hlocal⟩]
  · rw [hleft, Channels.used_withUsed]
    split <;> rfl
  · rw [hleft, Channels.used_withUsed]
    split <;> rfl
  · intro hgiven
    rw [hleft, Channels.shared_withUsed _ _ hgiven]

/-- Surroundings in which nobody keeps the time. -/
def untimed : Surroundings :=
  { services := {
      signedIn := true, session := Dictionary.empty, serverPath := "", diagnostics := Diagnostics.silent 0,
      opened := [], notes := [] }
    plan := FetchPlan.ofRules Dictionary.empty
    hasRuntime := false }

/-- Settings that want a watchdog, under this host name. -/
def watchedAt (hostname : String) : Settings :=
  { Settings.standard with hostname := some hostname, idle := .of 600 30 }

/-- Settings with a watchdog and a host name are valid. -/
theorem validate_watchedAt (hostname : String) : (watchedAt hostname).validate = .ok () := by
  change Settings.standard.validate = .ok ()
  decide

/-- A watchdog cannot be started where nobody keeps the time. -/
theorem startWith_untimed (hostname : String) (channels : Channels) :
    (startWith (watchedAt hostname) untimed channels).1 = .error .noRuntime := by
  have hwanted : (watchedAt hostname).WantsWatchdog := ⟨600, 30, rfl, by decide, by decide⟩
  exact (error_iff_of_valid (validate_watchedAt hostname)).mpr ⟨hwanted, rfl, rfl⟩

/-- A console that is served elsewhere leaves its channel as it was when it fails to start. -/
theorem failed_start_leaves_no_trace_elsewhere :
    (startWith (watchedAt "console.example.org") untimed ⟨none, .withSink 1⟩).1 = .error .noRuntime ∧
      (startWith (watchedAt "console.example.org") untimed ⟨none, .withSink 1⟩).2 = ⟨none, .withSink 1⟩ := by
  have hfailed := startWith_untimed "console.example.org" ⟨none, .withSink 1⟩
  refine ⟨hfailed, (failed_start_leaves_no_trace hfailed).untouched ?_⟩
  rintro ⟨_, hlocal⟩
  have hhost : (watchedAt "console.example.org").isLocalhost = true := Settings.isLocalhost_iff.mpr hlocal
  exact absurd hhost (by decide)

/-- A failed start on the developer's own machine leaves the channel of the process at the highest level. -/
theorem level_raised_by_failed_start :
    (startWith (watchedAt "localhost") untimed ⟨none, .silent 0⟩).1 = .error .noRuntime ∧
      (startWith (watchedAt "localhost") untimed ⟨none, .silent 0⟩).2.shared.level = 3 ∧
      (Diagnostics.silent 0).level = 0 := by
  refine ⟨startWith_untimed "localhost" ⟨none, .silent 0⟩, ?_, rfl⟩
  rw [startWith, start_of_valid (validate_watchedAt "localhost")]
  decide

end Console

end AdminConsole
