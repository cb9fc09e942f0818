import AdminConsole.Console.Start
import AdminConsole.Proofs.Site.Survey
import AdminConsole.Proofs.Text.AnyCase

/-!
# Starting the console

A start takes several steps that may fail. Main statement: it fails for two reasons only, which are settings that do
not pass their check, before anything else is done, and a watchdog that is wanted where nobody keeps the time. An
origin that passed the check can be read again for the cookies, and the console's own table is always built, so
neither of them is a reason. Of a console that was started the statement says what it took from its settings.
-/

set_option autoImplicit false

namespace AdminConsole

namespace Origin

/-- The scheme of an origin is in lower case. -/
theorem lower_scheme_of_parse {text : String} {o : Origin} (h : parse text = .ok o) :
    o.scheme.toList.map Char.toLower = o.scheme.toList := by
  unfold parse at h
  split at h
  · cases h
  · rename_i scheme rest hscheme
    obtain ⟨host, _, rfl⟩ := Result.ok_of_map h
    have hlower : scheme.map Char.toLower = scheme := by
      unfold scheme? at hscheme
      split at hscheme
      · split at hscheme
        · obtain ⟨rfl, _⟩ := Prod.mk.inj (Option.some.inj hscheme)
          simp only [List.map_map, Function.comp_def, Text.toLower_toLower]
        · cases hscheme
      · cases hscheme
    rw [String.toList_ofList, hlower]

/-- Of the schemes that an origin can have, one is secure. -/
theorem isSecureScheme_iff {text : String} {o : Origin} (h : parse text = .ok o) :
    isSecureScheme o.scheme = true ↔ o.scheme = "https" := by
  rw [isSecureScheme, lower_scheme_of_parse h, String.ofList_toList, beq_iff_eq]

end Origin

namespace Settings

/-- Whether the watchdog is given two positive durations, which have 64 bits like all durations in settings. -/
def WantsWatchdog (s : Settings) : Prop :=
  ∃ time timeout : Int, s.idle = .of time timeout ∧
    (0 < time ∧ time ≤ maxSeconds) ∧ 0 < timeout ∧ timeout ≤ maxSeconds

/-- Whether the host is that of the developer's own machine. A host name of its own goes before the origin's. -/
def ServedLocally (s : Settings) : Prop :=
  s.hostname = some "localhost" ∨
    s.hostname = none ∧ ∃ text o, s.origin = some text ∧ Origin.parse text = .ok o ∧ o.host = some "localhost"

/-- Whether the origin is an encrypted one. -/
def ServedSecurely (s : Settings) : Prop :=
  ∃ text o, s.origin = some text ∧ Origin.parse text = .ok o ∧ o.scheme = "https"

section

variable {s : Settings}

/-- A watchdog is wanted when the settings have a valid configuration of idle times. -/
theorem wantsWatchdog_iff : s.WantsWatchdog ↔ ∃ config, s.idleConfig = some config := by
  obtain ⟨debug, ⟨time, timeout⟩, mode, serverPath, origin, hostname, logging, custom⟩ := s
  simp only [WantsWatchdog, idleConfig, IdleSettings.of, IdleSettings.mk.injEq, IdleConfig.ofOptions_eq_some_iff]
  constructor
  · rintro ⟨first, second, ⟨rfl, rfl⟩, hfirst, hsecond⟩
    refine ⟨⟨first.toNat, second.toNat, by omega, by omega⟩, ?_, ?_⟩
    · simp only [Option.some.injEq]
      omega
    · simp only [Option.some.injEq]
      omega
  · rintro ⟨⟨first, second, hfirst, hsecond⟩, rfl, rfl⟩
    exact ⟨first, second, ⟨rfl, rfl⟩, by omega, by omega⟩

/-- The settings tell whether the console is served on the developer's own machine. -/
theorem isLocalhost_iff : s.isLocalhost = true ↔ s.ServedLocally := by
  rw [isLocalhost, beq_iff_eq, effectiveHostname, ServedLocally]
  cases s.hostname with
  | some name => simp
  | none =>
    cases s.origin with
    | none => simp
    | some text => cases hparse : Origin.parse text <;> simp [hparse]

/-! ## Settings that passed their check -/

/-- Valid settings have an origin that can be read, if they have any. -/
theorem exists_parse_of_validate (valid : s.validate = .ok ()) {text : String} (given : s.origin = some text) :
    ∃ o, Origin.parse text = .ok o := by
  cases hparse : Origin.parse text with
  | ok o => exact ⟨o, rfl⟩
  | error e =>
    have hfault : s.originFault? = some (.badOrigin text e) := by simp [originFault?, given, hparse]
    unfold validate at valid
    rw [hfault] at valid
    split at valid
    · cases valid
    · split at valid <;> cases valid

/-- An origin that was checked gives the cookies their attributes. -/
theorem exists_cookies (valid : s.validate = .ok ()) :
    ∃ cookies, CookieDefaults.ofOrigin? s.origin = .ok cookies ∧ (cookies.secure = true ↔ s.ServedSecurely) := by
  cases given : s.origin with
  | none => exact ⟨_, rfl, by simp [CookieDefaults.unsecured, ServedSecurely, given]⟩
  | some text =>
    obtain ⟨o, hparse⟩ := exists_parse_of_validate valid given
    refine ⟨CookieDefaults.ofScheme o.scheme, ?_, ?_⟩
    · rw [CookieDefaults.ofOrigin?, CookieDefaults.ofOrigin, hparse]
      rfl
    · rw [CookieDefaults.ofScheme, Origin.isSecureScheme_iff hparse]
      simp [ServedSecurely, given, hparse]

end

end Settings

namespace Console

variable {settings : Settings} {around : Surroundings}

/-! ## The steps of a start -/

/-- A watchdog fails to start when it is wanted and there is no runtime for it. -/
theorem watchdog_eq_error_iff {hasRuntime : Bool} {e : StartError} :
    watchdog settings hasRuntime = .error e ↔
      settings.WantsWatchdog ∧ hasRuntime = false ∧ e = .noRuntime := by
  rw [Settings.wantsWatchdog_iff, watchdog]
  cases settings.idleConfig with
  | none => simp
  | some config => cases hasRuntime <;> simp [eq_comm]

/-- The watchdog that a start gives is one that begins. -/
theorem of_watchdog {hasRuntime : Bool} {w? : Option Watchdog} (h : watchdog settings hasRuntime = .ok w?) :
    ((∃ w, w? = some w) ↔ settings.WantsWatchdog) ∧ ∀ w, w? = some w → ∃ config, w = Watchdog.start config 0 := by
  rw [Settings.wantsWatchdog_iff]
  unfold watchdog at h
  cases hconfig : settings.idleConfig with
  | none =>
    rw [hconfig] at h
    obtain rfl := Except.ok.inj h
    simp
  | some config =>
    rw [hconfig] at h
    cases hasRuntime with
    | false => cases h
    | true =>
      obtain rfl := Except.ok.inj h
      exact ⟨by simp, fun w hw => ⟨config, (Option.some.inj hw).symm⟩⟩

/-- Settings that passed their check are put together to a console, but for the watchdog. -/
theorem exists_assembled (valid : settings.validate = .ok ()) (around : Surroundings) (diagnostics : Diagnostics) :
    ∃ cookies table, (cookies.secure = true ↔ settings.ServedSecurely) ∧
      assemble settings around diagnostics = (watchdog settings around.hasRuntime).map fun w? =>
        { settings, cookies,
          session := Session.start
            (Navigator.start table settings.locationMode
              { around.services with diagnostics, serverPath := settings.serverPath })
            (Loader.start Site.bundles settings.debug around.plan) w? } := by
  obtain ⟨cookies, hcookies, hsecure⟩ := Settings.exists_cookies valid
  obtain ⟨table, htable, _⟩ := Site.exists_surveyed
  refine ⟨cookies, table, hsecure, ?_⟩
  rw [assemble, hcookies, htable]
  cases watchdog settings around.hasRuntime <;> rfl

/-- A start with invalid settings ends with what is wrong with them, and changes nothing. -/
theorem start_of_invalid {e : SettingsError} (h : settings.validate = .error e) :
    start settings around = ⟨.error (.settings e), around.services.diagnostics⟩ := by
  rw [start, h]

/-- A start with valid settings assembles the console, and raises the level if it is served on the developer's own
machine. -/
theorem start_of_valid (valid : settings.validate = .ok ()) :
    start settings around = ⟨assemble settings around (start settings around).diagnostics,
      if settings.isLocalhost then around.services.diagnostics.setLevel Diagnostics.maxLevel
      else around.services.diagnostics⟩ := by
  rw [start, valid]

/-! ## What a start comes to -/

/-- What is known of a console that was started, and of the diagnostics channel that it has left. -/
structure Started (settings : Settings) (around : Surroundings) (console : Console) (after : Diagnostics) : Prop where
  channel : console.diagnostics = after
  locally : settings.ServedLocally → after = { around.services.diagnostics with level := 3 }
  elsewhere : ¬ settings.ServedLocally → after = around.services.diagnostics
  secure : console.cookies.secure = true ↔ settings.ServedSecurely
  mode : console.session.navigator.mode = settings.locationMode
  watched : (∃ w, console.session.watchdog = some w) ↔ settings.WantsWatchdog
  active : ∀ w, console.session.watchdog = some w → w.running = true ∧ w.published = .active

/-- What it means that a start fails for two reasons, and otherwise gives the console that the settings describe. -/
structure StartOutcomes (settings : Settings) (around : Surroundings) : Prop where
  /-- Before the settings have passed their check nothing else is done. -/
  invalid : ∀ e, settings.validate = .error e →
    start settings around = ⟨.error (.settings e), around.services.diagnostics⟩
  error_iff : ∀ e, (start settings around).console = .error e ↔
    (∃ fault, settings.validate = .error fault ∧ e = .settings fault) ∨
      settings.validate = .ok () ∧ settings.WantsWatchdog ∧ around.hasRuntime = false ∧ e = .noRuntime
  fails_iff : (∃ e, (start settings around).console = .error e) ↔
    (∃ fault, settings.validate = .error fault) ∨ settings.WantsWatchdog ∧ around.hasRuntime = false
  started : ∀ console, (start settings around).console = .ok console →
    Started settings around console (start settings around).diagnostics

/-- A start with valid settings fails only for want of a runtime. -/
theorem error_iff_of_valid (valid : settings.validate = .ok ()) {e : StartError} :
    (start settings around).console = .error e ↔
      settings.WantsWatchdog ∧ around.hasRuntime = false ∧ e = .noRuntime := by
  rw [start_of_valid valid, ← watchdog_eq_error_iff]
  obtain ⟨cookies, table, _, hassembled⟩ := exists_assembled valid around (start settings around).diagnostics
  rw [hassembled]
  cases watchdog settings around.hasRuntime <;> simp [Except.map]

/-- A start with valid settings that succeeds gives the console that they describe. -/
theorem started_of_valid (valid : settings.validate = .ok ()) {console : Console}
    (h : (start settings around).console = .ok console) :
    Started settings around console (start settings around).diagnostics := by
  obtain ⟨cookies, table, hsecure, hassembled⟩ := exists_assembled valid around (start settings around).diagnostics
  have hconsole := h
  rw [start_of_valid valid, hassembled] at hconsole
  obtain ⟨w?, hwatchdog, rfl⟩ := Result.ok_of_map hconsole
  obtain ⟨hwatched, hbegun⟩ := of_watchdog hwatchdog
  have hchannel : (start settings around).diagnostics =
      if settings.isLocalhost then around.services.diagnostics.setLevel Diagnostics.maxLevel
      else around.services.diagnostics := by
    rw [start_of_valid valid]
  refine ⟨rfl, fun hlocal => ?_, fun hforeign => ?_, hsecure, rfl, hwatched, fun w hw => ?_⟩
  · rw [hchannel, if_pos (Settings.isLocalhost_iff.mpr hlocal)]
    rfl
  · rw [hchannel, if_neg (mt Settings.isLocalhost_iff.mp hforeign)]
  · obtain ⟨config, rfl⟩ := hbegun w hw
    exact ⟨rfl, rfl⟩

/-- **A start fails for exactly two reasons**: settings that do not pass their check, and a watchdog that is wanted
where nobody keeps the time. -/
theorem start_fails_for_two_reasons (settings : Settings) (around : Surroundings) :
    StartOutcomes settings around := by
  cases hvalid : settings.validate with
  | error fault =>
    have hstart : start settings around = ⟨.error (.settings fault), around.services.diagnostics⟩ :=
      start_of_invalid hvalid
    refine ⟨fun e h => start_of_invalid h, fun e => ?_, ?_, fun console h => ?_⟩
    · rw [hstart]
      simp only [hvalid, Except.error.injEq, exists_eq_left', reduceCtorEq, false_and, or_false]
      exact eq_comm
    · rw [hstart]
      simp [hvalid]
    · rw [hstart] at h
      cases h
  | ok _ =>
    refine ⟨fun e h => start_of_invalid h, fun e => ?_, ?_, fun console h => started_of_valid hvalid h⟩
    · rw [error_iff_of_valid hvalid]
      simp [hvalid]
    · simp [error_iff_of_valid hvalid, hvalid]

end Console

end AdminConsole
