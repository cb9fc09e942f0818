import AdminConsole.Proofs.Number.WrittenIntegers
import AdminConsole.Proofs.Result
import AdminConsole.Proofs.Text.AnyCase
import AdminConsole.Settings.Environment

/-!
# What the environment overrides

Nine variables override one field each. Main statement: the environment is accepted exactly if the durations it gives
are integers of 64 bits and the location mode it gives is one of the two, and of others the first one at fault is
reported; then every field has the value that its own variable gives, and where that is not set the field is as it
was. So the environment can be applied again without a change, and environments that set different variables can be
applied in any order.

All of this follows from one description of the settings after the environment, variable by variable.
-/

set_option autoImplicit false

namespace AdminConsole

/-- A variable of the environment that overrides a field of the settings. -/
inductive SettingsVariable where
  | debug
  | idleTime
  | idleTimeout
  | locationMode
  | serverPath
  | origin
  | hostname
  | logLevel
  | logFormat
  deriving DecidableEq, Repr

namespace SettingsVariable

/-- The variable as it is called in the environment. -/
def name : SettingsVariable → String
  | .debug => "BEHEER_DEBUG"
  | .idleTime => "BEHEER_IDLE_TIME"
  | .idleTimeout => "BEHEER_IDLE_TIMEOUT"
  | .locationMode => "BEHEER_LOCATION_MODE"
  | .serverPath => "BEHEER_SERVER_PATH"
  | .origin => "BEHEER_ORIGIN"
  | .hostname => "BEHEER_HOSTNAME"
  | .logLevel => "BEHEER_LOG_LEVEL"
  | .logFormat => "BEHEER_LOG_FORMAT"

/-- What the field of the variable holds. -/
abbrev Value : SettingsVariable → Type
  | .debug => Bool
  | .idleTime | .idleTimeout => Option Int
  | .locationMode => LocationMode
  | .serverPath | .logLevel | .logFormat => String
  | .origin | .hostname => Option String

/-- The field that the variable overrides. -/
def field (s : Settings) : (v : SettingsVariable) → v.Value
  | .debug => s.debug
  | .idleTime => s.idle.time
  | .idleTimeout => s.idle.timeout
  | .locationMode => s.locationMode
  | .serverPath => s.serverPath
  | .origin => s.origin
  | .hostname => s.hostname
  | .logLevel => s.logging.level
  | .logFormat => s.logging.format

/-- The value that a text gives to the field. -/
def read : (v : SettingsVariable) → String → Except SettingsError v.Value
  | .debug, text => .ok (Settings.readDebug text)
  | .idleTime, text => (Settings.readSeconds "BEHEER_IDLE_TIME" text).map some
  | .idleTimeout, text => (Settings.readSeconds "BEHEER_IDLE_TIMEOUT" text).map some
  | .locationMode, text => Settings.readLocationMode text
  | .serverPath, text => .ok text
  | .origin, text => .ok (some text)
  | .hostname, text => .ok (some text)
  | .logLevel, text => .ok text
  | .logFormat, text => .ok text

/-- The value of the field after the environment, if the variable can be read. -/
def pick (e : Environment) (s : Settings) (v : SettingsVariable) : Except SettingsError v.Value :=
  Settings.override e v.name v.read (field s v)

/-- What is wrong with the variable in this environment. -/
def fault? (e : Environment) (v : SettingsVariable) : Option SettingsError :=
  match (e.get? v.name).map v.read with
  | some (.error err) => some err
  | _ => none

/-- Whether the field has the value that the environment gives, or else the value from before. -/
def Overrides (e : Environment) (s t : Settings) (v : SettingsVariable) : Prop :=
  (∀ text, e.get? v.name = some text → v.read text = .ok (field t v)) ∧
    (e.get? v.name = none → field t v = field s v)

/-- Whether a text stands for seconds: without the white space around it, it writes an integer of 64 bits. -/
def GivesSeconds (text : String) : Prop :=
  ∃ n, IntegerRange.IsWritten (Text.trim text.toList) n ∧ -9223372036854775808 ≤ n ∧ n ≤ 9223372036854775807

/-- Whether a text asks for debugging: it is `1`, or `true` in letters of any case. -/
def AsksForDebugging (text : String) : Prop :=
  text = "1" ∨ text.toList.map Char.toLower = "true".toList

/-- The texts that the variable may have. -/
def Accepts : SettingsVariable → String → Prop
  | .idleTime, text | .idleTimeout, text => GivesSeconds text
  | .locationMode, text => Text.lowercase text = "hash" ∨ Text.lowercase text = "html5"
  | _, _ => True

/-- Whether the variable is not set, or has one of its texts. -/
def Acceptable (e : Environment) (v : SettingsVariable) : Prop :=
  ∀ text, e.get? v.name = some text → v.Accepts text

/-! ## Reading one variable -/

/-- No letter outside the Latin alphabet has a lower-case form that stands in `true`. -/
theorem readDebug_iff {text : String} : Settings.readDebug text = true ↔ AsksForDebugging text := by
  have hword : Text.lowercase text = "true" ↔ text.toList.map Char.toLower = "true".toList := by
    rw [← Text.lowercase_eq_iff (by decide) text, String.ofList_toList]
  rw [Settings.readDebug, Bool.or_eq_true, beq_iff_eq, beq_iff_eq, hword, AsksForDebugging, or_comm]

/-- Seconds are read from an integer of 64 bits that is written with white space around it. -/
theorem readSeconds_eq_ok_iff (name : String) {text : String} {n : Int} :
    Settings.readSeconds name text = .ok n ↔
      IntegerRange.IsWritten (Text.trim text.toList) n ∧ -9223372036854775808 ≤ n ∧ n ≤ 9223372036854775807 := by
  have hread : (IntegerRange.signed 64).read (Text.trim text.toList) = .ok n ↔
      IntegerRange.IsWritten (Text.trim text.toList) n ∧ -9223372036854775808 ≤ n ∧ n ≤ 9223372036854775807 :=
    IntegerRange.read_eq_ok_iff (by decide) (by decide) _
  rw [← hread, Settings.readSeconds]
  cases (IntegerRange.signed 64).read (Text.trim text.toList) <;> simp [Except.mapError]

/-- A location mode is read from its label in letters of any case. -/
theorem readLocationMode_eq_ok_iff {text : String} {mode : LocationMode} :
    Settings.readLocationMode text = .ok mode ↔ Text.lowercase text = mode.label := by
  unfold Settings.readLocationMode
  generalize Text.lowercase text = lower
  by_cases hhash : lower = "hash"
  · subst hhash
    cases mode <;> decide
  · by_cases hhtml5 : lower = "html5"
    · subst hhtml5
      cases mode <;> decide
    · have hunknown : LocationMode.ofLabel? lower = none := by
        simp [LocationMode.ofLabel?, LocationMode.label, Ne.symm hhash, Ne.symm hhtml5]
      simp only [hunknown]
      cases mode <;> simp [LocationMode.label, hhash, hhtml5]

/-- A variable can be read exactly if it has one of its texts. -/
theorem exists_read_iff (v : SettingsVariable) (text : String) :
    (∃ value, v.read text = .ok value) ↔ v.Accepts text := by
  have hseconds : ∀ name, (∃ value, (Settings.readSeconds name text).map some = .ok value) ↔ GivesSeconds text := by
    intro name
    simp only [GivesSeconds, ← readSeconds_eq_ok_iff name]
    cases Settings.readSeconds name text <;> simp [Except.map]
  cases v with
  | idleTime => exact hseconds _
  | idleTimeout => exact hseconds _
  | locationMode =>
    simp only [read, Accepts, readLocationMode_eq_ok_iff]
    constructor
    · rintro ⟨mode, hmode⟩
      cases mode with
      | hash => exact .inl hmode
      | html5 => exact .inr hmode
    · rintro (hhash | hhtml5)
      · exact ⟨.hash, hhash⟩
      · exact ⟨.html5, hhtml5⟩
  -- the other six take every text
  | _ => exact ⟨fun _ => trivial, fun _ => ⟨_, rfl⟩⟩

/-- The message for seconds that cannot be read names the variable and says why. -/
theorem message_badSeconds (name : String) (error : IntegerError) : (SettingsError.badSeconds name error).message =
    "Parse error: " ++ name ++ " must be " ++ ("a number of seconds: " ++ error.message) := by
  have hjoined : "Parse error: " ++ name ++ " must be " ++ "a number of seconds: " =
      "Parse error: " ++ name ++ " must be a number of seconds: " := by
    rw [String.append_assoc]
    simp
  rw [← String.append_assoc, hjoined]
  rfl

/-- The message for a location mode that cannot be read names the variable and quotes its text. -/
theorem message_badLocationMode (text : String) : (SettingsError.badLocationMode text).message =
    "Parse error: " ++ "BEHEER_LOCATION_MODE" ++ " must be " ++ ("'hash' or 'html5', got '" ++ text ++ "'") := by
  have hjoined : "Parse error: " ++ "BEHEER_LOCATION_MODE" ++ " must be " ++ "'hash' or 'html5', got '" =
      "Parse error: BEHEER_LOCATION_MODE must be 'hash' or 'html5', got '" := by simp
  rw [← String.append_assoc, ← String.append_assoc, hjoined]
  rfl

/-- The text of every fault begins with the variable that is at fault. -/
theorem message_of_read {v : SettingsVariable} {text : String} {err : SettingsError} (h : v.read text = .error err) :
    ∃ rest, err.message = "Parse error: " ++ v.name ++ " must be " ++ rest := by
  have hseconds : ∀ name, (Settings.readSeconds name text).map some = .error err →
      ∃ rest, err.message = "Parse error: " ++ name ++ " must be " ++ rest := by
    intro name hname
    obtain ⟨reason, -, rfl⟩ := Result.error_of_mapError (Result.error_of_map hname)
    exact ⟨_, message_badSeconds name reason⟩
  cases v with
  | idleTime => exact hseconds _ h
  | idleTimeout => exact hseconds _ h
  | locationMode =>
    simp only [read, Settings.readLocationMode] at h
    split at h
    · cases h
    · rw [← Except.error.inj h]
      exact ⟨_, message_badLocationMode _⟩
  | _ => cases h

section

variable {e : Environment} {s t : Settings} {v : SettingsVariable}

/-- Nothing is wrong with a variable that is acceptable. -/
theorem fault?_eq_none_iff : fault? e v = none ↔ Acceptable e v := by
  rw [fault?, Acceptable]
  cases e.get? v.name with
  | none => simp
  | some text =>
    simp only [Option.map_some, Option.some.injEq, forall_eq', ← exists_read_iff]
    cases v.read text <;> simp

/-- A variable with which something is wrong is set, to a text that cannot be read. -/
theorem exists_of_fault? {err : SettingsError} (h : fault? e v = some err) :
    ∃ text, e.get? v.name = some text ∧ v.read text = .error err := by
  unfold fault? at h
  cases hset : e.get? v.name with
  | none =>
    rw [hset] at h
    cases h
  | some text =>
    refine ⟨text, rfl, ?_⟩
    cases hread : v.read text with
    | ok value =>
      simp only [hset, Option.map_some, hread] at h
      cases h
    | error reason =>
      simp only [hset, Option.map_some, hread, Option.some.injEq] at h
      rw [h]

/-- A field is picked from the text of its variable, or left as it is where the variable is not set. -/
theorem pick_eq_ok_iff {value : v.Value} : pick e s v = .ok value ↔
    (∀ text, e.get? v.name = some text → v.read text = .ok value) ∧ (e.get? v.name = none → value = field s v) := by
  rw [pick, Settings.override]
  cases e.get? v.name with
  | none => simp [eq_comm]
  | some text => simp

/-- A field cannot be picked if something is wrong with its variable, which is then told. -/
theorem pick_eq_error_iff {err : SettingsError} : pick e s v = .error err ↔ fault? e v = some err := by
  rw [pick, Settings.override, fault?]
  cases e.get? v.name with
  | none => simp
  | some text => cases hread : v.read text <;> simp [hread]

/-- Nothing is wrong with a variable from which the field was picked. -/
theorem fault?_of_pick {value : v.Value} (h : pick e s v = .ok value) : fault? e v = none := by
  cases hfault : fault? e v with
  | none => rfl
  | some err =>
    rw [pick_eq_error_iff.mpr hfault] at h
    cases h

/-- A variable that may be at fault comes before the ones that are read after it. -/
theorem bind_pick_eq_error_iff {β : Type} {next : v.Value → Except SettingsError β} {after : List SettingsVariable}
    {err : SettingsError} (hnext : ∀ value, next value = .error err ↔ after.findSome? (fault? e) = some err) :
    (pick e s v >>= next) = .error err ↔ (v :: after).findSome? (fault? e) = some err := by
  rw [List.findSome?_cons]
  cases hpick : pick e s v with
  | error reason =>
    rw [pick_eq_error_iff.mp hpick]
    exact ⟨fun h => congrArg some (Except.error.inj h), fun h => congrArg Except.error (Option.some.inj h)⟩
  | ok value =>
    rw [fault?_of_pick hpick]
    exact hnext value

/-- An acceptable variable leaves it to the next ones to fail. -/
theorem bind_pick_iff_of_acceptable {β : Type} {next : v.Value → Except SettingsError β} {err : SettingsError}
    {P : Prop} (acceptable : Acceptable e v) (hnext : ∀ value, next value = .error err ↔ P) :
    (pick e s v >>= next) = .error err ↔ P := by
  cases hpick : pick e s v with
  | error reason =>
    have hfault : fault? e v = some reason := pick_eq_error_iff.mp hpick
    rw [fault?_eq_none_iff.mpr acceptable] at hfault
    cases hfault
  | ok value => exact hnext value

/-- The field after the environment is told by the environment and the field before it. -/
theorem Overrides.field_eq {s' t' : Settings} (h : Overrides e s t v) (h' : Overrides e s' t' v)
    (same : field s v = field s' v) : field t v = field t' v := by
  cases hset : e.get? v.name with
  | none => rw [h.2 hset, h'.2 hset, same]
  | some text => exact Except.ok.inj ((h.1 text hset).symm.trans (h'.1 text hset))

/-- What the environment has overridden it does not change when it is applied again. -/
theorem Overrides.again (h : Overrides e s t v) : Overrides e t t v :=
  ⟨h.1, fun _ => rfl⟩

end

end SettingsVariable

namespace Settings

open SettingsVariable

variable {e f : Environment} {s t u : Settings}

/-- Nine fields and the installation's own values are all that settings have. -/
theorem eq_of_fields (fields : ∀ v, field s v = field t v) (custom : s.custom = t.custom) : s = t := by
  obtain ⟨debug, ⟨time, timeout⟩, locationMode, serverPath, origin, hostname, ⟨level, format⟩, own⟩ := s
  obtain ⟨debug', ⟨time', timeout'⟩, locationMode', serverPath', origin', hostname', ⟨level', format'⟩, own'⟩ := t
  obtain rfl : debug = debug' := fields .debug
  obtain rfl : time = time' := fields .idleTime
  obtain rfl : timeout = timeout' := fields .idleTimeout
  obtain rfl : locationMode = locationMode' := fields .locationMode
  obtain rfl : serverPath = serverPath' := fields .serverPath
  obtain rfl : origin = origin' := fields .origin
  obtain rfl : hostname = hostname' := fields .hostname
  obtain rfl : level = level' := fields .logLevel
  obtain rfl : format = format' := fields .logFormat
  obtain rfl : own = own' := custom
  rfl

/-- The environment is applied by picking each field in turn. -/
theorem applyEnvironment_eq (s : Settings) (e : Environment) : s.applyEnvironment e = (do
    let debug ← pick e s .debug
    let time ← pick e s .idleTime
    let timeout ← pick e s .idleTimeout
    let locationMode ← pick e s .locationMode
    let serverPath ← pick e s .serverPath
    let origin ← pick e s .origin
    let hostname ← pick e s .hostname
    let level ← pick e s .logLevel
    let format ← pick e s .logFormat
    return { s with
      debug, idle := ⟨time, timeout⟩, locationMode, serverPath, origin, hostname, logging := ⟨level, format⟩ }) :=
  rfl

/-- **The settings after an environment**, variable by variable. -/
theorem applyEnvironment_eq_ok_iff :
    s.applyEnvironment e = .ok t ↔ (∀ v, Overrides e s t v) ∧ t.custom = s.custom := by
  rw [applyEnvironment_eq]
  constructor
  · intro h
    obtain ⟨debug, hdebug, h⟩ := Result.ok_of_bind h
    obtain ⟨time, htime, h⟩ := Result.ok_of_bind h
    obtain ⟨timeout, htimeout, h⟩ := Result.ok_of_bind h
    obtain ⟨locationMode, hmode, h⟩ := Result.ok_of_bind h
    obtain ⟨serverPath, hpath, h⟩ := Result.ok_of_bind h
    obtain ⟨origin, horigin, h⟩ := Result.ok_of_bind h
    obtain ⟨hostname, hhostname, h⟩ := Result.ok_of_bind h
    obtain ⟨level, hlevel, h⟩ := Result.ok_of_bind h
    obtain ⟨format, hformat, h⟩ := Result.ok_of_bind h
    obtain rfl := Except.ok.inj h
    refine ⟨fun v => ?_, rfl⟩
    cases v with
    | debug => exact pick_eq_ok_iff.mp hdebug
    | idleTime => exact pick_eq_ok_iff.mp htime
    | idleTimeout => exact pick_eq_ok_iff.mp htimeout
    | locationMode => exact pick_eq_ok_iff.mp hmode
    | serverPath => exact pick_eq_ok_iff.mp hpath
    | origin => exact pick_eq_ok_iff.mp horigin
    | hostname => exact pick_eq_ok_iff.mp hhostname
    | logLevel => exact pick_eq_ok_iff.mp hlevel
    | logFormat => exact pick_eq_ok_iff.mp hformat
  · rintro ⟨hfields, hcustom⟩
    have hpick : ∀ v, pick e s v = .ok (field t v) := fun v => pick_eq_ok_iff.mpr (hfields v)
    simp only [hpick]
    exact congrArg Except.ok (eq_of_fields (fun v => by cases v <;> rfl) hcustom.symm)

/-- What is reported is the first fault of the three variables that can be at fault. -/
theorem applyEnvironment_eq_error_iff {err : SettingsError} : s.applyEnvironment e = .error err ↔
    [SettingsVariable.idleTime, .idleTimeout, .locationMode].findSome? (fault? e) = some err := by
  rw [applyEnvironment_eq]
  refine bind_pick_iff_of_acceptable (fun _ _ => trivial) fun debug => ?_
  refine bind_pick_eq_error_iff fun time => ?_
  refine bind_pick_eq_error_iff fun timeout => ?_
  refine bind_pick_eq_error_iff fun locationMode => ?_
  refine bind_pick_iff_of_acceptable (fun _ _ => trivial) fun serverPath => ?_
  refine bind_pick_iff_of_acceptable (fun _ _ => trivial) fun origin => ?_
  refine bind_pick_iff_of_acceptable (fun _ _ => trivial) fun hostname => ?_
  refine bind_pick_iff_of_acceptable (fun _ _ => trivial) fun level => ?_
  refine bind_pick_iff_of_acceptable (fun _ _ => trivial) fun format => ?_
  exact iff_of_false nofun nofun

/-- What an environment does to settings. -/
structure EnvironmentApplied (s : Settings) (e : Environment) : Prop where
  /-- Whether the environment is accepted is decided by three variables, and not by the settings. -/
  accepted : (∃ t, s.applyEnvironment e = .ok t) ↔
    Acceptable e .idleTime ∧ Acceptable e .idleTimeout ∧ Acceptable e .locationMode
  /-- Otherwise the first of them that is at fault is named, with what is wrong with its text. -/
  refused : ∀ err, s.applyEnvironment e = .error err → ∃ before v after,
    [SettingsVariable.idleTime, .idleTimeout, .locationMode] = before ++ v :: after ∧
      (∀ u ∈ before, Acceptable e u) ∧ ¬ Acceptable e v ∧
      (∃ text, e.get? v.name = some text ∧ v.read text = .error err) ∧
      ∃ rest, err.message = "Parse error: " ++ v.name ++ " must be " ++ rest
  /-- A field whose variable is set has the value that the variable gives, whatever else there is. -/
  given : ∀ t, s.applyEnvironment e = .ok t → ∀ (v : SettingsVariable) (text : String),
    e.get? v.name = some text → v.read text = .ok (field t v)
  /-- No text is refused where debugging is asked for, and those that do not ask for it forbid it. -/
  debug : ∀ t, s.applyEnvironment e = .ok t → ∀ text, e.get? SettingsVariable.debug.name = some text →
    (t.debug = true ↔ AsksForDebugging text)
  kept : ∀ t, s.applyEnvironment e = .ok t → ∀ v : SettingsVariable, e.get? v.name = none → field t v = field s v
  custom : ∀ t, s.applyEnvironment e = .ok t → t.custom = s.custom
  again : ∀ t, s.applyEnvironment e = .ok t → t.applyEnvironment e = .ok t
  /-- Environments that have no variable in common can be applied in any order. -/
  commutes : ∀ f t u, s.applyEnvironment e = .ok t → s.applyEnvironment f = .ok u →
    (∀ v : SettingsVariable, e.get? v.name = none ∨ f.get? v.name = none) →
    ∃ w, t.applyEnvironment f = .ok w ∧ u.applyEnvironment e = .ok w

/-- The environment can be applied if the three variables are acceptable that may fail to be read. -/
theorem exists_applyEnvironment_iff : (∃ t, s.applyEnvironment e = .ok t) ↔
    Acceptable e .idleTime ∧ Acceptable e .idleTimeout ∧ Acceptable e .locationMode := by
  have hfaultless : [SettingsVariable.idleTime, .idleTimeout, .locationMode].findSome? (fault? e) = none ↔
      Acceptable e .idleTime ∧ Acceptable e .idleTimeout ∧ Acceptable e .locationMode := by
    simp [List.findSome?_eq_none_iff, fault?_eq_none_iff]
  rw [← hfaultless]
  cases happly : s.applyEnvironment e with
  | ok t =>
    refine iff_of_true ⟨t, rfl⟩ ?_
    rw [Option.eq_none_iff_forall_ne_some]
    intro err herr
    rw [applyEnvironment_eq_error_iff.mpr herr] at happly
    cases happly
  | error err =>
    rw [applyEnvironment_eq_error_iff.mp happly]
    simp

/-- What is reported is the fault of the first variable that has one. -/
theorem first_fault_of_error {err : SettingsError} (h : s.applyEnvironment e = .error err) : ∃ before v after,
    [SettingsVariable.idleTime, .idleTimeout, .locationMode] = before ++ v :: after ∧
      (∀ u ∈ before, Acceptable e u) ∧ fault? e v = some err := by
  obtain ⟨before, v, after, hsplit, hfault, hbefore⟩ :=
    List.findSome?_eq_some_iff.mp (applyEnvironment_eq_error_iff.mp h)
  exact ⟨before, v, after, hsplit, fun u hu => fault?_eq_none_iff.mp (hbefore u hu), hfault⟩

/-- Of two environments with no variable in common, each overrides as much after the other as before it. -/
theorem commutes_of_disjoint (ht : s.applyEnvironment e = .ok t) (hu : s.applyEnvironment f = .ok u)
    (disjoint : ∀ v : SettingsVariable, e.get? v.name = none ∨ f.get? v.name = none) :
    ∃ w, t.applyEnvironment f = .ok w ∧ u.applyEnvironment e = .ok w := by
  obtain ⟨w, hw⟩ : ∃ w, t.applyEnvironment f = .ok w :=
    exists_applyEnvironment_iff.mpr (exists_applyEnvironment_iff.mp ⟨u, hu⟩)
  refine ⟨w, hw, ?_⟩
  obtain ⟨hte, htcustom⟩ := applyEnvironment_eq_ok_iff.mp ht
  obtain ⟨huf, hucustom⟩ := applyEnvironment_eq_ok_iff.mp hu
  obtain ⟨hwf, hwcustom⟩ := applyEnvironment_eq_ok_iff.mp hw
  refine applyEnvironment_eq_ok_iff.mpr ⟨fun v => ?_, by rw [hwcustom, htcustom, hucustom]⟩
  rcases disjoint v with hunset | hunset
  · -- only the second environment may set the variable
    have hsame : field t v = field s v := (hte v).2 hunset
    exact ⟨fun text htext => by simp [hunset] at htext, fun _ => (hwf v).field_eq (huf v) hsame⟩
  · have hsame : field w v = field t v := (hwf v).2 hunset
    exact ⟨fun text htext => by rw [hsame]; exact (hte v).1 text htext,
      fun hnone => by rw [hsame, (hte v).2 hnone, (huf v).2 hunset]⟩

/-- **An environment overrides the fields of its variables**, and nothing else. -/
theorem environment_applied (s : Settings) (e : Environment) : EnvironmentApplied s e where
  accepted := exists_applyEnvironment_iff
  refused := by
    intro err herr
    obtain ⟨before, v, after, hsplit, hbefore, hfault⟩ := first_fault_of_error herr
    obtain ⟨text, htext, hread⟩ := exists_of_fault? hfault
    refine ⟨before, v, after, hsplit, hbefore, ?_, ⟨text, htext, hread⟩, message_of_read hread⟩
    intro hacceptable
    rw [fault?_eq_none_iff.mpr hacceptable] at hfault
    cases hfault
  given := fun t ht v => ((applyEnvironment_eq_ok_iff.mp ht).1 v).1
  debug := by
    intro t ht text htext
    have hread := ((applyEnvironment_eq_ok_iff.mp ht).1 .debug).1 text htext
    rw [← readDebug_iff]
    exact Bool.eq_iff_iff.mp (Except.ok.inj hread).symm
  kept := fun t ht v => ((applyEnvironment_eq_ok_iff.mp ht).1 v).2
  custom := fun t ht => (applyEnvironment_eq_ok_iff.mp ht).2
  again := by
    intro t ht
    obtain ⟨hfields, -⟩ := applyEnvironment_eq_ok_iff.mp ht
    exact applyEnvironment_eq_ok_iff.mpr ⟨fun v => (hfields v).again, rfl⟩
  commutes := fun f t u => commutes_of_disjoint

end Settings

end AdminConsole
