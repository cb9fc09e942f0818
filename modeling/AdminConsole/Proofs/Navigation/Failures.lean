import AdminConsole.Proofs.Diagnostics.Reports
import AdminConsole.Proofs.Navigation.JointTraffic

/-!
# Failures are reported once

A navigation fails when its target is refused, or when its calls have failed together and no other navigation
has begun since it did. It then leaves the active route alone, and what it reports is one record with the text of
its error. A navigation whose calls fail after it was overtaken is superseded, and neither this nor a success
reports anything. So over any run the records count the navigations that failed, as long as nobody else makes
such records or takes the sink away. This holds of sessions too, by `Session.exists_jointTraffic`.

When calls have failed together is told by `Join.outcome`. Up to thirty of them have as soon as one has. More than
thirty have only when all before the failing one have succeeded, so that a navigation to a route with that many
bundles may be overtaken after one of its calls has failed, and is then superseded without a report.
-/

set_option autoImplicit false

namespace AdminConsole

open NavigationHistory

/-! ## What is recorded -/

/-- The error of a navigation that failed. -/
def NavigationNotice.error? : NavigationNotice → Option RouterError
  | .ended _ _ (.error e) => some e
  | _ => none

/-- The errors that navigations have returned, in order. -/
def NavigationHistory.errors (history : NavigationHistory) : List RouterError :=
  history.filterMap NavigationNotice.error?

/-- The ticket of a navigation that was superseded. -/
def NavigationNotice.superseded? : NavigationNotice → Option Nat
  | .ended navigation _ (.ok .superseded) => some navigation.ticket
  | _ => none

namespace NavigationHistory

/-- The tickets of the navigations that were superseded, in the order of their ends. -/
def superseded (history : NavigationHistory) : List Nat :=
  history.filterMap NavigationNotice.superseded?

variable (history : NavigationHistory)

/-- A navigation that begins returns no error. -/
@[simp] theorem errors_concat_began (ticket : Nat) :
    errors (history ++ [.began ticket]) = errors history := by
  simp [errors, NavigationNotice.error?]

/-- The error of a navigation comes after those before it. -/
@[simp] theorem errors_concat_failed (navigation : Navigation) (loads : Except BundleError Unit)
    (e : RouterError) :
    errors (history ++ [.ended navigation loads (.error e)]) = errors history ++ [e] := by
  simp [errors, NavigationNotice.error?]

/-- A navigation that succeeds or is superseded returns no error. -/
@[simp] theorem errors_concat_ok (navigation : Navigation) (loads : Except BundleError Unit)
    (outcome : NavigationOutcome) :
    errors (history ++ [.ended navigation loads (.ok outcome)]) = errors history := by
  simp [errors, NavigationNotice.error?]

end NavigationHistory

namespace GuardServices

/-- The texts of the failed navigations that the sink has received, in order. -/
def failures (services : GuardServices) : List String :=
  (services.diagnostics.records.filter fun r =>
    r.severity == .error && r.message == Navigator.failureMessage).map (·.detail)

/-- Whether a change of the services concerns neither the sink nor the failures it has received. -/
structure Undisturbed (before after : GuardServices) : Prop where
  failures : after.failures = before.failures
  installed : after.diagnostics.installed = before.diagnostics.installed

/-- Services that do not change are not disturbed. -/
theorem Undisturbed.refl (services : GuardServices) : services.Undisturbed services := ⟨rfl, rfl⟩

/-- Two changes in a row of which neither disturbs the services do not disturb them. -/
theorem Undisturbed.trans {before middle after : GuardServices} (first : before.Undisturbed middle)
    (second : middle.Undisturbed after) : before.Undisturbed after :=
  ⟨second.failures.trans first.failures, second.installed.trans first.installed⟩

/-- Where a sink is installed a failure is recorded at every level. -/
theorem failures_report (services : GuardServices) (detail : String)
    (installed : services.diagnostics.installed = true) :
    (services.report .error Navigator.failureMessage detail).failures =
      services.failures ++ [detail] := by
  have henabled : services.diagnostics.enabled .error = true := by
    simp [Diagnostics.enabled, Severity.minLevel]
  have hrecords := services.diagnostics.records_report .error Navigator.failureMessage detail
  simp only [failures, report, hrecords, List.filter_append, List.map_append]
  simp [henabled, installed]

end GuardServices

namespace JointTraffic

/-! ## How one navigation ends -/

/-- Whether a navigation ends in this way if it looks now. -/
def Ends (s : JointTraffic) (navigation : Navigation)
    (outcome : Except RouterError NavigationOutcome) : Prop :=
  ∃ loads, (s.step (.look navigation.ticket)).visits.history =
    s.visits.history ++ [.ended navigation loads outcome]

section

variable {s : JointTraffic} {navigation : Navigation}

/-- A navigation that looks ends as its loads demand, once they are settled. -/
theorem ends_iff (orderly : s.visits.Orderly) (underway : navigation ∈ s.visits.underway)
    (outcome : Except RouterError NavigationOutcome) :
    s.Ends navigation outcome ↔ ∃ result, Session.loadResult? (s.progress navigation) = some result ∧
      (s.visits.navigator.conclude navigation result).1 = outcome := by
  cases hsettled : Session.loadResult? (s.progress navigation) with
  | none =>
    have hsame : s.step (.look navigation.ticket) = s := by
      simp only [step, orderly.find?_underway underway, hsettled]
    constructor
    · rintro ⟨loads, hhistory⟩
      rw [hsame] at hhistory
      have hlength := congrArg List.length hhistory
      simp at hlength
    · rintro ⟨result, hnone, _⟩
      cases hnone
  | some result =>
    rw [Ends, step_look orderly underway hsettled]
    constructor
    · rintro ⟨loads, hhistory⟩
      have hlast := List.append_cancel_left hhistory
      injection (List.cons.inj hlast).1 with _ _ houtcome
      exact ⟨result, rfl, houtcome⟩
    · rintro ⟨other, hother, rfl⟩
      cases hother
      exact ⟨result, rfl⟩

/-- What is loaded comes to an error if it has failed. -/
theorem loadResult?_eq_error_iff {p : Progress BundleError} {e : BundleError} :
    Session.loadResult? p = some (.error e) ↔ p = .failed e := by
  cases p <;> simp [Session.loadResult?]

/-- A navigation that ends was concluded with what its bundles came to. -/
theorem concluded_of_ends (orderly : s.visits.Orderly) (underway : navigation ∈ s.visits.underway)
    {outcome : Except RouterError NavigationOutcome} (ends : s.Ends navigation outcome) :
    ∃ result, Session.loadResult? (s.progress navigation) = some result ∧
      s.visits.navigator.Concluded navigation result
        (outcome, (s.step (.look navigation.ticket)).visits.navigator) := by
  obtain ⟨result, hsettled, rfl⟩ := (ends_iff orderly underway outcome).mp ends
  rw [step_look orderly underway hsettled]
  exact ⟨result, hsettled, s.visits.navigator.concluded navigation result⟩

/-- **A navigation ends with an error** exactly if its target was refused, or its calls have failed and it was
not overtaken. -/
theorem ends_error_iff (orderly : s.visits.Orderly) (underway : navigation ∈ s.visits.underway)
    (e : RouterError) :
    s.Ends navigation (.error e) ↔ navigation.resolved = .error e ∨
      ∃ route source, navigation.resolved = .ok route ∧ s.progress navigation = .failed source ∧
        ¬ Overtaken s.visits.history navigation.ticket ∧ e = .dependencyLoad route.name source := by
  rw [overtaken_iff orderly.tickets (orderly.pending navigation underway), not_not]
  constructor
  · intro ends
    obtain ⟨result, hsettled, hconcluded⟩ := concluded_of_ends orderly underway ends
    generalize (s.step (.look navigation.ticket)).visits.navigator = after at hconcluded
    cases hconcluded with
    | refused _ resolved => exact .inl resolved
    | failed route source resolved failure latest =>
      rw [failure, loadResult?_eq_error_iff] at hsettled
      exact .inr ⟨route, source, resolved, hsettled, latest, rfl⟩
  · rw [ends_iff orderly underway]
    rintro (refused | ⟨route, source, resolved, failed, latest, rfl⟩)
    · refine ⟨.ok (), s.loadResult?_of_refused refused, ?_⟩
      simp only [Navigator.conclude, refused, Navigator.fail]
    · refine ⟨.error source, loadResult?_eq_error_iff.mpr failed, ?_⟩
      simp [Navigator.conclude, resolved, Navigator.finish, Navigator.isStale, latest,
        Navigator.fail]

/-- A navigation that ends with an error reports it, and changes nothing else of the navigator. -/
theorem navigator_of_ends_error (orderly : s.visits.Orderly)
    (underway : navigation ∈ s.visits.underway) {e : RouterError}
    (ends : s.Ends navigation (.error e)) :
    (s.step (.look navigation.ticket)).visits.navigator = s.visits.navigator.report e := by
  obtain ⟨result, _, hconcluded⟩ := concluded_of_ends orderly underway ends
  generalize (s.step (.look navigation.ticket)).visits.navigator = after at hconcluded ⊢
  cases hconcluded <;> rfl

/-- A navigation that ends without an error leaves the services as they are. -/
theorem services_of_ends_ok (orderly : s.visits.Orderly)
    (underway : navigation ∈ s.visits.underway) {outcome : NavigationOutcome}
    (ends : s.Ends navigation (.ok outcome)) :
    (s.step (.look navigation.ticket)).visits.navigator.services = s.visits.navigator.services := by
  obtain ⟨result, _, hconcluded⟩ := concluded_of_ends orderly underway ends
  generalize (s.step (.look navigation.ticket)).visits.navigator = after at hconcluded ⊢
  cases hconcluded <;> rfl

/-- A navigation that was overtaken is superseded even if its bundles could not be loaded. -/
theorem ends_superseded (orderly : s.visits.Orderly) (underway : navigation ∈ s.visits.underway)
    {route : ResolvedRoute} (resolved : navigation.resolved = .ok route) {source : BundleError}
    (failed : s.progress navigation = .failed source)
    (overtaken : Overtaken s.visits.history navigation.ticket) :
    s.Ends navigation (.ok .superseded) := by
  rw [overtaken_iff orderly.tickets (orderly.pending navigation underway)] at overtaken
  rw [ends_iff orderly underway]
  refine ⟨.error source, loadResult?_eq_error_iff.mpr failed, ?_⟩
  have hstale : s.visits.navigator.isStale navigation.ticket = true := by
    rw [Navigator.isStale, bne_iff_ne]
    exact fun e => overtaken e.symm
  simp [Navigator.conclude, resolved, Navigator.finish, hstale]

/-- A navigation ends with some error exactly if its target was refused, or its calls have failed and it was not
overtaken. -/
theorem exists_ends_error_iff (orderly : s.visits.Orderly)
    (underway : navigation ∈ s.visits.underway) :
    (∃ e, s.Ends navigation (.error e)) ↔ (∃ e, navigation.resolved = .error e) ∨
      ¬ Overtaken s.visits.history navigation.ticket ∧ (s.progress navigation).isFailed = true := by
  simp only [ends_error_iff orderly underway, Progress.isFailed_iff]
  constructor
  · rintro ⟨e, refused | ⟨route, source, _, failed, latest, _⟩⟩
    · exact .inl ⟨e, refused⟩
    · exact .inr ⟨latest, source, failed⟩
  · rintro (⟨e, refused⟩ | ⟨latest, source, failed⟩)
    · exact ⟨e, .inl refused⟩
    · cases hresolved : navigation.resolved with
      | error e => exact ⟨e, .inl rfl⟩
      | ok route => exact ⟨_, .inr ⟨route, source, rfl, failed, latest, rfl⟩⟩

/-- Up to thirty calls have failed together as soon as one of them has. -/
theorem isFailed_progress (short : navigation.dependencies.length ≤ JoinMode.shortList) :
    (s.progress navigation).isFailed = true ↔
      ∃ place ∈ s.placesOf navigation, (s.loads.statusAt place).isFailed = true := by
  have hmode : JoinMode.ofCount (s.placesOf navigation).length = .together := by
    rw [placesOf, List.length_range', JoinMode.ofCount, if_pos short]
  rw [progress, LoadTraffic.statusOf, hmode, Join.isFailed_outcome (by decide), List.any_eq_true]

end

/-- What it means that navigations fail once each, and leave everything else as it is. -/
structure FailsOnce (s : JointTraffic) : Prop where
  /-- A navigation returns an error exactly if its target was refused, or its calls have failed and no other
  navigation has begun since it did. -/
  error : ∀ navigation ∈ s.visits.underway, ∀ e, s.Ends navigation (.error e) ↔
    navigation.resolved = .error e ∨
      ∃ route source, navigation.resolved = .ok route ∧ s.progress navigation = .failed source ∧
        ¬ Overtaken s.visits.history navigation.ticket ∧ e = .dependencyLoad route.name source
  /-- A target is refused because of too many redirects, or as a name without a route or that of a layout. -/
  refusal : ∀ navigation ∈ s.visits.underway, ∀ e, navigation.resolved = .error e →
    e.isRefusal = true
  /-- Then the active route is as it was, and one report is made with the text of the error. -/
  atomic : ∀ navigation ∈ s.visits.underway, ∀ e, s.Ends navigation (.error e) →
    (s.step (.look navigation.ticket)).visits.navigator.active = s.visits.navigator.active ∧
    (s.step (.look navigation.ticket)).visits.navigator.services =
      s.visits.navigator.services.report .error "Navigation failed" e.message
  superseded : ∀ navigation ∈ s.visits.underway, ∀ route source, navigation.resolved = .ok route →
    s.progress navigation = .failed source → Overtaken s.visits.history navigation.ticket →
      s.Ends navigation (.ok .superseded)
  /-- A navigation that returns no error reports nothing. -/
  silent : ∀ navigation ∈ s.visits.underway, ∀ outcome, s.Ends navigation (.ok outcome) →
    (s.step (.look navigation.ticket)).visits.navigator.services = s.visits.navigator.services
  /-- Up to thirty calls have failed together as soon as one of them has. -/
  failed : ∀ navigation ∈ s.visits.underway, navigation.dependencies.length ≤ JoinMode.shortList →
    ((s.progress navigation).isFailed = true ↔
      ∃ place ∈ s.placesOf navigation, (s.loads.statusAt place).isFailed = true)
  /-- So such a navigation returns an error as soon as one of its calls has failed, if it was not overtaken. -/
  errorAtOnce : ∀ navigation ∈ s.visits.underway,
    navigation.dependencies.length ≤ JoinMode.shortList →
      ((∃ e, s.Ends navigation (.error e)) ↔ (∃ e, navigation.resolved = .error e) ∨
        ¬ Overtaken s.visits.history navigation.ticket ∧
          ∃ place ∈ s.placesOf navigation, (s.loads.statusAt place).isFailed = true)
  /-- More than thirty have failed only when all before the failing one have succeeded. -/
  failedInOrder : ∀ navigation ∈ s.visits.underway,
    JoinMode.shortList < navigation.dependencies.length → ∀ source,
      (s.progress navigation = .failed source ↔
        ∃ before place after, s.placesOf navigation = before ++ place :: after ∧
          s.loads.statusAt place = .failed source ∧
          ∀ other ∈ before, s.loads.statusAt other = .succeeded)

/-- In sound traffic each navigation that fails is reported once. -/
theorem Sound.failsOnce {registry : BundleRegistry} {s : JointTraffic} (h : s.Sound registry)
    (refusal : ∀ navigation ∈ s.visits.underway, ∀ e, navigation.resolved = .error e →
      e.isRefusal = true) : s.FailsOnce where
  error := fun _ underway => ends_error_iff h.visits underway
  refusal := refusal
  atomic := by
    intro navigation underway e ends
    rw [navigator_of_ends_error h.visits underway ends]
    exact ⟨rfl, rfl⟩
  superseded := fun _ underway _ _ resolved failed overtaken =>
    ends_superseded h.visits underway resolved failed overtaken
  silent := fun _ underway _ ends => services_of_ends_ok h.visits underway ends
  failed := fun _ _ short => isFailed_progress short
  errorAtOnce := by
    intro navigation underway short
    rw [exists_ends_error_iff h.visits underway, isFailed_progress short]
  failedInOrder := by
    intro navigation underway hlong source
    have hmode : JoinMode.ofCount (s.placesOf navigation).length = .inOrder := by
      rw [placesOf, List.length_range', JoinMode.ofCount, if_neg (Nat.not_le_of_lt hlong)]
    have hpast : ∀ p : Progress BundleError, Join.seesPast .inOrder p = true ↔ p = .succeeded := by
      intro p
      cases p <;> simp [Join.seesPast]
    rw [progress, LoadTraffic.statusOf, hmode, Join.outcome_eq_failed_iff]
    simp only [hpast]

/-! ## How often navigations fail -/

/-- Whether an event leaves the sink and the failures in it alone, but for what navigations report. -/
def Quiet : JointEvent → Prop
  | .serve work => ∀ services : GuardServices, services.Undisturbed (work services)
  | _ => True

/-- Whether the sink has received one record for each navigation that failed, since the services were these. -/
structure Recorded (services : GuardServices) (s : JointTraffic) : Prop where
  failures : s.visits.navigator.services.failures =
    services.failures ++ (errors s.visits.history).map RouterError.message
  installed : s.visits.navigator.services.diagnostics.installed = true

namespace Recorded

variable {services : GuardServices} {s : JointTraffic}

/-- A change of the services that does not concern the failures. -/
theorem of_undisturbed (h : s.Recorded services) {s' : JointTraffic}
    (undisturbed : s.visits.navigator.services.Undisturbed s'.visits.navigator.services)
    (errors : errors s'.visits.history = NavigationHistory.errors s.visits.history) :
    s'.Recorded services where
  failures := by rw [undisturbed.failures, h.failures, errors]
  installed := by rw [undisturbed.installed, h.installed]

/-- A navigation that ends adds to the records of the sink if and only if it fails. -/
theorem leave (h : s.Recorded services) (navigation : Navigation)
    (loads : Except BundleError Unit) :
    ({ s with visits := s.visits.leave navigation loads } : JointTraffic).Recorded services := by
  have hconcluded := s.visits.navigator.concluded navigation loads
  have hreported : ∀ e : RouterError,
      (s.visits.navigator.report e).services.failures = services.failures ++
        (errors (s.visits.history ++ [.ended navigation loads (.error e)])).map RouterError.message := by
    intro e
    have hone : (s.visits.navigator.report e).services.failures =
        s.visits.navigator.services.failures ++ [e.message] :=
      s.visits.navigator.services.failures_report e.message h.installed
    rw [hone, h.failures, errors_concat_failed, List.map_append, List.append_assoc]
    rfl
  have hinstalled : ∀ e : RouterError,
      (s.visits.navigator.report e).services.diagnostics.installed = true := by
    intro e
    have hstays := s.visits.navigator.services.diagnostics.installed_report .error
      Navigator.failureMessage e.message
    exact hstays.trans h.installed
  unfold Traffic.leave
  generalize s.visits.navigator.conclude navigation loads = after at hconcluded
  cases hconcluded with
  | refused e resolved => exact ⟨hreported e, hinstalled e⟩
  | failed route e resolved failure latest => exact ⟨hreported _, hinstalled _⟩
  | superseded route resolved overtaken =>
    exact h.of_undisturbed (GuardServices.Undisturbed.refl _) (errors_concat_ok _ _ _ _)
  | activated route resolved success latest =>
    exact h.of_undisturbed (GuardServices.Undisturbed.refl _) (errors_concat_ok _ _ _ _)

/-- **One record for each failure**, whatever happens, as long as guards and others do not disturb the sink. -/
theorem step (h : s.Recorded services) {t : RouteTable} (table : s.visits.navigator.table = t)
    (guards : ∀ before : GuardServices, t.Keeps before.Undisturbed fun _ => True)
    {event : JointEvent} (quiet : Quiet event) : (s.step event).Recorded services := by
  cases event with
  | begin target =>
    obtain ⟨destination, hdestination⟩ := s.visits.navigator.exists_destination target
    have hresolved := (guards s.visits.navigator.services destination _
      (GuardServices.Undisturbed.refl _)).1
    rw [← table, ← hdestination] at hresolved
    exact h.of_undisturbed hresolved (errors_concat_began _ _)
  | look ticket =>
    simp only [JointTraffic.step]
    split
    · exact h
    · split
      · exact h
      · exact h.leave _ _
  | load move => exact ⟨h.failures, h.installed⟩
  | serve work => exact h.of_undisturbed (quiet s.visits.navigator.services) rfl

/-- While nobody disturbs the sink it receives one record for each navigation that fails. -/
theorem run (h : s.Recorded services) {t : RouteTable}
    (within : s.visits.Within t (fun _ => True) fun _ => True)
    (guards : ∀ before : GuardServices, t.Keeps before.Undisturbed fun _ => True)
    (events : List JointEvent) (quiet : ∀ event ∈ events, Quiet event) :
    (s.run events).Recorded services := by
  induction events generalizing s with
  | nil => exact h
  | cons event events ih =>
    obtain ⟨hevent, hrest⟩ := List.forall_mem_cons.mp quiet
    have hwithin := within_run within (fun _ _ _ => ⟨trivial, trivial⟩) (fun _ _ _ => trivial) [event]
      fun _ _ _ _ => trivial
    exact ih (h.step within.table guards hevent) hwithin hrest

end Recorded

/-- **Failed navigations are reported once each** and leave everything else as it was. Over any run the sink
receives one record for each navigation that fails, in their order, if it is installed and neither the guards of
the table nor others disturb it. -/
theorem failures_reported_once {definitions : List RouteDefinition} {defaultPath : String}
    {t : RouteTable} (built : RouteTable.build definitions defaultPath = .ok t) (mode : LocationMode)
    (services : GuardServices) (registry : BundleRegistry) (debug : Bool) (plan : FetchPlan)
    (events : List JointEvent) :
    ((start t mode services registry debug plan).run events).FailsOnce ∧
      (services.diagnostics.installed = true → (∀ event ∈ events, Quiet event) →
        (∀ d ∈ definitions, ∀ guard, d.guard = some guard → ∀ context before,
          GuardServices.Undisturbed before (guard context before).services) →
        ((start t mode services registry debug plan).run events).visits.navigator.services.failures =
          services.failures ++ (errors ((start t mode services registry debug plan).run
            events).visits.history).map RouterError.message) := by
  obtain ⟨wf, _⟩ := RouteTable.of_build built
  constructor
  · have hkeeps : t.Keeps (fun _ => True) fun resolved => ∀ e, resolved = .error e →
        e.isRefusal = true :=
      fun destination found _ => ⟨trivial, fun e he => RouteTable.isRefusal_of_follow he⟩
    have hwithin := within_run (s := start t mode services registry debug plan)
      (Traffic.within_start t mode _ trivial) hkeeps (fun _ _ _ => trivial) events
      fun _ _ _ _ => trivial
    exact ((sound_start t mode services registry debug plan).run events).failsOnce hwithin.underway
  · intro installed quiet guards
    have hkeeps : ∀ before : GuardServices, t.Keeps before.Undisturbed fun _ => True := by
      intro before
      apply RouteTable.keeps_of_step
      · exact fun _ _ => trivial
      · intro destination found step after undisturbed h
        refine wf.holds_of_step ?_ undisturbed h
        intro d hd guard hguard context middle hmiddle
        exact hmiddle.trans (guards d hd guard hguard context middle)
      · exact fun _ _ _ _ _ _ _ => trivial
    have hstart : (start t mode services registry debug plan).Recorded services :=
      ⟨by simp [start, Traffic.start, Navigator.start, errors], installed⟩
    exact (hstart.run (Traffic.within_start t mode _ trivial) hkeeps events quiet).failures

/-- A page with a bundle that nobody registered. -/
def brokenRoutes : List RouteDefinition :=
  [(RouteDefinition.named "home").withUrl "/",
    ((RouteDefinition.named "page").withUrl "/page").withDependency "charts"]

/-- Services with a sink, for a user who is signed in. -/
def recordingServices : GuardServices :=
  { RouteTable.signedInServices with diagnostics := Diagnostics.withSink 0 }

/-- A navigation to the page fails, and so does one to a name without a route. -/
def brokenEvents : List JointEvent :=
  [.begin (.url "/page"), .load (.enter 0), .look 1, .begin (.route "nowhere" Dictionary.empty), .look 2]

/-- Two navigations fail, one for want of a bundle and one of a route, and both are reported. -/
theorem failures_reported_once_broken :
    ∃ t, RouteTable.build brokenRoutes "/" = .ok t ∧
      ((start t .hash recordingServices BundleRegistry.empty false fun _ _ => ⟨0, none⟩).run
        brokenEvents).FailsOnce ∧
      ((start t .hash recordingServices BundleRegistry.empty false fun _ _ => ⟨0, none⟩).run
        brokenEvents).visits.navigator.services.failures =
          ["Failed to load dependencies of 'page': Unknown bundle: charts",
            "Invalid route name: nowhere"] := by
  have hcheck : (RouteTable.build brokenRoutes "/").toOption.map (fun t =>
      (errors ((start t .hash recordingServices BundleRegistry.empty false fun _ _ => ⟨0, none⟩).run
        brokenEvents).visits.history).map RouterError.message) =
          some ["Failed to load dependencies of 'page': Unknown bundle: charts",
            "Invalid route name: nowhere"] := by
    decide +kernel
  obtain ⟨t, htable, herrors⟩ := Option.map_eq_some_iff.mp hcheck
  have hbuild := Result.ok_of_toOption htable
  obtain ⟨hfails, hcounted⟩ := failures_reported_once hbuild .hash recordingServices
    BundleRegistry.empty false (fun _ _ => ⟨0, none⟩) brokenEvents
  have hquiet : ∀ event ∈ brokenEvents, Quiet event := by simp [brokenEvents, Quiet]
  have hguards : ∀ d ∈ brokenRoutes, ∀ guard, d.guard = some guard → ∀ context before,
      GuardServices.Undisturbed before (guard context before).services := by
    simp [brokenRoutes, RouteDefinition.named, RouteDefinition.withUrl,
      RouteDefinition.withDependency]
  refine ⟨t, hbuild, hfails, ?_⟩
  rw [hcounted rfl hquiet hguards, herrors]
  rfl

/-! ## More than thirty bundles -/

/-- A page with more than thirty bundles, of which only the first one is registered. -/
def heavyRoutes : List RouteDefinition :=
  [(RouteDefinition.named "home").withUrl "/",
    { (RouteDefinition.named "page").withUrl "/page" with
      dependencies := (List.range 31).map fun index => s!"b{index}" }]

/-- The registered bundle. -/
def heavyBundles : BundleRegistry :=
  BundleRegistry.ofList [⟨"b0", false, ["b0.js"]⟩]

/-- The fetch of its file takes a while. -/
def slowPlan : FetchPlan := fun _ _ => ⟨100, none⟩

/-- A navigation to the page calls for its bundles. The first call waits for its file, and the second one fails
at once. -/
def earlyEvents : List JointEvent :=
  [.begin (.url "/page"), .load (.enter 0), .load (.poll 0 0), .load (.leave 0), .load (.enter 1), .look 1]

/-- Another navigation begins before the call for the first bundle has ended. -/
def lateEvents : List JointEvent :=
  [.begin (.url "/"), .look 2, .load (.poll 0 100), .load (.leave 0), .look 1]

/-- The page's navigator and loader at their start. -/
def heavyStart (t : RouteTable) : JointTraffic :=
  start t .hash recordingServices heavyBundles false slowPlan

/-- **A failure may go unreported** on a page with more than thirty bundles: one of the calls of a navigation
has failed and no other navigation has begun, but in the end it is superseded, and no error is returned. -/
theorem superseded_after_failure :
    ∃ t navigation, RouteTable.build heavyRoutes "/" = .ok t ∧
      navigation ∈ ((heavyStart t).run earlyEvents).visits.underway ∧
      (∃ place ∈ ((heavyStart t).run earlyEvents).placesOf navigation,
        (((heavyStart t).run earlyEvents).loads.statusAt place).isFailed = true) ∧
      ¬ Overtaken ((heavyStart t).run earlyEvents).visits.history navigation.ticket ∧
      navigation.ticket ∈
        superseded ((heavyStart t).run (earlyEvents ++ lateEvents)).visits.history ∧
      errors ((heavyStart t).run (earlyEvents ++ lateEvents)).visits.history = [] := by
  have hcheck : (RouteTable.build heavyRoutes "/").toOption.map (fun t =>
      ((heavyStart t).run earlyEvents).visits.underway.map fun navigation =>
        (navigation.ticket, (((heavyStart t).run earlyEvents).placesOf navigation).any fun place =>
          (((heavyStart t).run earlyEvents).loads.statusAt place).isFailed)) = some [(1, true)] := by
    decide +kernel
  have hlater : (RouteTable.build heavyRoutes "/").toOption.map (fun t =>
      (((heavyStart t).run earlyEvents).visits.navigator.lastTicket,
        superseded ((heavyStart t).run (earlyEvents ++ lateEvents)).visits.history,
        errors ((heavyStart t).run (earlyEvents ++ lateEvents)).visits.history)) =
          some (1, [1], []) := by
    decide +kernel
  obtain ⟨t, htable, hunderway⟩ := Option.map_eq_some_iff.mp hcheck
  rw [htable, Option.map_some, Option.some.injEq, Prod.mk.injEq, Prod.mk.injEq] at hlater
  obtain ⟨hlast, hsuperseded, herrors⟩ := hlater
  obtain ⟨navigation, others, hsplit, hfacts, _⟩ := List.map_eq_cons_iff.mp hunderway
  obtain ⟨hticket, hfailed⟩ := Prod.mk.inj hfacts
  have hmem : navigation ∈ ((heavyStart t).run earlyEvents).visits.underway := by
    rw [hsplit]
    exact List.mem_cons_self
  have orderly : ((heavyStart t).run earlyEvents).visits.Orderly :=
    ((sound_start t .hash recordingServices heavyBundles false slowPlan).run earlyEvents).visits
  have hlatest : ¬ Overtaken ((heavyStart t).run earlyEvents).visits.history navigation.ticket := by
    rw [overtaken_iff orderly.tickets (orderly.pending navigation hmem), not_not, hticket]
    exact hlast.symm
  refine ⟨t, navigation, Result.ok_of_toOption htable, hmem, List.any_eq_true.mp hfailed, hlatest,
    ?_, herrors⟩
  rw [hsuperseded, hticket]
  exact List.mem_singleton_self 1

end JointTraffic

end AdminConsole
