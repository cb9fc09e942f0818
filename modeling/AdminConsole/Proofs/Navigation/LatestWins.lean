import AdminConsole.Proofs.Navigation.Traffic
import Mathlib.Data.List.Range

/-!
# The latest navigation wins

However navigations overlap, the active route is that of the navigation that began last among those that
succeeded, and a navigation that was overtaken changes nothing. What carries the argument is that tickets
are given out one after another: the history of a navigator shows the tickets `1, 2, 3, ...` in this order,
so that a navigation was overtaken exactly if its ticket is not the last one.
-/

set_option autoImplicit false

namespace AdminConsole

namespace NavigationHistory

variable (history : NavigationHistory)

/-- A navigation that begins comes after those that have begun. -/
@[simp] theorem begun_concat_began (ticket : Nat) :
    begun (history ++ [.began ticket]) = begun history ++ [ticket] := by
  simp [begun, NavigationNotice.begun?]

/-- No navigation begins when one ends. -/
@[simp] theorem begun_concat_ended (navigation : Navigation) (loads : Except BundleError Unit)
    (result : Except RouterError NavigationOutcome) :
    begun (history ++ [.ended navigation loads result]) = begun history := by
  simp [begun, NavigationNotice.begun?]

/-- A navigation that begins activates nothing. -/
@[simp] theorem activations_concat_began (ticket : Nat) :
    activations (history ++ [.began ticket]) = activations history := by
  simp [activations, NavigationNotice.activation?]

/-- A navigation that is activated comes after those that were. -/
theorem activations_concat_activated (navigation : Navigation) (loads : Except BundleError Unit)
    (route : ResolvedRoute) :
    activations (history ++ [.ended navigation loads (.ok (.activated route))]) =
      activations history ++ [(navigation.ticket, route)] := by
  simp [activations, NavigationNotice.activation?]

/-- A navigation that ends in another way activates nothing. -/
theorem activations_concat_of_not_activated (navigation : Navigation)
    (loads : Except BundleError Unit) {result : Except RouterError NavigationOutcome}
    (h : ∀ route, result ≠ .ok (.activated route)) :
    activations (history ++ [.ended navigation loads result]) = activations history := by
  have hnone : NavigationNotice.activation? (.ended navigation loads result) = none := by
    unfold NavigationNotice.activation?
    split
    · rename_i heq
      cases heq
      exact absurd rfl (h _)
    · rfl
  simp [activations, hnone]

variable {history}

/-- An activation is the end of a navigation. -/
theorem ended_of_mem_activations {activation : Nat × ResolvedRoute}
    (h : activation ∈ activations history) :
    ∃ navigation loads, .ended navigation loads (.ok (.activated activation.2)) ∈ history ∧
      navigation.ticket = activation.1 := by
  obtain ⟨notice, hmem, hactivation⟩ := List.mem_filterMap.mp h
  unfold NavigationNotice.activation? at hactivation
  split at hactivation
  · cases hactivation
    exact ⟨_, _, hmem, rfl⟩
  · cases hactivation

/-- A ticket was given to a navigation that has begun. -/
theorem began_mem_iff {ticket : Nat} :
    .began ticket ∈ history ↔ ticket ∈ begun history := by
  constructor
  · intro h
    exact List.mem_filterMap.mpr ⟨_, h, rfl⟩
  · intro h
    obtain ⟨notice, hmem, hbegun⟩ := List.mem_filterMap.mp h
    cases notice with
    | began other =>
      cases hbegun
      exact hmem
    | ended navigation loads result => cases hbegun

/-- Where tickets are given out one after another, a navigation was overtaken if its ticket is not the
last one. -/
theorem overtaken_iff {ticket last : Nat} (hbegun : begun history = List.range' 1 last)
    (hticket : ticket ∈ begun history) : Overtaken history ticket ↔ ticket ≠ last := by
  have hincreasing : (begun history).Pairwise (· < ·) := hbegun ▸ List.pairwise_lt_range'
  have hbound : ∀ other ∈ begun history, other ≤ last := by
    intro other hother
    rw [hbegun, List.mem_range'_1] at hother
    omega
  constructor
  · rintro ⟨earlier, later, other, rfl, hother⟩
    have hsplit : begun (earlier ++ .began ticket :: later) =
        begun earlier ++ ticket :: begun later := by
      simp [begun, NavigationNotice.begun?]
    have hlater : other ∈ begun later := began_mem_iff.mp hother
    rw [hsplit] at hincreasing hbound
    have hlt := (List.pairwise_cons.mp (List.pairwise_append.mp hincreasing).2.1).1 other hlater
    have hle := hbound other (by simp [hlater])
    omega
  · intro hne
    obtain ⟨earlier, later, rfl⟩ := List.append_of_mem (began_mem_iff.mpr hticket)
    have hsplit : begun (earlier ++ .began ticket :: later) =
        begun earlier ++ ticket :: begun later := by
      simp [begun, NavigationNotice.begun?]
    have hle := hbound ticket hticket
    have hlast : last ∈ begun (earlier ++ .began ticket :: later) := by
      rw [hbegun, List.mem_range'_1]
      omega
    rw [hsplit] at hincreasing hlast
    refine ⟨earlier, later, last, rfl, began_mem_iff.mpr ?_⟩
    rcases List.mem_append.mp hlast with hearlier | hlater
    · have hlt := (List.pairwise_append.mp hincreasing).2.2 last hearlier ticket List.mem_cons_self
      omega
    · exact (List.mem_cons.mp hlater).resolve_left fun h => hne h.symm

end NavigationHistory

namespace Traffic

open NavigationHistory

/-- What holds of the traffic of a navigator at any time. -/
structure Orderly (s : Traffic) : Prop where
  /-- Tickets were given out one after another. -/
  tickets : begun s.history = List.range' 1 s.navigator.lastTicket
  /-- The navigations under way stand in the order in which they began. -/
  order : (s.underway.map (·.ticket)).Pairwise (· < ·)
  pending : ∀ navigation ∈ s.underway, navigation.ticket ∈ begun s.history
  /-- A navigation that ended had begun, and is not under way. -/
  ended : ∀ navigation loads result, .ended navigation loads result ∈ s.history →
    navigation.ticket ∈ begun s.history ∧
      ∀ other ∈ s.underway, other.ticket ≠ navigation.ticket
  increasing : ((activations s.history).map (·.1)).Pairwise (· < ·)
  /-- The active route is that of the last activation. -/
  active : s.navigator.active = (activations s.history).getLast?.map (·.2)
  /-- If the navigation with the last ticket succeeded, its route is active. -/
  latest : ∀ navigation loads result route, .ended navigation loads result ∈ s.history →
    navigation.resolved = .ok route → loads = .ok () →
    navigation.ticket = s.navigator.lastTicket → s.navigator.active = some route

/-- The traffic is orderly at its start. -/
theorem orderly_start (table : RouteTable) (mode : LocationMode) (services : GuardServices) :
    (start table mode services).Orderly where
  tickets := rfl
  order := List.Pairwise.nil
  pending := by simp [start]
  ended := by simp [start]
  increasing := List.Pairwise.nil
  active := rfl
  latest := by simp [start]

namespace Orderly

variable {s : Traffic}

/-- No navigation that has begun has a later ticket than the last one. -/
theorem ticket_le (h : s.Orderly) {ticket : Nat} (hticket : ticket ∈ begun s.history) :
    ticket ≤ s.navigator.lastTicket := by
  rw [h.tickets, List.mem_range'_1] at hticket
  omega

/-- The traffic stays orderly when a navigation begins, as its ticket is a new one. -/
theorem enter (h : s.Orderly) (target : NavigationTarget) : (s.enter target).Orderly where
  tickets := by
    simp only [Traffic.enter, Navigator.begin, begun_concat_began, h.tickets]
    rw [List.range'_1_concat]
    simp [Nat.add_comm]
  order := by
    simp only [Traffic.enter, Navigator.begin, List.map_append, List.map_cons, List.map_nil]
    rw [List.pairwise_append]
    refine ⟨h.order, List.pairwise_singleton _ _, ?_⟩
    intro ticket hticket last hlast
    obtain ⟨navigation, hmem, rfl⟩ := List.mem_map.mp hticket
    -- All tickets so far are smaller than the new one.
    have hle := h.ticket_le (h.pending navigation hmem)
    rw [List.mem_singleton] at hlast
    omega
  pending := by
    intro navigation hmem
    simp only [Traffic.enter, Navigator.begin, begun_concat_began, List.mem_append,
      List.mem_singleton] at hmem ⊢
    rcases hmem with hmem | rfl
    · exact .inl (h.pending navigation hmem)
    · exact .inr rfl
  ended := by
    intro navigation loads result hmem
    simp only [Traffic.enter, Navigator.begin, begun_concat_began, List.mem_append,
      List.mem_singleton, reduceCtorEq, or_false] at hmem ⊢
    obtain ⟨hbegun, hapart⟩ := h.ended navigation loads result hmem
    refine ⟨.inl hbegun, ?_⟩
    rintro other (hother | rfl)
    · exact hapart other hother
    · have hle := h.ticket_le hbegun
      simp only
      omega
  increasing := by
    simp only [Traffic.enter, activations_concat_began]
    exact h.increasing
  active := by
    simp only [Traffic.enter, activations_concat_began]
    exact h.active
  latest := by
    intro navigation loads result route hmem _ _ hlast
    simp only [Traffic.enter, Navigator.begin, List.mem_append, List.mem_singleton, reduceCtorEq,
      or_false] at hmem hlast
    -- The ticket of a navigation that has ended is not the new one.
    have hle := h.ticket_le (h.ended navigation loads result hmem).1
    omega

/-- An activation comes after all activations before it. -/
theorem lt_of_activation (h : s.Orderly) {navigation : Navigation}
    (hmem : navigation ∈ s.underway) (hlast : navigation.ticket = s.navigator.lastTicket)
    {activation : Nat × ResolvedRoute} (hactivation : activation ∈ activations s.history) :
    activation.1 < navigation.ticket := by
  obtain ⟨other, loads, hended, hticket⟩ := ended_of_mem_activations hactivation
  obtain ⟨hbegun, hapart⟩ := h.ended other loads _ hended
  have hle := h.ticket_le hbegun
  have hne := hapart navigation hmem
  omega

/-- The traffic stays orderly when a navigation ends: it is activated only with the last ticket. -/
theorem leave (h : s.Orderly) {navigation : Navigation} (hmem : navigation ∈ s.underway)
    (loads : Except BundleError Unit) : (s.leave navigation loads).Orderly where
  tickets := by
    simp only [Traffic.leave, begun_concat_ended, Navigator.lastTicket_conclude]
    exact h.tickets
  order := by
    simp only [Traffic.leave]
    exact h.order.sublist (List.filter_sublist.map _)
  pending := by
    intro other hother
    simp only [Traffic.leave, begun_concat_ended] at hother ⊢
    exact h.pending other (List.mem_of_mem_filter hother)
  ended := by
    intro other otherLoads result hended
    simp only [Traffic.leave, begun_concat_ended, List.mem_append, List.mem_singleton,
      NavigationNotice.ended.injEq] at hended ⊢
    rcases hended with hended | ⟨rfl, _, _⟩
    · obtain ⟨hbegun, hapart⟩ := h.ended other otherLoads result hended
      exact ⟨hbegun, fun third hthird => hapart third (List.mem_of_mem_filter hthird)⟩
    · refine ⟨h.pending other hmem, ?_⟩
      intro third hthird
      simpa using List.of_mem_filter hthird
  increasing := by
    simp only [Traffic.leave]
    by_cases hactivated : ∃ route, (s.navigator.conclude navigation loads).1 =
        .ok (.activated route)
    · obtain ⟨route, hroute⟩ := hactivated
      have hlast := ((Navigator.conclude_eq_activated_iff _ _ _ route).mp hroute).2.2
      rw [hroute, activations_concat_activated, List.map_append, List.pairwise_append]
      refine ⟨h.increasing, List.pairwise_singleton _ _, ?_⟩
      intro ticket hticket last hmemLast
      obtain ⟨activation, hactivation, rfl⟩ := List.mem_map.mp hticket
      rw [List.map_singleton, List.mem_singleton] at hmemLast
      rw [hmemLast]
      exact h.lt_of_activation hmem hlast hactivation
    · rw [activations_concat_of_not_activated _ _ _ fun route hroute => hactivated ⟨route, hroute⟩]
      exact h.increasing
  active := by
    simp only [Traffic.leave]
    by_cases hactivated : ∃ route, (s.navigator.conclude navigation loads).1 =
        .ok (.activated route)
    · obtain ⟨route, hroute⟩ := hactivated
      rw [hroute, activations_concat_activated, List.getLast?_concat,
        Navigator.active_conclude_of_activated _ _ _ hroute]
      rfl
    · have hnone : ∀ route, (s.navigator.conclude navigation loads).1 ≠ .ok (.activated route) :=
        fun route hroute => hactivated ⟨route, hroute⟩
      rw [activations_concat_of_not_activated _ _ _ hnone,
        Navigator.active_conclude_of_not_activated _ _ _ hnone]
      exact h.active
  latest := by
    intro other otherLoads result route hended hresolved hloads hlast
    simp only [Traffic.leave, List.mem_append, List.mem_singleton, NavigationNotice.ended.injEq,
      Navigator.lastTicket_conclude] at hended hlast ⊢
    rcases hended with hended | ⟨rfl, rfl, _⟩
    · -- The navigation that ends now is another one, so its ticket is not the last one.
      have hne := (h.ended other otherLoads result hended).2 navigation hmem
      rw [Navigator.active_conclude_of_not_activated]
      · exact h.latest other otherLoads result route hended hresolved hloads hlast
      · intro route hroute
        have hlast' := ((Navigator.conclude_eq_activated_iff _ _ _ route).mp hroute).2.2
        exact hne (hlast'.trans hlast.symm)
    · apply Navigator.active_conclude_of_activated
      exact (Navigator.conclude_eq_activated_iff _ _ _ route).mpr ⟨hresolved, hloads, hlast⟩

/-- The traffic stays orderly when somebody works on the services. -/
theorem serve (h : s.Orderly) (services : GuardServices) :
    (s.step (.serve services)).Orderly :=
  ⟨h.tickets, h.order, h.pending, h.ended, h.increasing, h.active, h.latest⟩

/-- The traffic stays orderly in every event. -/
theorem step (h : s.Orderly) (event : NavigationEvent) : (s.step event).Orderly := by
  cases event with
  | begin target => exact h.enter target
  | finish ticket loads =>
    simp only [Traffic.step]
    split
    · rename_i navigation hfound
      exact h.leave (List.mem_of_find?_eq_some hfound) loads
    · exact h
  | serve services => exact h.serve services

/-- The traffic is orderly at any time. -/
theorem run (h : s.Orderly) (events : List NavigationEvent) : (s.run events).Orderly := by
  induction events generalizing s with
  | nil => exact h
  | cons event events ih => exact ih (h.step event)

/-- There are as many tickets as navigations that began. -/
theorem lastTicket_eq (h : s.Orderly) : s.navigator.lastTicket = (begun s.history).length := by
  rw [h.tickets, List.length_range']

/-- Tickets of 64 bits tell as well which navigations were overtaken, as long as fewer than `2 ^ 64` have begun. -/
theorem isStale_eq_words (h : s.Orderly) (few : (begun s.history).length < UInt64.size) {navigation : Navigation}
    (hmem : navigation ∈ s.underway) : s.navigator.isStale navigation.ticket =
      (UInt64.ofNat s.navigator.lastTicket != UInt64.ofNat navigation.ticket) := by
  rw [← h.lastTicket_eq] at few
  have hle := h.ticket_le (h.pending navigation hmem)
  have hsame : UInt64.ofNat s.navigator.lastTicket = UInt64.ofNat navigation.ticket ↔
      s.navigator.lastTicket = navigation.ticket := by
    rw [← UInt64.toNat_inj, UInt64.toNat_ofNat_of_lt' few, UInt64.toNat_ofNat_of_lt' (by omega)]
  rw [Navigator.isStale, Bool.eq_iff_iff, bne_iff_ne, bne_iff_ne, ne_eq, ne_eq, hsame]

/-- A navigation under way is found by its ticket. -/
theorem find?_underway (h : s.Orderly) {navigation : Navigation}
    (hmem : navigation ∈ s.underway) :
    s.underway.find? (fun other => other.ticket == navigation.ticket) = some navigation := by
  have horder := h.order
  generalize s.underway = underway at hmem horder
  induction underway with
  | nil => cases hmem
  | cons first underway ih =>
    obtain ⟨hfirst, hrest⟩ := List.pairwise_cons.mp horder
    rcases List.mem_cons.mp hmem with rfl | hmem
    · simp
    · have hlt : first.ticket < navigation.ticket :=
        hfirst navigation.ticket (List.mem_map_of_mem hmem)
      have hne : (first.ticket == navigation.ticket) = false := by
        rw [beq_eq_false_iff_ne]
        omega
      rw [List.find?_cons, hne]
      exact ih hmem hrest

end Orderly

/-- What it means that the latest navigation wins. -/
structure LatestWins (s : Traffic) : Prop where
  /-- A navigation that ends activates its route exactly if its target was resolved, its loads succeeded,
  and no other navigation began since it did. That makes its route the active one, and any other end
  leaves the active route alone. -/
  finish : ∀ navigation ∈ s.underway, ∀ loads, ∃ result,
    (s.step (.finish navigation.ticket loads)).history =
      s.history ++ [.ended navigation loads result] ∧
    (∀ route, result = .ok (.activated route) ↔
      navigation.resolved = .ok route ∧ loads = .ok () ∧
        ¬ Overtaken s.history navigation.ticket) ∧
    (∀ route, result = .ok (.activated route) →
      (s.step (.finish navigation.ticket loads)).navigator.active = some route) ∧
    ((∀ route, result ≠ .ok (.activated route)) →
      (s.step (.finish navigation.ticket loads)).navigator.active = s.navigator.active)
  /-- Nothing but the end of a navigation changes the active route. -/
  otherwise : ∀ event, (∀ navigation ∈ s.underway, ∀ loads,
      event ≠ .finish navigation.ticket loads) →
    (s.step event).navigator.active = s.navigator.active
  /-- The tickets of successive activations increase. -/
  increasing : ((activations s.history).map (·.1)).Pairwise (· < ·)
  /-- The active route is that of the last activation. -/
  active : s.navigator.active = (activations s.history).getLast?.map (·.2)
  /-- Once the navigation that began last has succeeded its route is active, whatever ended since. -/
  latest : ∀ navigation loads result route, .ended navigation loads result ∈ s.history →
    navigation.resolved = .ok route → loads = .ok () →
    ¬ Overtaken s.history navigation.ticket → s.navigator.active = some route
  /-- As long as fewer than `2 ^ 64` navigations have begun, tickets of 64 bits tell as well which are overtaken. -/
  words : (begun s.history).length < UInt64.size → ∀ navigation ∈ s.underway,
    s.navigator.isStale navigation.ticket =
      (UInt64.ofNat s.navigator.lastTicket != UInt64.ofNat navigation.ticket)

/-- In orderly traffic the latest navigation wins. -/
theorem Orderly.latestWins {s : Traffic} (h : s.Orderly) : s.LatestWins where
  finish := by
    intro navigation hmem loads
    have hstep : s.step (.finish navigation.ticket loads) = s.leave navigation loads := by
      simp only [Traffic.step, h.find?_underway hmem]
    rw [hstep, overtaken_iff h.tickets (h.pending navigation hmem), not_not]
    refine ⟨(s.navigator.conclude navigation loads).1, rfl, ?_, ?_, ?_⟩
    · exact Navigator.conclude_eq_activated_iff s.navigator navigation loads
    · intro route
      exact Navigator.active_conclude_of_activated s.navigator navigation loads
    · exact Navigator.active_conclude_of_not_activated s.navigator navigation loads
  otherwise := by
    intro event hother
    cases event with
    | begin target => rfl
    | finish ticket loads =>
      have hnone : s.underway.find? (fun navigation => navigation.ticket == ticket) = none := by
        rw [List.find?_eq_none]
        intro navigation hmem hticket
        exact hother navigation hmem loads (by rw [beq_iff_eq.mp hticket])
      simp only [Traffic.step, hnone]
    | serve services => rfl
  increasing := h.increasing
  active := h.active
  latest := by
    intro navigation loads result route hended hresolved hloads hlatest
    have hbegun := (h.ended navigation loads result hended).1
    rw [overtaken_iff h.tickets hbegun, not_not] at hlatest
    exact h.latest navigation loads result route hended hresolved hloads hlatest
  words := fun few _ hmem => h.isStale_eq_words few hmem

/-- **The latest navigation wins**, whatever happens to a navigator in whatever order. Among navigators are those of
sessions, by `Session.exists_traffic`. -/
theorem latest_navigation_wins (table : RouteTable) (mode : LocationMode)
    (services : GuardServices) (events : List NavigationEvent) :
    ((start table mode services).run events).LatestWins :=
  ((orderly_start table mode services).run events).latestWins

end Traffic

end AdminConsole
