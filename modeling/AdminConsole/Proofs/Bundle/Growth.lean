import AdminConsole.Proofs.Bundle.Coherence

/-!
# What only grows at a loader

Entering, polling and leaving only add to what a loader has: no run is lost, a run that has ended stays as it
is, and a bundle that was loaded stays loaded. Requests are made by polling alone, and none of them is for a
bundle of which a run has succeeded.
-/

set_option autoImplicit false

namespace AdminConsole

namespace Loader

/-- Whether a loader came on: no run is lost or changes its bundle, those that have ended stay as they are,
and what was loaded stays loaded. -/
structure Grows (l l' : Loader) : Prop where
  runs : ∀ (run : Nat) r, l.runs[run]? = some r →
    ∃ r', l'.runs[run]? = some r' ∧ r'.definition = r.definition ∧
      (r.status.isPending = false → r' = r)
  loaded : ∀ name, l.isLoaded name = true → l'.isLoaded name = true

namespace Grows

/-- A loader that does nothing only grows. -/
theorem refl (l : Loader) : l.Grows l :=
  ⟨fun _ r hr => ⟨r, hr, rfl, fun _ => rfl⟩, fun _ h => h⟩

/-- A loader that only grows, and then only grows again, has only grown. -/
theorem trans {l l' l'' : Loader} (first : l.Grows l') (second : l'.Grows l'') : l.Grows l'' where
  runs := by
    intro run r hr
    obtain ⟨r', hr', hdefinition, hended⟩ := first.runs run r hr
    obtain ⟨r'', hr'', hdefinition', hended'⟩ := second.runs run r' hr'
    refine ⟨r'', hr'', hdefinition'.trans hdefinition, ?_⟩
    intro h
    obtain rfl := hended h
    exact hended' h
  loaded := fun name h => second.loaded name (first.loaded name h)

end Grows

/-- A bundle is loaded if the table says so. -/
theorem isLoaded_iff {l : Loader} {name : String} :
    l.isLoaded name = true ↔ l.entries.get? name = some .loaded := by
  simp [isLoaded]

/-- A call that enters only lets the loader grow. -/
theorem grows_enter (l : Loader) (name : String) : l.Grows (l.enter name).2 := by
  rcases l.enter_cases name with ⟨hsame, _⟩ | ⟨definition, _, hfree, hbegin⟩
  · rw [hsame]
    exact Grows.refl l
  · rw [hbegin]
    refine ⟨fun run r hr => ⟨r, getElem?_of_begin _ hr, rfl, fun _ => rfl⟩, ?_⟩
    intro other h
    rw [isLoaded_iff] at h ⊢
    have hne : other ≠ name := by
      rintro rfl
      rw [hfree] at h
      cases h
    rw [Dictionary.get?_insert, if_neg hne]
    exact h

/-- Polling a run only lets the loader grow: a run that has ended stays as it is. -/
theorem grows_pollRun (l : Loader) (now run : Nat) : l.Grows (l.pollRun now run) := by
  rcases l.pollRun_cases now run with hsame | ⟨r, hr, hpending, hpoll⟩
  · rw [hsame]
    exact Grows.refl l
  · rw [hpoll]
    refine ⟨?_, fun _ h => h⟩
    intro other q hq
    by_cases hrun : other = run
    · subst hrun
      obtain rfl : r = q := Option.some.inj (hr.symm.trans hq)
      refine ⟨_, List.getElem?_set_self (List.getElem?_eq_some_iff.mp hr).1,
        BundleRun.definition_poll other now r l.network, ?_⟩
      intro hended
      rw [hpending] at hended
      cases hended
    · refine ⟨q, ?_, rfl, fun _ => rfl⟩
      rw [List.getElem?_set_ne fun e => hrun e.symm]
      exact hq

/-- Settling a run only lets the loader grow: it takes no mark from a loaded bundle. -/
theorem grows_settle (l : Loader) (name : String) (run : Nat) (result : Except BundleError Unit) :
    l.Grows (l.settle name run result) := by
  unfold settle
  split
  · rename_i hentry
    have hloaded : ∀ other, l.isLoaded other = true → other ≠ name := by
      rintro other h rfl
      rw [isLoaded_iff, hentry] at h
      cases h
    cases result with
    | ok _ =>
      refine ⟨fun _ r hr => ⟨r, hr, rfl, fun _ => rfl⟩, ?_⟩
      intro other h
      have hne := hloaded other h
      rw [isLoaded_iff] at h ⊢
      rw [Dictionary.get?_insert, if_neg hne]
      exact h
    | error e =>
      refine ⟨fun _ r hr => ⟨r, hr, rfl, fun _ => rfl⟩, ?_⟩
      intro other h
      have hne := hloaded other h
      rw [isLoaded_iff] at h ⊢
      rw [Dictionary.get?_erase, if_neg hne]
      exact h
  · exact Grows.refl l

/-- A call that takes notice of its run only lets the loader grow. -/
theorem grows_leave (l : Loader) (name : String) (run : Nat) :
    l.Grows (l.leave name run).2 := by
  unfold leave
  split
  · exact Grows.refl l
  · exact l.grows_settle name run (.ok ())
  · rename_i e _
    exact l.grows_settle name run (.error e)

/-! ## Requests for a bundle -/

/-- A call that enters fetches nothing. -/
theorem network_enter (l : Loader) (name : String) : (l.enter name).2.network = l.network := by
  rcases l.enter_cases name with ⟨hsame, _⟩ | ⟨definition, _, _, hbegin⟩
  · rw [hsame]
  · rw [hbegin]

/-- A call that takes notice of its run fetches nothing. -/
theorem network_leave (l : Loader) (name : String) (run : Nat) :
    (l.leave name run).2.network = l.network := by
  unfold leave
  split <;> simp

/-- A call that takes notice of its run does not touch the runs. -/
theorem runs_leave (l : Loader) (name : String) (run : Nat) :
    (l.leave name run).2.runs = l.runs := by
  unfold leave
  split <;> simp

/-- A call that leaves changes no other entry than its own, and this one only if its run stands there. -/
theorem entries_leave_of_ne {l : Loader} {name other : String} {run : Nat}
    (h : other = name → l.entries.get? name ≠ some (.loading run)) :
    (l.leave name run).2.entries.get? other = l.entries.get? other := by
  have hsettle : ∀ result, (l.settle name run result).entries.get? other = l.entries.get? other := by
    intro result
    unfold settle
    split
    · rename_i hentry
      have hne : other ≠ name := fun e => h e hentry
      cases result <;> simp [hne]
    · rfl
  unfold leave
  split
  · rfl
  · exact hsettle (.ok ())
  · exact hsettle _

/-- After a run of a bundle has succeeded, polling a run requests nothing for this bundle. -/
theorem Coherent.requestsFor_pollRun {l : Loader} {Noticed : Nat → Prop} (h : l.Coherent Noticed)
    {done : Nat} {r : BundleRun} (hr : l.runs[done]? = some r) (hsucceeded : r.status = .succeeded)
    (now run : Nat) :
    (l.pollRun now run).network.requestsFor r.definition.name =
      l.network.requestsFor r.definition.name := by
  rcases l.pollRun_cases now run with hsame | ⟨q, hq, hpending, hpoll⟩
  · rw [hsame]
  · -- The run that is polled is of another bundle, as it stands in the table and has not ended.
    have hne : q.definition.name ≠ r.definition.name := by
      intro hname
      have hentry := h.pending run q hq hpending
      rw [hname] at hentry
      rcases h.succeeded done r hr hsucceeded with hloaded | hloading
      · rw [hloaded] at hentry
        cases hentry
      · rw [hloading] at hentry
        obtain rfl := LoadEntry.loading.inj (Option.some.inj hentry)
        obtain rfl : r = q := Option.some.inj (hr.symm.trans hq)
        rw [hsucceeded] at hpending
        cases hpending
    rw [hpoll]
    exact (BundleRun.advanced_poll run now q l.network).countP_of_others fun event _ hbundle => by
      simp [hbundle, hne]

end Loader

end AdminConsole
