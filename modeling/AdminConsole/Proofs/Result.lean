/-!
# Computations that succeeded

A computation that may fail and came to a result has done so in each of its parts. The statements here take
a computation apart from its result, so that proofs need not open the way it was written down.
-/

set_option autoImplicit false

namespace AdminConsole.Result

variable {ε δ α β : Type}

/-- Two computations in a row succeed if the first does, and the second does with what it gave. -/
theorem ok_of_bind {x : Except ε α} {f : α → Except ε β} {b : β} (h : x >>= f = .ok b) :
    ∃ a, x = .ok a ∧ f a = .ok b := by
  cases x with
  | error e => cases h
  | ok a => exact ⟨a, rfl, h⟩

/-- A result that is changed succeeds with what was changed. -/
theorem ok_of_map {x : Except ε α} {f : α → β} {b : β} (h : x.map f = .ok b) :
    ∃ a, x = .ok a ∧ f a = b := by
  cases x with
  | error e => cases h
  | ok a => exact ⟨a, rfl, Except.ok.inj h⟩

/-- A result that is changed fails as it did before. -/
theorem error_of_map {x : Except ε α} {f : α → β} {e : ε} (h : x.map f = .error e) : x = .error e := by
  cases x with
  | error e' => exact congrArg Except.error (Except.error.inj h)
  | ok a => cases h

/-- A result whose error is changed succeeds as it did before. -/
theorem ok_of_mapError {x : Except ε α} {f : ε → δ} {a : α} (h : x.mapError f = .ok a) :
    x = .ok a := by
  cases x with
  | error e => cases h
  | ok b =>
    cases h
    rfl

/-- A result whose error is changed fails with what was changed. -/
theorem error_of_mapError {x : Except ε α} {f : ε → δ} {d : δ} (h : x.mapError f = .error d) :
    ∃ e, x = .error e ∧ f e = d := by
  cases x with
  | error e => exact ⟨e, rfl, Except.error.inj h⟩
  | ok a => cases h

/-- A result of which something is left without its error has succeeded. -/
theorem ok_of_toOption {x : Except ε α} {a : α} (h : x.toOption = some a) : x = .ok a := by
  cases x with
  | error e => cases h
  | ok b => rw [Option.some.inj h]

/-- A check that throws was passed. -/
theorem ok_of_unless {c : Prop} [Decidable c] {e : ε} {rest : Unit → Except ε β} {b : β}
    (h : (if c then (do let r ← throw e; rest r) else rest ()) = .ok b) : ¬ c ∧ rest () = .ok b := by
  split at h
  · cases h
  · rename_i hc
    exact ⟨hc, h⟩

/-- Every result of a list of computations is the result of one of them. -/
theorem exists_of_mem_mapM {f : α → Except ε β} {xs : List α} {ys : List β}
    (h : xs.mapM f = .ok ys) {y : β} (hy : y ∈ ys) : ∃ x ∈ xs, f x = .ok y := by
  induction xs generalizing ys with
  | nil =>
    cases h
    cases hy
  | cons x xs ih =>
    rw [List.mapM_cons] at h
    obtain ⟨first, hfirst, h⟩ := ok_of_bind h
    obtain ⟨rest, hrest, h⟩ := ok_of_bind h
    cases h
    rcases List.mem_cons.mp hy with rfl | hmem
    · exact ⟨x, List.mem_cons_self, hfirst⟩
    · obtain ⟨z, hz, hfz⟩ := ih hrest hmem
      exact ⟨z, List.mem_cons_of_mem x hz, hfz⟩

/-- The result of each computation is among the results of the list. -/
theorem mem_of_mapM {f : α → Except ε β} {xs : List α} {ys : List β} (h : xs.mapM f = .ok ys) {x : α}
    (hx : x ∈ xs) : ∃ y ∈ ys, f x = .ok y := by
  induction xs generalizing ys with
  | nil => cases hx
  | cons first xs ih =>
    rw [List.mapM_cons] at h
    obtain ⟨y, hy, h⟩ := ok_of_bind h
    obtain ⟨rest, hrest, h⟩ := ok_of_bind h
    cases h
    rcases List.mem_cons.mp hx with rfl | hmem
    · exact ⟨y, List.mem_cons_self, hy⟩
    · obtain ⟨z, hz, hfz⟩ := ih hrest hmem
      exact ⟨z, List.mem_cons_of_mem y hz, hfz⟩

/-- A list of computations succeeds if each of them does. -/
theorem exists_mapM {f : α → Except ε β} {xs : List α} (h : ∀ x ∈ xs, ∃ y, f x = .ok y) :
    ∃ ys, xs.mapM f = .ok ys := by
  induction xs with
  | nil => exact ⟨[], rfl⟩
  | cons x xs ih =>
    obtain ⟨y, hy⟩ := h x List.mem_cons_self
    obtain ⟨ys, hys⟩ := ih fun z hz => h z (List.mem_cons_of_mem x hz)
    exact ⟨y :: ys, by rw [List.mapM_cons, hy, hys]; rfl⟩

/-- A list of computations fails with the first error there is. -/
theorem mapM_eq_error_iff {f : α → Except ε β} {xs : List α} {e : ε} :
    xs.mapM f = .error e ↔
      ∃ before x after, xs = before ++ x :: after ∧ (∀ y ∈ before, ∃ b, f y = .ok b) ∧ f x = .error e := by
  induction xs with
  | nil => simp [pure, Except.pure]
  | cons first xs ih =>
    rw [List.mapM_cons]
    constructor
    · intro h
      cases hfirst : f first with
      | error e' =>
        rw [hfirst] at h
        cases h
        exact ⟨[], first, xs, rfl, by simp, hfirst⟩
      | ok b =>
        cases hrest : xs.mapM f with
        | ok bs =>
          rw [hfirst, hrest] at h
          cases h
        | error e' =>
          rw [hfirst, hrest] at h
          cases h
          obtain ⟨before, x, after, rfl, hbefore, hx⟩ := ih.mp hrest
          exact ⟨first :: before, x, after, rfl, List.forall_mem_cons.mpr ⟨⟨b, hfirst⟩, hbefore⟩, hx⟩
    · rintro ⟨before, x, after, hsplit, hbefore, hx⟩
      cases before with
      | nil =>
        obtain ⟨rfl, rfl⟩ := List.cons.inj hsplit
        rw [hx]
        rfl
      | cons y before =>
        obtain ⟨rfl, rfl⟩ := List.cons.inj hsplit
        obtain ⟨⟨b, hb⟩, hmore⟩ := List.forall_mem_cons.mp hbefore
        rw [hb, ih.mpr ⟨before, x, after, rfl, hmore, hx⟩]
        rfl

/-- Results that remember what they were computed from are in the order of the computations. -/
theorem map_of_mapM {f : α → Except ε β} {source : β → α}
    (remembers : ∀ {x y}, f x = .ok y → source y = x) {xs : List α} {ys : List β}
    (h : xs.mapM f = .ok ys) : ys.map source = xs := by
  induction xs generalizing ys with
  | nil =>
    cases h
    rfl
  | cons x xs ih =>
    rw [List.mapM_cons] at h
    obtain ⟨first, hfirst, h⟩ := ok_of_bind h
    obtain ⟨rest, hrest, h⟩ := ok_of_bind h
    cases h
    rw [List.map_cons, remembers hfirst, ih hrest]

end AdminConsole.Result
