import AdminConsole.Bundle.Join

/-!
# What a list comes to

A list of computations succeeds when all of them have succeeded. When it fails depends on its mode: a list that
is not taken in order fails with the first failure in it, whatever became of those before it, while one that is
taken in order fails only after all before the failure have succeeded. So a list of the first kind has failed as
soon as one of its computations has, and a list of the second kind may not have.
-/

set_option autoImplicit false

namespace AdminConsole

namespace Progress

variable {ε : Type}

/-- Whether the computation has failed. -/
def isFailed : Progress ε → Bool
  | .failed _ => true
  | _ => false

/-- Something has failed if there is an error to tell. -/
theorem isFailed_iff {p : Progress ε} : p.isFailed = true ↔ ∃ e, p = .failed e := by
  cases p <;> simp [isFailed]

end Progress

namespace Join

variable {α ε : Type} {status : α → Progress ε}

/-- A list has succeeded when all its computations have, in every mode. -/
theorem outcome_eq_succeeded_iff (mode : JoinMode) (items : List α) :
    outcome mode status items = .succeeded ↔ ∀ item ∈ items, status item = .succeeded := by
  induction items with
  | nil => simp [outcome]
  | cons item items ih =>
    rw [List.forall_mem_cons, ← ih]
    cases hstatus : status item with
    | succeeded => simp [outcome, hstatus]
    | failed e => simp [outcome, hstatus]
    | pending =>
      simp only [outcome, hstatus]
      split <;> simp

/-- Whether a failure is noticed behind a computation that has come so far. -/
def seesPast (mode : JoinMode) : Progress ε → Bool
  | .succeeded => true
  | .pending => mode != .inOrder
  | .failed _ => false

/-- The first item of some kind is the first of all, or the first of the others. -/
theorem exists_split_cons_iff {Found Skipped : α → Prop} {first : α} {items : List α} :
    (∃ before item after, first :: items = before ++ item :: after ∧ Found item ∧
      ∀ other ∈ before, Skipped other) ↔
    Found first ∨ Skipped first ∧ ∃ before item after, items = before ++ item :: after ∧
      Found item ∧ ∀ other ∈ before, Skipped other := by
  constructor
  · rintro ⟨before, item, after, hsplit, hitem, hbefore⟩
    cases before with
    | nil =>
      obtain ⟨rfl, _⟩ := List.cons.inj hsplit
      exact .inl hitem
    | cons other before =>
      obtain ⟨rfl, rfl⟩ := List.cons.inj hsplit
      obtain ⟨hfirst, hbefore⟩ := List.forall_mem_cons.mp hbefore
      exact .inr ⟨hfirst, before, item, after, rfl, hitem, hbefore⟩
  · rintro (hfirst | ⟨hfirst, before, item, after, rfl, hitem, hbefore⟩)
    · exact ⟨[], first, items, rfl, hfirst, by simp⟩
    · exact ⟨first :: before, item, after, rfl, hitem, List.forall_mem_cons.mpr ⟨hfirst, hbefore⟩⟩

/-- Behind a computation that goes on the failures of others are noticed, unless they are taken in order. -/
theorem outcome_eq_failed_of_pending {mode : JoinMode} {first : α} {items : List α} {e : ε}
    (pending : status first = .pending) :
    outcome mode status (first :: items) = .failed e ↔
      mode ≠ .inOrder ∧ outcome mode status items = .failed e := by
  simp only [outcome, pending]
  cases mode with
  | inOrder => simp
  | serial => cases outcome .serial status items <;> simp
  | together => cases outcome .together status items <;> simp

/-- **A list fails** with the first failure in it, if its mode lets this failure be noticed behind all that
stand before it. -/
theorem outcome_eq_failed_iff (mode : JoinMode) (items : List α) (e : ε) :
    outcome mode status items = .failed e ↔
      ∃ before item after, items = before ++ item :: after ∧ status item = .failed e ∧
        ∀ other ∈ before, seesPast mode (status other) = true := by
  induction items with
  | nil => simp [outcome]
  | cons first items ih =>
    rw [exists_split_cons_iff, ← ih]
    cases hstatus : status first with
    | succeeded => simp [outcome, hstatus, seesPast]
    | failed other => simp [outcome, hstatus, seesPast]
    | pending => simp [outcome_eq_failed_of_pending hstatus, seesPast]

/-- A list that is not taken in order has failed as soon as one of its computations has. -/
theorem isFailed_outcome {mode : JoinMode} (hmode : mode ≠ .inOrder) (items : List α) :
    (outcome mode status items).isFailed = items.any fun item => (status item).isFailed := by
  induction items with
  | nil => rfl
  | cons first items ih =>
    rw [List.any_cons, ← ih]
    cases hstatus : status first with
    | succeeded => simp [outcome, hstatus, Progress.isFailed]
    | failed e => simp [outcome, hstatus, Progress.isFailed]
    | pending =>
      -- The failure of one that stands further on is that of the list.
      have hlater : (outcome mode status (first :: items)).isFailed =
          (outcome mode status items).isFailed := by
        rw [Bool.eq_iff_iff, Progress.isFailed_iff, Progress.isFailed_iff]
        simp [outcome_eq_failed_of_pending hstatus, hmode]
      exact hlater

end Join

end AdminConsole
