import AdminConsole.Proofs.Bundle.Openings

/-!
# Polling in turn

Computations that are polled in their order fall into those that had their turn and those that did not. Main
statement: what each turn keeps of the two lists and the state holds after the whole list was polled, and where not
all had their turn, something has stopped the poll. So a short list that fails in a poll fails with the computation that
had its turn last. A long list is polled in its order only at its start, when all of its computations were woken
together.
-/

set_option autoImplicit false

namespace AdminConsole.Join

/-- Of computations that are polled together only one that has failed keeps the others from being polled. -/
theorem stops_together {ε : Type} (progress : Progress ε) : stops .together progress = progress.isFailed := by
  cases progress <;> rfl

/-- Of computations that are polled together only one that has failed hides what comes after it. -/
theorem seesPast_together {ε : Type} (progress : Progress ε) : seesPast .together progress = !progress.isFailed := by
  cases progress <;> rfl

variable {α σ ε : Type} {status : α → Progress ε} {pollItem : α → σ → α × σ}
  {motive : List α → List α → σ → Prop}

/-- Whether none of these computations keeps those after it from being polled. -/
def Going (mode : JoinMode) (status : α → Progress ε) (items : List α) : Prop :=
  ∀ item ∈ items, stops mode (status item) = false

/-- None of some computations stops the others if this holds of the last one and of those before it. -/
theorem going_concat_iff {mode : JoinMode} {items : List α} {last : α} :
    Going mode status (items ++ [last]) ↔ Going mode status items ∧ stops mode (status last) = false := by
  simp [Going, or_imp, forall_and]

/-- **What each turn keeps**, a list keeps that is polled in its order, as far as the poll comes. -/
theorem advance_in_turn (mode : JoinMode) (status : α → Progress ε)
    (passed : ∀ before item after state, Going mode status before → (status item).isPending = false →
      motive before (item :: after) state → motive (before ++ [item]) after state)
    (polled : ∀ before item after state, Going mode status before → (status item).isPending = true →
      motive before (item :: after) state →
      motive (before ++ [(pollItem item state).1]) after (pollItem item state).2)
    (before items : List α) (state : σ) (going : Going mode status before) (start : motive before items state) :
    ∃ turned left, before ++ (advance mode status pollItem items state).1 = turned ++ left ∧
      motive turned left (advance mode status pollItem items state).2 ∧
      (left = [] ∧ Going mode status turned ∨
        ∃ others last, turned = others ++ [last] ∧ Going mode status others ∧ stops mode (status last) = true) := by
  induction items generalizing before state with
  | nil => exact ⟨before, [], rfl, start, .inl ⟨rfl, going⟩⟩
  | cons item items ih =>
    obtain ⟨item', state', hturn, hmotive⟩ : ∃ item' state',
        (if (status item).isPending then pollItem item state else (item, state)) = (item', state') ∧
          motive (before ++ [item']) items state' := by
      cases hpending : (status item).isPending with
      | true => exact ⟨_, _, rfl, polled before item items state going hpending start⟩
      | false => exact ⟨item, state, rfl, passed before item items state going hpending start⟩
    unfold advance
    rw [hturn]
    dsimp only
    cases hstops : stops mode (status item') with
    | true =>
      rw [if_pos rfl]
      exact ⟨before ++ [item'], items, by simp, hmotive, .inr ⟨before, item', rfl, going, hstops⟩⟩
    | false =>
      rw [if_neg (by simp)]
      obtain ⟨turned, left, hsplit, hrest, hend⟩ :=
        ih (before ++ [item']) state' (going_concat_iff.mpr ⟨going, hstops⟩) hmotive
      exact ⟨turned, left, by rw [← hsplit, List.append_assoc]; rfl, hrest, hend⟩

/-- The same for a long list, when nothing of it has ended and the places are those of its order. -/
theorem advanceAt_in_turn
    (polled : ∀ before item after state, motive before (item :: after) state →
      motive (before ++ [(pollItem item state).1]) after (pollItem item state).2)
    (before items : List α) (state : σ) (pending : ∀ item ∈ items, (status item).isPending = true)
    (start : motive before items state) :
    ∃ turned left,
      (advanceAt status pollItem (List.range' before.length items.length) (before ++ items) state).1 =
        turned ++ left ∧
      motive turned left
        (advanceAt status pollItem (List.range' before.length items.length) (before ++ items) state).2 ∧
      (left = [] ∨ (outcome .inOrder status (turned ++ left)).isFailed = true) := by
  induction items generalizing before state with
  | nil => exact ⟨before, [], rfl, start, .inl rfl⟩
  | cons item items ih =>
    obtain ⟨hpending, hlater⟩ := List.forall_mem_cons.mp pending
    have hmotive := polled before item items state start
    have hset : ∀ item', (before ++ item :: items).set before.length item' = before ++ [item'] ++ items := by
      intro item'
      simp
    rw [List.length_cons, List.range'_succ]
    unfold advanceAt
    simp only [List.getElem?_append_right (Nat.le_refl _), Nat.sub_self, List.getElem?_cons_zero, hpending, if_true,
      hset]
    split
    · rename_i e hfailed
      exact ⟨before ++ [(pollItem item state).1], items, rfl, hmotive, .inr (by rw [hfailed]; rfl)⟩
    · have hrest := ih (before ++ [(pollItem item state).1]) (pollItem item state).2 hlater hmotive
      rwa [List.length_append, List.length_singleton] at hrest

/-- **The first poll of a list** that is not serial: each computation has its turn in the order of the list, unless
the list has failed before. -/
theorem poll_in_turn {mode : JoinMode} (concurrent : mode ≠ .serial) (woken : α → Waking)
    (polled : ∀ before item after state, motive before (item :: after) state →
      motive (before ++ [(pollItem item state).1]) after (pollItem item state).2)
    (items : List α) (state : σ) (pending : ∀ item ∈ items, (status item).isPending = true)
    (atStart : ∀ item ∈ items, woken item = .atStart) (start : motive [] items state) :
    ∃ turned left, (poll mode status woken pollItem items state).1 = turned ++ left ∧
      motive turned left (poll mode status woken pollItem items state).2 ∧
      (left = [] ∨ (outcome mode status (turned ++ left)).isFailed = true) := by
  cases mode with
  | serial => exact absurd rfl concurrent
  | inOrder =>
    have hrest : ∃ turned left, (advanceAt status pollItem (List.range' 0 items.length) ([] ++ items) state).1 =
          turned ++ left ∧
        motive turned left (advanceAt status pollItem (List.range' 0 items.length) ([] ++ items) state).2 ∧
        (left = [] ∨ (outcome .inOrder status (turned ++ left)).isFailed = true) :=
      advanceAt_in_turn polled [] items state pending start
    rw [List.nil_append, ← List.range_eq_range', ← wakeOrder_of_atStart atStart] at hrest
    exact hrest
  | together =>
    -- what is still to have its turn has not been polled, so it is pending
    have hpassed : ∀ before item after state, Going .together status before → (status item).isPending = false →
        (motive before (item :: after) state ∧ ∀ other ∈ item :: after, (status other).isPending = true) →
        motive (before ++ [item]) after state ∧ ∀ other ∈ after, (status other).isPending = true := by
      intro before item after state _ hended h
      have hgoing := h.2 item List.mem_cons_self
      rw [hended] at hgoing
      cases hgoing
    obtain ⟨turned, left, hsplit, ⟨hmotive, _⟩, hend⟩ := advance_in_turn .together status
      (motive := fun before after state => motive before after state ∧ ∀ item ∈ after, (status item).isPending = true)
      hpassed
      (fun before item after state _ _ h =>
        ⟨polled before item after state h.1, fun other hother => h.2 other (List.mem_cons_of_mem item hother)⟩)
      [] items state (by simp [Going]) ⟨start, pending⟩
    refine ⟨turned, left, hsplit, hmotive, ?_⟩
    rcases hend with ⟨hleft, _⟩ | ⟨others, last, rfl, _, hstops⟩
    · exact .inl hleft
    · right
      rw [isFailed_outcome (by decide), List.any_eq_true]
      exact ⟨last, by simp, by rwa [stops_together] at hstops⟩

/-- **A short list that has failed in a poll** has failed with the computation that had its turn last. -/
theorem failed_in_turn {woken : α → Waking}
    (passed : ∀ before item after state, (status item).isPending = false → motive before (item :: after) state →
      motive (before ++ [item]) after state)
    (polled : ∀ before item after state, (status item).isPending = true → motive before (item :: after) state →
      motive (before ++ [(pollItem item state).1]) after (pollItem item state).2)
    (items : List α) (state : σ) (start : motive [] items state) {e : ε}
    (failed : outcome .together status (poll .together status woken pollItem items state).1 = .failed e) :
    ∃ others last left, motive (others ++ [last]) left (poll .together status woken pollItem items state).2 ∧
      status last = .failed e ∧ ∀ other ∈ others, (status other).isFailed = false := by
  obtain ⟨turned, left, hsplit, hmotive, hend⟩ := advance_in_turn .together status
    (fun before item after state _ => passed before item after state)
    (fun before item after state _ => polled before item after state)
    [] items state (by simp [Going]) start
  have hpoll : (poll .together status woken pollItem items state).1 = turned ++ left := hsplit
  rw [hpoll] at failed
  rcases hend with ⟨rfl, hgoing⟩ | ⟨others, last, rfl, hgoing, hstops⟩
  · obtain ⟨before, item, after, hitem, hfailed, _⟩ := (outcome_eq_failed_iff _ _ e).mp failed
    have hgoes := hgoing item (by rw [← List.append_nil turned, hitem]; simp)
    rw [hfailed] at hgoes
    cases hgoes
  · have hsound : ∀ other ∈ others, (status other).isFailed = false := by
      intro other hother
      rw [← stops_together]
      exact hgoing other hother
    rw [stops_together] at hstops
    obtain ⟨e', hlast⟩ := Progress.isFailed_iff.mp hstops
    have hfails : outcome .together status (others ++ [last] ++ left) = .failed e' := by
      refine (outcome_eq_failed_iff _ _ e').mpr ⟨others, last, left, by simp, hlast, ?_⟩
      intro other hother
      rw [seesPast_together, hsound other hother]
      rfl
    obtain rfl : e' = e := Progress.failed.inj (hfails.symm.trans failed)
    exact ⟨others, last, left, hmotive, hlast, hsound⟩

end AdminConsole.Join
