import AdminConsole.Bundle.Join

/-!
# What polling a list preserves

Whatever the mode, polling a list of computations is a number of polls of single ones that are still pending,
one after another. So a property of the list and the state that each of these polls preserves holds after the
whole list was polled. In which order the computations are polled, and after which of them the rest is left
alone, does not matter for that.
-/

set_option autoImplicit false

namespace AdminConsole.Join

variable {α σ ε : Type} {status : α → Progress ε} {pollItem : α → σ → α × σ}
  {motive : List α → σ → Prop}

/-- Polling the computations after those of `before`, which are left alone. -/
theorem advance_induction (mode : JoinMode)
    (step : ∀ before item after state, (status item).isPending = true →
      motive (before ++ item :: after) state →
      motive (before ++ (pollItem item state).1 :: after) (pollItem item state).2)
    (before items : List α) (state : σ) (start : motive (before ++ items) state) :
    motive (before ++ (advance mode status pollItem items state).1)
      (advance mode status pollItem items state).2 := by
  induction items generalizing before state with
  | nil => exact start
  | cons item items ih =>
    obtain ⟨polled, after, hpolled, hmotive⟩ : ∃ polled after,
        (if (status item).isPending then pollItem item state else (item, state)) =
          (polled, after) ∧ motive (before ++ polled :: items) after := by
      split
      · rename_i hpending
        exact ⟨_, _, rfl, step before item items state hpending start⟩
      · exact ⟨item, state, rfl, start⟩
    unfold advance
    rw [hpolled]
    dsimp only
    split
    · exact hmotive
    · have hmoved : motive ((before ++ [polled]) ++ items) after := by
        rw [List.append_assoc]
        exact hmotive
      have hrest := ih (before ++ [polled]) after hmoved
      rw [List.append_assoc] at hrest
      exact hrest

/-- What a poll of any one computation keeps holds after the computations at some places have been polled, whatever the
places. -/
theorem advanceAt_induction
    (step : ∀ before item after state, (status item).isPending = true →
      motive (before ++ item :: after) state →
      motive (before ++ (pollItem item state).1 :: after) (pollItem item state).2)
    (places : List Nat) (items : List α) (state : σ) (start : motive items state) :
    motive (advanceAt status pollItem places items state).1
      (advanceAt status pollItem places items state).2 := by
  induction places generalizing items state with
  | nil => exact start
  | cons place places ih =>
    unfold advanceAt
    split
    · exact ih items state start
    · rename_i item hitem
      obtain ⟨hlt, rfl⟩ := List.getElem?_eq_some_iff.mp hitem
      -- The poll of one computation changes the list at its place.
      have hsplit : items = items.take place ++ items[place] :: items.drop (place + 1) := by
        rw [List.getElem_cons_drop, List.take_append_drop]
      obtain ⟨polled, after, hpolled, hmotive⟩ : ∃ polled after,
          (if (status items[place]).isPending then pollItem items[place] state
            else (items[place], state)) = (polled, after) ∧
          motive (items.set place polled) after := by
        split
        · rename_i hpending
          refine ⟨_, _, rfl, ?_⟩
          rw [List.set_eq_take_append_cons_drop, if_pos hlt]
          rw [hsplit] at start
          exact step _ _ _ state hpending start
        · refine ⟨_, _, rfl, ?_⟩
          rw [List.set_getElem_self]
          exact start
      rw [hpolled]
      dsimp only
      split
      · exact hmotive
      · exact ih _ after hmotive

/-- **What each poll of a pending computation preserves is preserved by polling the list.** -/
theorem poll_induction (mode : JoinMode) (woken : α → Waking)
    (step : ∀ before item after state, (status item).isPending = true →
      motive (before ++ item :: after) state →
      motive (before ++ (pollItem item state).1 :: after) (pollItem item state).2)
    (items : List α) (state : σ) (start : motive items state) :
    motive (poll mode status woken pollItem items state).1
      (poll mode status woken pollItem items state).2 := by
  cases mode with
  | serial => exact advance_induction .serial step [] items state start
  | together => exact advance_induction .together step [] items state start
  | inOrder => exact advanceAt_induction step (wakeOrder woken items) items state start

end AdminConsole.Join
