import AdminConsole.Route.Table

/-!
# The running best of some matches

The matches of a path are gone through in the order of registration, and the best one so far is kept. Main
statement: the one that is kept in the end is the first of those with the most literal segments. The ties that are
met on the way are, first, some between matches that were registered before it, and then those of the kept match
with every later one that has as many literal segments.
-/

set_option autoImplicit false

namespace AdminConsole.RouteMatch

/-- How the kept match and the ties stand to the matches that were gone through. -/
structure Kept (path : String) (ms before after : List RouteMatch) (early ties : List Ambiguity)
    (best : RouteMatch) : Prop where
  split : ms = before ++ best :: after
  less : ∀ m ∈ before, m.specificity < best.specificity
  atMost : ∀ m ∈ after, m.specificity ≤ best.specificity
  ties : ties = early ++
    (after.filter fun m => m.specificity == best.specificity).map fun m => ⟨path, best.name, m.name⟩
  early : ∀ tie ∈ early, ∃ a b, [a, b].Sublist before ∧ a.specificity = b.specificity ∧
    tie = ⟨path, a.name, b.name⟩

namespace Kept

variable {path : String} {ms before after more : List RouteMatch} {early ties : List Ambiguity}
  {best first next : RouteMatch}

/-- No match is more specific than the one that was kept. -/
theorem bound (h : Kept path ms before after early ties best) {m : RouteMatch} (hm : m ∈ ms) :
    m.specificity ≤ best.specificity := by
  rw [h.split, List.mem_append, List.mem_cons] at hm
  rcases hm with hm | rfl | hm
  · exact Nat.le_of_lt (h.less m hm)
  · exact Nat.le_refl _
  · exact h.atMost m hm

/-- A match that is overtaken stands before the kept one. -/
theorem overtaken (h : Kept path (next :: more) before after early ties best)
    (less : first.specificity < next.specificity) :
    Kept path (first :: next :: more) (first :: before) after early ties best := by
  have hnext := h.bound List.mem_cons_self
  refine ⟨by rw [h.split]; rfl, ?_, h.atMost, h.ties, ?_⟩
  · intro m hm
    rcases List.mem_cons.mp hm with rfl | hm
    · omega
    · exact h.less m hm
  · intro tie htie
    obtain ⟨a, b, hsub, hsame⟩ := h.early tie htie
    exact ⟨a, b, hsub.cons first, hsame⟩

/-- A match that does not beat the best so far is passed, and is a tie of it or none. -/
theorem passed (h : Kept path (first :: more) before after early ties best)
    (atMost : next.specificity ≤ first.specificity) :
    ∃ before after early, Kept path (first :: next :: more) before after early
      (if next.specificity = first.specificity then ⟨path, first.name, next.name⟩ :: ties else ties) best := by
  cases before with
  | nil =>
    obtain ⟨rfl, rfl⟩ := List.cons.inj h.split
    -- Nothing stands before the best so far, so there was no tie before its own.
    obtain rfl : early = [] := by
      refine List.eq_nil_iff_forall_not_mem.mpr fun tie htie => ?_
      obtain ⟨a, b, hsub, _⟩ := h.early tie htie
      cases hsub
    refine ⟨[], next :: more, [], rfl, by simp, List.forall_mem_cons.mpr ⟨atMost, h.atMost⟩, ?_, by simp⟩
    rw [h.ties]
    by_cases hsame : next.specificity = first.specificity <;> simp [hsame]
  | cons m before =>
    obtain ⟨rfl, rfl⟩ := List.cons.inj h.split
    obtain ⟨hfirst, hbefore⟩ := List.forall_mem_cons.mp h.less
    refine ⟨first :: next :: before, after, if next.specificity = first.specificity then
      ⟨path, first.name, next.name⟩ :: early else early, rfl, ?_, h.atMost, ?_, ?_⟩
    · exact List.forall_mem_cons.mpr ⟨hfirst, List.forall_mem_cons.mpr ⟨by omega, hbefore⟩⟩
    · rw [h.ties]
      split <;> rfl
    · have hearly : ∀ tie ∈ early, ∃ a b, [a, b].Sublist (first :: next :: before) ∧
          a.specificity = b.specificity ∧ tie = ⟨path, a.name, b.name⟩ := by
        intro tie htie
        obtain ⟨a, b, hsub, hsame⟩ := h.early tie htie
        exact ⟨a, b, hsub.trans ((List.sublist_cons_self next before).cons_cons first), hsame⟩
      split
      · rename_i hsame
        refine List.forall_mem_cons.mpr ⟨⟨first, next, ?_, hsame.symm, rfl⟩, hearly⟩
        exact ((List.nil_sublist before).cons_cons next).cons_cons first
      · exact hearly

section

variable (h : Kept path ms before after early ties best) (nodup : (ms.map RouteMatch.name).Nodup)
include h nodup

/-- The other matches are those of routes with other names. -/
theorem name_ne {m : RouteMatch} (hm : m ∈ before ∨ m ∈ after) : m.name ≠ best.name := by
  have hnames := nodup
  rw [h.split, List.map_append, List.map_cons, List.nodup_append] at hnames
  obtain ⟨_, hafter, hapart⟩ := hnames
  rcases hm with hm | hm
  · exact hapart m.name (List.mem_map_of_mem hm) best.name List.mem_cons_self
  · intro hname
    exact (List.nodup_cons.mp hafter).1 (hname ▸ List.mem_map_of_mem hm)

/-- The ties of the kept match are all others that are as good, in their order. -/
theorem filter_ties :
    ties.filter (fun tie => tie.chosen == best.name) =
      (ms.filter fun m => m.specificity == best.specificity && m.name != best.name).map
        fun m => ⟨path, best.name, m.name⟩ := by
  -- An early tie names a match before the kept one, and names are unique, so it is none of the kept one's.
  have hearly : early.filter (fun tie => tie.chosen == best.name) = [] := by
    rw [List.filter_eq_nil_iff]
    intro tie htie
    obtain ⟨a, b, hsub, _, rfl⟩ := h.early tie htie
    have hne := h.name_ne nodup (.inl (hsub.subset List.mem_cons_self))
    simpa using hne
  have hown : ∀ rivals : List RouteMatch,
      (rivals.map fun m => (⟨path, best.name, m.name⟩ : Ambiguity)).filter (fun tie => tie.chosen == best.name) =
        rivals.map fun m => ⟨path, best.name, m.name⟩ := by
    intro rivals
    rw [List.filter_eq_self]
    intro tie htie
    obtain ⟨m, _, rfl⟩ := List.mem_map.mp htie
    simp
  have hbefore : before.filter (fun m => m.specificity == best.specificity && m.name != best.name) = [] := by
    rw [List.filter_eq_nil_iff]
    intro m hm
    have hless := h.less m hm
    simp [Nat.ne_of_lt hless]
  have hafter : after.filter (fun m => m.specificity == best.specificity && m.name != best.name) =
      after.filter fun m => m.specificity == best.specificity := by
    apply List.filter_congr
    intro m hm
    have hne := h.name_ne nodup (.inr hm)
    simp [hne]
  rw [h.ties, List.filter_append, hearly, hown, h.split, List.filter_append, hbefore, List.filter_cons, hafter]
  simp

end

/-- Any other tie is one between two matches that are as good as each other and worse than the kept one. -/
theorem exists_of_mem_ties (h : Kept path ms before after early ties best) {tie : Ambiguity} (htie : tie ∈ ties)
    (other : tie.chosen ≠ best.name) :
    ∃ a b, [a, b].Sublist ms ∧ a.specificity = b.specificity ∧ a.specificity < best.specificity ∧
      tie = ⟨path, a.name, b.name⟩ := by
  rw [h.ties, List.mem_append] at htie
  rcases htie with htie | htie
  · obtain ⟨a, b, hsub, hsame, hnames⟩ := h.early tie htie
    have hms : before.Sublist ms := h.split ▸ List.sublist_append_left before (best :: after)
    exact ⟨a, b, hsub.trans hms, hsame, h.less a (hsub.subset List.mem_cons_self), hnames⟩
  · obtain ⟨m, _, rfl⟩ := List.mem_map.mp htie
    exact absurd rfl other

end Kept

/-- **The kept match** is the first of the best, and the ties are as they should be. -/
theorem exists_kept (path : String) (best : RouteMatch) (more : List RouteMatch) :
    ∃ before after early, Kept path (best :: more) before after early (choose path best more).2
      (choose path best more).1 := by
  induction more generalizing best with
  | nil => exact ⟨[], [], [], rfl, by simp, by simp, rfl, by simp⟩
  | cons next more ih =>
    by_cases hless : best.specificity < next.specificity
    · obtain ⟨before, after, early, h⟩ := ih next
      rw [choose, if_pos hless]
      exact ⟨best :: before, after, early, h.overtaken hless⟩
    · obtain ⟨before, after, early, h⟩ := ih best
      have hchoose : choose path best (next :: more) = ((choose path best more).1,
          if next.specificity = best.specificity then ⟨path, best.name, next.name⟩ :: (choose path best more).2
          else (choose path best more).2) := by
        rw [choose, if_neg hless]
        dsimp only
        split <;> rfl
      rw [hchoose]
      exact h.passed (Nat.not_lt.mp hless)

end AdminConsole.RouteMatch
