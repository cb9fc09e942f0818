import AdminConsole.Proofs.Keyed
import AdminConsole.Route.Definition

/-!
# Chains of routes

The chain of a route is put together from the beginnings of its dotted name. Main statement: in a list of
definitions with each name once, the chain holds the route and all registered routes whose name with a dot
after it begins the route's name, the shortest name first, and no others. It does not matter which levels of
the name are registered, nor in which order.
-/

set_option autoImplicit false

namespace AdminConsole.RouteDefinition

/-- Whether a route is an ancestor of another one: its name with a dot begins the name of the other. -/
def IsAncestor (q d : RouteDefinition) : Prop :=
  q.name.toList ++ ['.'] <+: d.name.toList

/-- Whether a list holds a registered route and all its registered ancestors, the outermost first. -/
structure IsLineage (definitions : List RouteDefinition) (d : RouteDefinition)
    (lineage : List RouteDefinition) : Prop where
  members : ∀ q, q ∈ lineage ↔ q ∈ definitions ∧ (q = d ∨ q.IsAncestor d)
  order : lineage.Pairwise fun p q => p.name.length < q.name.length

/-! ## Beginnings of a name -/

/-- A text has a beginning before one of its dots if it goes on with a dot there. -/
theorem mem_beginnings_iff {text start : List Char} :
    start ∈ beginnings text ↔ start ++ ['.'] <+: text := by
  induction text generalizing start with
  | nil => simp [beginnings]
  | cons c rest ih =>
    unfold beginnings
    cases start with
    | nil =>
      by_cases hc : c = '.'
      · simp [hc]
      · have hne : ¬ '.' = c := fun e => hc e.symm
        simp [hc, hne]
    | cons a start =>
      have hlonger : a :: start ∈ (beginnings rest).map (c :: ·) ↔ c = a ∧ start ∈ beginnings rest := by
        simp only [List.mem_map, List.cons.injEq]
        constructor
        · rintro ⟨other, hmem, rfl, rfl⟩
          exact ⟨rfl, hmem⟩
        · rintro ⟨rfl, hmem⟩
          exact ⟨start, hmem, rfl, rfl⟩
      have hmem : a :: start ∈ (if c = '.' then [] :: (beginnings rest).map (c :: ·)
          else (beginnings rest).map (c :: ·)) ↔ c = a ∧ start ∈ beginnings rest := by
        split
        · rw [List.mem_cons, hlonger]
          simp
        · exact hlonger
      rw [hmem, ih, List.cons_append, List.cons_prefix_cons]
      exact and_congr_left fun _ => eq_comm

/-- The beginnings of a text come from the shortest to the longest. -/
theorem pairwise_length_beginnings (text : List Char) :
    (beginnings text).Pairwise fun a b => a.length < b.length := by
  induction text with
  | nil => exact List.Pairwise.nil
  | cons c rest ih =>
    have hlonger : ((beginnings rest).map (c :: ·)).Pairwise fun a b => a.length < b.length := by
      rw [List.pairwise_map]
      refine ih.imp ?_
      intro a b h
      simpa using h
    unfold beginnings
    split
    · refine List.pairwise_cons.mpr ⟨?_, hlonger⟩
      intro start hstart
      obtain ⟨other, _, rfl⟩ := List.mem_map.mp hstart
      simp
    · exact hlonger

/-- The names of the ancestors are those that the name itself continues with a dot. -/
theorem mem_ancestorNames_iff {name other : String} :
    other ∈ ancestorNames name ↔ other.toList ++ ['.'] <+: name.toList := by
  rw [ancestorNames, List.mem_map, ← mem_beginnings_iff]
  constructor
  · rintro ⟨start, hstart, rfl⟩
    rw [String.toList_ofList]
    exact hstart
  · intro hmem
    exact ⟨other.toList, hmem, String.ofList_toList⟩

/-- The names of the ancestors come from the outermost to the innermost. -/
theorem pairwise_length_ancestorNames (name : String) :
    (ancestorNames name).Pairwise fun a b => a.length < b.length := by
  rw [ancestorNames, List.pairwise_map]
  refine (pairwise_length_beginnings name.toList).imp ?_
  intro a b h
  simpa using h

/-! ## Chains -/

variable {definitions : List RouteDefinition}

/-- A route that is found under a name is declared, and has this name. -/
theorem of_find? {name : String} {q : RouteDefinition} (h : find? definitions name = some q) :
    q ∈ definitions ∧ q.name = name :=
  ⟨List.mem_of_find?_eq_some h, by simpa using List.find?_some h⟩

/-- With each name once, every definition is found under its name. -/
theorem find?_eq_some (nodup : (definitions.map (·.name)).Nodup) {q : RouteDefinition}
    (hq : q ∈ definitions) : find? definitions q.name = some q :=
  Keyed.find?_eq_some nodup hq

/-- **The chain of a registered route is its lineage.** -/
theorem isLineage_chain (nodup : (definitions.map (·.name)).Nodup) {d : RouteDefinition}
    (hd : d ∈ definitions) : IsLineage definitions d (d.chain definitions) where
  members := by
    intro q
    rw [chain, List.mem_append, List.mem_singleton, List.mem_filterMap]
    constructor
    · rintro (⟨name, hname, hfound⟩ | rfl)
      · obtain ⟨hq, rfl⟩ := of_find? hfound
        exact ⟨hq, .inr (mem_ancestorNames_iff.mp hname)⟩
      · exact ⟨hd, .inl rfl⟩
    · rintro ⟨hq, rfl | hancestor⟩
      · exact .inr rfl
      · exact .inl ⟨q.name, mem_ancestorNames_iff.mpr hancestor, find?_eq_some nodup hq⟩
  order := by
    rw [chain, List.pairwise_append]
    refine ⟨?_, List.pairwise_singleton _ _, ?_⟩
    · rw [List.pairwise_filterMap]
      refine (pairwise_length_ancestorNames d.name).imp ?_
      intro a b hlt p hp q hq
      rw [(of_find? hp).2, (of_find? hq).2]
      exact hlt
    · intro p hp q hq
      obtain ⟨name, hname, hfound⟩ := List.mem_filterMap.mp hp
      obtain rfl := List.mem_singleton.mp hq
      have hlength := (mem_ancestorNames_iff.mp hname).length_le
      rw [(of_find? hfound).2]
      simp only [List.length_append, List.length_singleton, String.length_toList] at hlength
      omega

/-- A route has one lineage. -/
theorem IsLineage.eq {d : RouteDefinition} {lineage other : List RouteDefinition}
    (h : IsLineage definitions d lineage) (hother : IsLineage definitions d other) : lineage = other := by
  have nodup : ∀ xs, IsLineage definitions d xs → xs.Nodup := by
    intro xs hxs
    refine hxs.order.imp ?_
    rintro p q hlt rfl
    exact Nat.lt_irrefl _ hlt
  have hperm : lineage.Perm other := by
    rw [List.perm_ext_iff_of_nodup (nodup lineage h) (nodup other hother)]
    intro q
    rw [h.members, hother.members]
  -- Two members cannot change places, as their names have different lengths.
  refine hperm.eq_of_pairwise ?_ h.order hother.order
  intro p q _ _ hlt hgt
  exact absurd hgt (Nat.lt_asymm hlt)

end AdminConsole.RouteDefinition
