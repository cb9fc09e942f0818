import AdminConsole.Text.Cut

/-!
# Splitting undoes joining

Texts joined with a separator that none of them contains are found again by cutting at the separator.
-/

set_option autoImplicit false

namespace AdminConsole.Text

/-- A text without the separator is its own only piece. -/
theorem pieces_of_not_mem {sep : Char} {text : List Char} (h : sep ∉ text) :
    pieces sep text = [text] := by
  induction text with
  | nil => rfl
  | cons c text ih =>
    have hc : c ≠ sep := fun e => h (by simp [e])
    have htext : sep ∉ text := fun m => h (List.mem_cons_of_mem c m)
    rw [pieces, if_neg hc, ih htext]

/-- The text up to the first separator is the first piece. -/
theorem pieces_append {sep : Char} {text : List Char} (rest : List Char) (h : sep ∉ text) :
    pieces sep (text ++ sep :: rest) = text :: pieces sep rest := by
  induction text with
  | nil => rw [List.nil_append, pieces, if_pos rfl]
  | cons c text ih =>
    have hc : c ≠ sep := fun e => h (by simp [e])
    have htext : sep ∉ text := fun m => h (List.mem_cons_of_mem c m)
    rw [List.cons_append, pieces, if_neg hc, ih htext]

/-- The pieces before a separator and those after it are the pieces of the whole text. -/
theorem pieces_append_cons (sep : Char) (text rest : List Char) :
    pieces sep (text ++ sep :: rest) = pieces sep text ++ pieces sep rest := by
  induction text with
  | nil => simp [pieces]
  | cons c text ih =>
    obtain ⟨first, more, hpieces⟩ := List.exists_cons_of_ne_nil (pieces_ne_nil sep text)
    rw [hpieces, List.cons_append] at ih
    by_cases hc : c = sep
    · rw [List.cons_append, pieces, if_pos hc, pieces, if_pos hc, ih, hpieces]
      rfl
    · rw [List.cons_append, pieces, if_neg hc, pieces, if_neg hc, ih, hpieces]
      rfl

/-- A text without the separator belongs to the first piece of what follows it. -/
theorem pieces_append_of_not_mem {sep : Char} {text : List Char} (rest : List Char) (h : sep ∉ text) :
    pieces sep (text ++ rest) = (pieces sep rest).modifyHead (text ++ ·) := by
  induction text with
  | nil =>
    obtain ⟨first, more, hpieces⟩ := List.exists_cons_of_ne_nil (pieces_ne_nil sep rest)
    rw [List.nil_append, hpieces, List.modifyHead_cons, List.nil_append]
  | cons c text ih =>
    obtain ⟨hc, htext⟩ := not_or.mp (mt List.mem_cons.mpr h)
    obtain ⟨first, more, hpieces⟩ := List.exists_cons_of_ne_nil (pieces_ne_nil sep rest)
    rw [List.cons_append, pieces, if_neg (Ne.symm hc), ih htext, hpieces]
    rfl

/-- The characters of joined texts, as far as the first of them. -/
theorem toList_join_cons (sep text : String) (more : List String) (h : more ≠ []) :
    (join sep (text :: more)).toList = text.toList ++ (sep.toList ++ (join sep more).toList) := by
  cases more with
  | nil => exact absurd rfl h
  | cons next more => simp only [join, String.toList_append, List.append_assoc]

/-- **The pieces of joined texts are the texts**, if none of them contains the separator. -/
theorem pieces_join {sep : Char} {text : String} (hsep : text.toList = [sep]) {texts : List String}
    (nonempty : texts ≠ []) (free : ∀ t ∈ texts, sep ∉ t.toList) :
    pieces sep (join text texts).toList = texts.map String.toList := by
  induction texts with
  | nil => exact absurd rfl nonempty
  | cons first more ih =>
    have hfirst : sep ∉ first.toList := free first List.mem_cons_self
    by_cases hmore : more = []
    · subst hmore
      exact pieces_of_not_mem hfirst
    · have hrest := ih hmore fun t ht => free t (List.mem_cons_of_mem first ht)
      rw [toList_join_cons text first more hmore, hsep, List.singleton_append,
        pieces_append _ hfirst, hrest, List.map_cons]

/-- The same without the empty pieces, also when there is nothing to join. -/
theorem filter_pieces_join {sep : Char} {text : String} (hsep : text.toList = [sep]) {texts : List String}
    (free : ∀ t ∈ texts, t.toList ≠ [] ∧ sep ∉ t.toList) :
    ((pieces sep (join text texts).toList).filter fun piece => !piece.isEmpty) = texts.map String.toList := by
  cases texts with
  | nil => rfl
  | cons first more =>
    rw [pieces_join hsep (List.cons_ne_nil first more) fun t ht => (free t ht).2, List.filter_eq_self]
    intro piece hpiece
    obtain ⟨t, ht, rfl⟩ := List.mem_map.mp hpiece
    simpa using (free t ht).1

/-- No piece contains the separator. -/
theorem not_mem_of_mem_pieces {sep : Char} {text piece : List Char} (h : piece ∈ pieces sep text) :
    sep ∉ piece := by
  induction text generalizing piece with
  | nil =>
    rw [List.mem_singleton.mp h]
    exact List.not_mem_nil
  | cons c text ih =>
    unfold pieces at h
    by_cases hc : c = sep
    · rw [if_pos hc] at h
      rcases List.mem_cons.mp h with rfl | hmem
      · exact List.not_mem_nil
      · exact ih hmem
    · rw [if_neg hc] at h
      cases hrest : pieces sep text with
      | nil => exact absurd hrest (pieces_ne_nil sep text)
      | cons first more =>
        rw [hrest] at h ih
        rcases List.mem_cons.mp h with rfl | hmem
        · have hfirst : sep ∉ first := ih List.mem_cons_self
          simp [hfirst, Ne.symm hc]
        · exact ih (List.mem_cons_of_mem first hmem)

/-- The characters of joined texts are those of the texts and of the separator. -/
theorem mem_join {sep : String} {texts : List String} {c : Char} (h : c ∈ (join sep texts).toList) :
    c ∈ sep.toList ∨ ∃ text ∈ texts, c ∈ text.toList := by
  induction texts with
  | nil => simp [join] at h
  | cons text more ih =>
    by_cases hmore : more = []
    · subst hmore
      exact .inr ⟨text, List.mem_cons_self, h⟩
    · rw [toList_join_cons sep text more hmore, List.mem_append, List.mem_append] at h
      rcases h with h | h | h
      · exact .inr ⟨text, List.mem_cons_self, h⟩
      · exact .inl h
      · rcases ih h with hsep | ⟨other, hother, hc⟩
        · exact .inl hsep
        · exact .inr ⟨other, List.mem_cons_of_mem text hother, hc⟩

/-! ## Finding a marker -/

/-- There is something after a start if the text starts with it. -/
theorem isSome_after?_iff {start text : List Char} : (after? start text).isSome = true ↔ start <+: text := by
  constructor
  · intro h
    obtain ⟨rest, hrest⟩ := Option.isSome_iff_exists.mp h
    exact ⟨rest, (eq_append_of_after? hrest).symm⟩
  · rintro ⟨rest, rfl⟩
    rw [after?_append]
    rfl

/-- A marker is found wherever it occurs. -/
theorem occursIn_iff {marker text : List Char} : occursIn marker text = true ↔ marker <:+: text := by
  unfold occursIn
  induction text with
  | nil => rw [afterFirst?, isSome_after?_iff, List.infix_nil, List.prefix_nil]
  | cons c text ih =>
    rw [List.infix_cons_iff, ← ih, ← isSome_after?_iff, afterFirst?]
    cases after? marker (c :: text) <;> simp

/-- There is nothing after a marker if the text does not contain it. -/
theorem afterFirst?_eq_none_iff {marker text : List Char} : afterFirst? marker text = none ↔ ¬ marker <:+: text := by
  rw [← occursIn_iff, occursIn]
  simp

/-- A marker is found at once behind a text without its first character. -/
theorem afterFirst?_append {c : Char} {marker before : List Char} (rest : List Char) (h : c ∉ before) :
    afterFirst? (c :: marker) (before ++ (c :: marker) ++ rest) = some rest := by
  induction before with
  | nil =>
    have hfound := after?_append (c :: marker) rest
    rw [List.cons_append] at hfound
    rw [List.nil_append, List.cons_append, afterFirst?, hfound]
  | cons d before ih =>
    obtain ⟨hd, hbefore⟩ := not_or.mp (mt List.mem_cons.mpr h)
    rw [List.cons_append, List.cons_append, afterFirst?, after?, if_neg hd]
    exact ih hbefore

/-- The text around the first occurrence of a marker. -/
theorem eq_append_of_afterFirst? {marker text rest : List Char} (nonempty : marker ≠ [])
    (h : afterFirst? marker text = some rest) :
    ∃ before, text = before ++ marker ++ rest ∧ ¬ marker <:+: before ++ marker.dropLast := by
  induction text with
  | nil =>
    have hmarker := eq_append_of_after? h
    exact absurd (List.append_eq_nil_iff.mp hmarker.symm).1 nonempty
  | cons c text ih =>
    rw [afterFirst?] at h
    cases hafter : after? marker (c :: text) with
    | some tail =>
      rw [hafter] at h
      obtain rfl := Option.some.inj h
      -- The marker is at the start, and does not fit into its own beginning.
      refine ⟨[], eq_append_of_after? hafter, fun hinside => ?_⟩
      have hlength := hinside.length_le
      have hpos := List.length_pos_iff.mpr nonempty
      rw [List.nil_append, List.length_dropLast] at hlength
      omega
    | none =>
      rw [hafter] at h
      obtain ⟨before, rfl, hlater⟩ := ih h
      refine ⟨c :: before, rfl, fun hinside => ?_⟩
      rcases List.infix_cons_iff.mp hinside with hprefix | hinside
      · -- A marker at the start would have been found there.
        have hshort : marker.dropLast <+: marker ++ rest :=
          (List.dropLast_prefix marker).trans (List.prefix_append marker rest)
        have hwhole : marker <+: c :: (before ++ marker ++ rest) := by
          rw [List.append_assoc]
          exact hprefix.trans (List.cons_prefix_cons.mpr ⟨rfl, (List.prefix_append_right_inj before).mpr hshort⟩)
        have hfound := isSome_after?_iff.mpr hwhole
        rw [hafter] at hfound
        cases hfound
      · exact hlater hinside

end AdminConsole.Text
