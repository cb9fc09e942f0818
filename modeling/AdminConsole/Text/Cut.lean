/-!
# Cutting text

Text is cut at separators all over the console: paths at `/`, queries at `&` and `=`, route names at
`.`. The functions here do this on lists of characters by recursion on the list, so that each of them
can be undone by putting the parts together again.
-/

set_option autoImplicit false

namespace AdminConsole.Text

/-- The texts before and after the first separator, if the text has one. -/
def cutFirst (sep : Char) : List Char → Option (List Char × List Char)
  | [] => none
  | c :: rest =>
      if c = sep then some ([], rest)
      else (cutFirst sep rest).map fun parts => (c :: parts.1, parts.2)

/-- The texts before and after the last separator, if the text has one. -/
def cutLast (sep : Char) : List Char → Option (List Char × List Char)
  | [] => none
  | c :: rest =>
      match cutLast sep rest with
      | some parts => some (c :: parts.1, parts.2)
      | none => if c = sep then some ([], rest) else none

/-- The texts between separators. A text without a separator is its own single piece, so there is
always at least one piece. -/
def pieces (sep : Char) : List Char → List (List Char)
  | [] => [[]]
  | c :: rest =>
      if c = sep then [] :: pieces sep rest
      else
        match pieces sep rest with
        | [] => [[c]]
        | piece :: more => (c :: piece) :: more

/-- What follows `start`, if the text begins with it. -/
def after? : (start text : List Char) → Option (List Char)
  | [], text => some text
  | _ :: _, [] => none
  | a :: start, c :: text => if a = c then after? start text else none

/-- What follows the first occurrence of `marker`, if there is one. -/
def afterFirst? (marker : List Char) : List Char → Option (List Char)
  | [] => after? marker []
  | c :: rest =>
      match after? marker (c :: rest) with
      | some tail => some tail
      | none => afterFirst? marker rest

/-- Whether `marker` occurs somewhere in the text. -/
def occursIn (marker text : List Char) : Bool :=
  (afterFirst? marker text).isSome

/-- The texts put together with `sep` between each two. -/
def join (sep : String) : List String → String
  | [] => ""
  | [text] => text
  | text :: more => text ++ sep ++ join sep more

/-! ## The parts put together again -/

/-- A text that is cut consists of what comes before the first separator, and of what comes after it. -/
theorem cutFirst_eq_some {sep : Char} {text before rest : List Char}
    (h : cutFirst sep text = some (before, rest)) :
    text = before ++ sep :: rest ∧ sep ∉ before := by
  induction text generalizing before with
  | nil => simp [cutFirst] at h
  | cons c text ih =>
      unfold cutFirst at h
      by_cases hc : c = sep
      · simp only [hc, if_true, Option.some.injEq, Prod.mk.injEq] at h
        obtain ⟨rfl, rfl⟩ := h
        simp [hc]
      · simp only [hc, if_false, Option.map_eq_some_iff] at h
        obtain ⟨⟨b, r⟩, hcut, heq⟩ := h
        simp only [Prod.mk.injEq] at heq
        obtain ⟨rfl, rfl⟩ := heq
        have hparts := ih hcut
        exact ⟨by rw [hparts.1]; rfl, by simp [hparts.2, Ne.symm hc]⟩

/-- A text is cut at the separator behind a part that has none. -/
theorem cutFirst_append {sep : Char} {before : List Char} (rest : List Char) (h : sep ∉ before) :
    cutFirst sep (before ++ sep :: rest) = some (before, rest) := by
  induction before with
  | nil => simp [cutFirst]
  | cons c before ih =>
      have hc : c ≠ sep := fun e => h (by simp [e])
      have hb : sep ∉ before := fun m => h (List.mem_cons_of_mem c m)
      simp [cutFirst, hc, ih hb]

/-- A text is not cut if the separator does not occur in it. -/
theorem cutFirst_eq_none_iff {sep : Char} {text : List Char} :
    cutFirst sep text = none ↔ sep ∉ text := by
  induction text with
  | nil => simp [cutFirst]
  | cons c text ih =>
      by_cases hc : c = sep
      · simp [cutFirst, hc]
      · simp [cutFirst, hc, ih, Ne.symm hc]

/-- A text has at least one piece. -/
theorem pieces_ne_nil (sep : Char) (text : List Char) : pieces sep text ≠ [] := by
  cases text with
  | nil => simp [pieces]
  | cons c text =>
      unfold pieces
      split
      · simp
      · split <;> simp

/-- What comes after a start is the rest of the text. -/
theorem after?_append (start rest : List Char) : after? start (start ++ rest) = some rest := by
  induction start with
  | nil => cases rest <;> rfl
  | cons a start ih => simp [after?, ih]

/-- A text consists of the start and of what comes after it. -/
theorem eq_append_of_after? {start text rest : List Char} (h : after? start text = some rest) :
    text = start ++ rest := by
  induction start generalizing text with
  | nil => cases text <;> simp_all [after?]
  | cons a start ih =>
      cases text with
      | nil => simp [after?] at h
      | cons c text =>
          by_cases hc : a = c
          · simp only [after?, hc, if_true] at h
            simp [hc, ih h]
          · simp [after?, hc] at h

end AdminConsole.Text
