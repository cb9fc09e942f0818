import AdminConsole.Pattern.Capture
import Mathlib.Data.List.Lex

/-!
# The readings of a path

A path can often be read as the pieces of a pattern in several ways: parameters may stand next to each other, be
empty, or hold the literal text that follows them. `Reads` says what a reading is, without any order of trying
them, and `IsGreediest` which one of them counts: the lengths of its captured texts, from left to right, are the
lexicographically greatest. Main statement: capturing finds this reading, and finds nothing only where there is no
reading at all.
-/

set_option autoImplicit false

namespace AdminConsole.Pattern

/-! ## The longest segment -/

section

variable {α : Type} {next : List Char → Option α} {path segment rest : List Char} {answer : α}

/-- A segment is a beginning of the text without `/`, and what remains was accepted. -/
theorem eq_append_of_longestSegment (h : longestSegment next path = some (segment, answer)) :
    ∃ rest, path = segment ++ rest ∧ '/' ∉ segment ∧ next rest = some answer := by
  induction path generalizing segment with
  | nil =>
    obtain ⟨a, hnext, heq⟩ := Option.map_eq_some_iff.mp h
    obtain ⟨rfl, rfl⟩ := Prod.mk.inj heq
    exact ⟨[], rfl, List.not_mem_nil, hnext⟩
  | cons c path ih =>
    unfold longestSegment at h
    have stay : ∀ {s}, (next (c :: path)).map (([] : List Char), ·) = some (s, answer) →
        ∃ rest, c :: path = s ++ rest ∧ '/' ∉ s ∧ next rest = some answer := by
      intro s hs
      obtain ⟨a, hnext, heq⟩ := Option.map_eq_some_iff.mp hs
      obtain ⟨rfl, rfl⟩ := Prod.mk.inj heq
      exact ⟨c :: path, rfl, List.not_mem_nil, hnext⟩
    split at h
    · exact stay h
    · rename_i hc
      split at h
      · rename_i longer found hlonger
        obtain ⟨rfl, rfl⟩ := Prod.mk.inj (Option.some.inj h)
        obtain ⟨rest, hpath, hfree, hnext⟩ := ih hlonger
        refine ⟨rest, by rw [hpath, List.cons_append], ?_, hnext⟩
        rw [List.mem_cons]
        rintro (e | m)
        · exact hc e.symm
        · exact hfree m
      · exact stay h

/-- Where something is accepted after a beginning without `/`, a segment is found. -/
theorem exists_longestSegment (free : '/' ∉ segment) (here : next rest = some answer) :
    ∃ found, longestSegment next (segment ++ rest) = some found := by
  induction segment with
  | nil =>
    cases rest with
    | nil => exact ⟨_, congrArg (Option.map _) here⟩
    | cons c rest =>
      rw [List.nil_append, longestSegment, here]
      split
      · exact ⟨_, rfl⟩
      · split <;> exact ⟨_, rfl⟩
  | cons c segment ih =>
    rw [List.mem_cons, not_or] at free
    obtain ⟨found, hfound⟩ := ih free.2
    rw [List.cons_append, longestSegment, if_neg (Ne.symm free.1), hfound]
    exact ⟨_, rfl⟩

/-- A parameter takes exactly `segment` when what follows it is accepted there and nowhere later before
the next `/`. -/
theorem longestSegment_append (free : '/' ∉ segment) (here : next rest = some answer)
    (last : ∀ extra later, rest = extra ++ later → extra ≠ [] → '/' ∉ extra → next later = none) :
    longestSegment next (segment ++ rest) = some (segment, answer) := by
  induction segment with
  | nil =>
    cases rest with
    | nil => simp [longestSegment, here]
    | cons c rest =>
      have hnone : c ≠ '/' → longestSegment next rest = none := by
        intro hc
        cases hseg : longestSegment next rest with
        | none => rfl
        | some found =>
          obtain ⟨tail, htail, hfree, hnext⟩ := eq_append_of_longestSegment hseg
          have hrefused := last (c :: found.1) tail (by rw [htail, List.cons_append]) (List.cons_ne_nil c _)
            (by simp [hfree, Ne.symm hc])
          rw [hrefused] at hnext
          cases hnext
      rw [List.nil_append, longestSegment, here]
      by_cases hc : c = '/'
      · simp [hc]
      · simp [hc, hnone hc]
  | cons c segment ih =>
    rw [List.mem_cons, not_or] at free
    rw [List.cons_append, longestSegment, if_neg (Ne.symm free.1), ih free.2]

/-- Nothing is accepted after a longer beginning than the segment that was found. -/
theorem refused_of_longestSegment (h : longestSegment next (segment ++ rest) = some (segment, answer))
    {extra later : List Char} (hrest : rest = extra ++ later) (hextra : extra ≠ []) (free : '/' ∉ extra) :
    next later = none := by
  induction segment with
  | nil =>
    obtain ⟨c, more, rfl⟩ := List.exists_cons_of_ne_nil hextra
    rw [List.mem_cons, not_or] at free
    rw [List.nil_append, hrest, List.cons_append, longestSegment, if_neg (Ne.symm free.1)] at h
    by_contra haccepted
    obtain ⟨other, hother⟩ := Option.ne_none_iff_exists'.mp haccepted
    obtain ⟨found, hfound⟩ := exists_longestSegment free.2 hother
    rw [hfound] at h
    cases h
  | cons c segment ih =>
    rw [List.cons_append, longestSegment] at h
    split at h
    · obtain ⟨_, _, heq⟩ := Option.map_eq_some_iff.mp h
      cases heq
    · split at h
      · rename_i longer other hlonger
        obtain ⟨heq, rfl⟩ := Prod.mk.inj (Option.some.inj h)
        obtain rfl := List.cons.inj heq |>.2
        exact ih hlonger
      · obtain ⟨_, _, heq⟩ := Option.map_eq_some_iff.mp h
        cases heq

end

/-! ## Readings -/

/-- The ways to write a text as pieces, in order, with a text without `/` in place of each parameter. -/
inductive Reads : List Piece → List Char → List (List Char) → Prop where
  | done : Reads [] [] []
  | literal (text : List Char) {pieces : List Piece} {rest : List Char} {texts : List (List Char)}
      (more : Reads pieces rest texts) : Reads (.literal text :: pieces) (text ++ rest) texts
  | param (spelling : Spelling) (name : String) {segment : List Char} {pieces : List Piece} {rest : List Char}
      {texts : List (List Char)} (free : '/' ∉ segment) (more : Reads pieces rest texts) :
      Reads (.param spelling name :: pieces) (segment ++ rest) (segment :: texts)

/-- Whether of all readings of a path this one gives the leftmost parameter the most text, then the next one, and
so on. -/
structure IsGreediest (pieces : List Piece) (path : List Char) (texts : List (List Char)) : Prop where
  reads : Reads pieces path texts
  greatest : ∀ other, Reads pieces path other → other.map List.length ≤ texts.map List.length

variable {pieces : List Piece} {path : List Char} {texts other : List (List Char)}

/-- A reading has one text for each parameter. -/
theorem Reads.length_eq (h : Reads pieces path texts) :
    texts.length = (pieces.filterMap Piece.name?).length := by
  induction h with
  | done => rfl
  | literal text more ih => exact ih
  | param spelling name free more ih => exact congrArg (· + 1) ih

/-- The lengths of its texts pin a reading down. -/
theorem Reads.eq_of_lengths (h : Reads pieces path texts) (h' : Reads pieces path other)
    (same : texts.map List.length = other.map List.length) : texts = other := by
  induction h generalizing other with
  | done =>
    cases h'
    rfl
  | literal text more ih =>
    generalize hpath : text ++ _ = path at h'
    cases h' with
    | literal _ more' =>
      obtain rfl := List.append_cancel_left hpath
      exact ih more' same
  | @param spelling name segment pieces rest texts free more ih =>
    generalize hpath : segment ++ rest = path at h'
    cases h' with
    | param _ _ free' more' =>
      rw [List.map_cons, List.map_cons] at same
      obtain ⟨hlength, hlengths⟩ := List.cons.inj same
      obtain ⟨rfl, rfl⟩ := List.append_inj hpath hlength
      rw [ih more' hlengths]

/-- There is one greediest reading at most. -/
theorem IsGreediest.eq (h : IsGreediest pieces path texts) (h' : IsGreediest pieces path other) :
    texts = other :=
  h.reads.eq_of_lengths h'.reads (le_antisymm (h'.greatest texts h.reads) (h.greatest other h'.reads))

/-! ## What is captured -/

/-- What is captured is a reading. -/
theorem reads_of_capture (h : capture pieces path = some texts) : Reads pieces path texts := by
  induction pieces generalizing path texts with
  | nil =>
    cases path with
    | nil =>
      obtain rfl : [] = texts := Option.some.inj h
      exact .done
    | cons c path => cases h
  | cons piece pieces ih =>
    cases piece with
    | literal text =>
      simp only [capture] at h
      split at h
      · rename_i rest hrest
        rw [Text.eq_append_of_after? hrest]
        exact .literal text (ih h)
      · cases h
    | param spelling name =>
      obtain ⟨⟨segment, others⟩, hsegment, rfl⟩ := Option.map_eq_some_iff.mp h
      obtain ⟨rest, rfl, free, hrest⟩ := eq_append_of_longestSegment hsegment
      exact .param spelling name free (ih hrest)

/-- Where there is a reading something is captured. -/
theorem Reads.exists_capture (h : Reads pieces path texts) : ∃ found, capture pieces path = some found := by
  induction h with
  | done => exact ⟨[], rfl⟩
  | literal text more ih =>
    rw [capture, Text.after?_append]
    exact ih
  | param spelling name free more ih =>
    obtain ⟨found, hfound⟩ := ih
    obtain ⟨longest, hlongest⟩ := exists_longestSegment free hfound
    exact ⟨longest.1 :: longest.2, by rw [capture, hlongest]; rfl⟩

/-- No reading has longer texts than what is captured, from left to right. -/
theorem Reads.le_of_capture (h : Reads pieces path other) (hcapture : capture pieces path = some texts) :
    other.map List.length ≤ texts.map List.length := by
  induction h generalizing texts with
  | done =>
    obtain rfl : [] = texts := Option.some.inj hcapture
    exact le_refl _
  | literal text more ih =>
    rw [capture, Text.after?_append] at hcapture
    exact ih hcapture
  | @param spelling name segment pieces rest others free more ih =>
    obtain ⟨⟨longest, found⟩, hlongest, rfl⟩ := Option.map_eq_some_iff.mp hcapture
    obtain ⟨tail, hpath, hfree, htail⟩ := eq_append_of_longestSegment hlongest
    rcases List.append_eq_append_iff.mp hpath with ⟨extra, rfl, rfl⟩ | ⟨extra, rfl, rfl⟩
    · -- The segment that was found goes on for `extra`.
      cases extra with
      | nil =>
        rw [List.append_nil]
        exact List.cons_le_cons _ (ih htail)
      | cons c extra =>
        apply le_of_lt
        apply List.Lex.rel
        simp only [List.length_append, List.length_cons]
        omega
    · -- The reading cannot take more, for the rest of it would have been found.
      cases extra with
      | nil =>
        rw [List.append_nil]
        exact List.cons_le_cons _ (ih htail)
      | cons c extra =>
        rw [List.append_assoc] at hlongest
        have hextra : '/' ∉ c :: extra := fun hmem => free (List.mem_append_right longest hmem)
        have hnone := refused_of_longestSegment hlongest rfl (List.cons_ne_nil c extra) hextra
        obtain ⟨others', hothers⟩ := more.exists_capture
        rw [hnone] at hothers
        cases hothers

/-- **What is captured is the greediest reading.** -/
theorem capture_eq_some_iff : capture pieces path = some texts ↔ IsGreediest pieces path texts := by
  constructor
  · intro h
    exact ⟨reads_of_capture h, fun other hother => hother.le_of_capture h⟩
  · intro h
    obtain ⟨found, hfound⟩ := h.reads.exists_capture
    have hgreediest : IsGreediest pieces path found :=
      ⟨reads_of_capture hfound, fun other hother => hother.le_of_capture hfound⟩
    rw [hfound, h.eq hgreediest]

/-- Where there are readings, one of them is the greediest. -/
theorem Reads.exists_greediest (h : Reads pieces path texts) : ∃ found, IsGreediest pieces path found := by
  obtain ⟨found, hfound⟩ := h.exists_capture
  exact ⟨found, capture_eq_some_iff.mp hfound⟩

end AdminConsole.Pattern
