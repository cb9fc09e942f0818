import AdminConsole.Pattern.Match
import AdminConsole.Proofs.Dictionary.Lookup
import AdminConsole.Proofs.Pattern.Readings
import AdminConsole.Proofs.Text.PercentRoundTrip

/-!
# Patterns that give back what was filled in

A path that was written from a pattern can be read as that pattern in other ways as well: with two
parameters next to each other nobody can tell where the first one ends. If a character that
percent-encoding never writes, such as `/`, stands between each two parameters, there is one way only. The
characters of this kind are the landmarks of a path: the values bring none of them in, so in every reading
they fall on the literal text, and a parameter cannot grow over the next of them. Main statement: matching
a path that such a pattern wrote gives back the values.
-/

set_option autoImplicit false

namespace AdminConsole.Pattern

/-! ## Landmarks -/

/-- Whether percent-encoding never writes the character. -/
def isLandmark (c : Char) : Bool := !Percent.isWritten c

/-- The literal text that pieces begin with, up to the first parameter. -/
def leadingText : List Piece → List Char
  | .literal text :: pieces => text ++ leadingText pieces
  | _ => []

/-- All literal text of pieces, one after another. -/
def literalText : List Piece → List Char
  | [] => []
  | .literal text :: pieces => text ++ literalText pieces
  | .param _ _ :: pieces => literalText pieces

/-- Whether the literal text between each two consecutive parameters holds a landmark. -/
def isSeparated : List Piece → Bool
  | [] => true
  | .literal _ :: pieces => isSeparated pieces
  | .param _ _ :: pieces =>
      ((pieces.filterMap Piece.name?).isEmpty || (leadingText pieces).any isLandmark)
        && isSeparated pieces

/-- Encoded text holds no landmark. -/
theorem countP_isLandmark_encodeChars (text : List Char) :
    (Percent.encodeChars text).countP isLandmark = 0 := by
  rw [List.countP_eq_zero]
  intro c hc
  simp [isLandmark, Percent.isWritten_of_mem_encodeChars hc]

/-! ## What a reading of a path is made of -/

/-- Every reading of a path uses all literal text: its landmarks are among those of the path. -/
theorem Reads.countP_literalText_le {pieces : List Piece} {path : List Char} {texts : List (List Char)}
    (h : Reads pieces path texts) (p : Char → Bool) : (literalText pieces).countP p ≤ path.countP p := by
  induction h with
  | done => exact Nat.le_refl _
  | literal text more ih =>
    rw [literalText, List.countP_append, List.countP_append]
    omega
  | param spelling name free more ih =>
    rw [literalText, List.countP_append]
    omega

/-- Every reading of a path begins with the leading text. -/
theorem Reads.leadingText_isPrefix {pieces : List Piece} {path : List Char} {texts : List (List Char)}
    (h : Reads pieces path texts) : ∃ rest, path = leadingText pieces ++ rest := by
  induction h with
  | done => exact ⟨[], rfl⟩
  | literal text more ih =>
    obtain ⟨tail, rfl⟩ := ih
    exact ⟨tail, by rw [leadingText, List.append_assoc]⟩
  | param spelling name free more ih => exact ⟨_, rfl⟩

/-! ## What a written path is made of -/

/-- The text of a parameter in a path written with these values. -/
def writtenText (values : Dictionary String) (name : String) : List Char :=
  Percent.encodeChars ((values.get? name).getD "").toList

/-- A parameter is filled in with its value, which has to be there, before the pieces after it. -/
theorem fill_param {values : Dictionary String} {spelling : Spelling} {name : String}
    {pieces : List Piece} {path : List Char}
    (h : fill values (.param spelling name :: pieces) = some path) :
    (∃ value, values.get? name = some value) ∧
      ∃ rest, fill values pieces = some rest ∧ path = writtenText values name ++ rest := by
  simp only [fill, Option.bind_eq_bind, Option.bind_eq_some_iff, Option.pure_def,
    Option.some.injEq] at h
  obtain ⟨value, hvalue, rest, hrest, hpath⟩ := h
  refine ⟨⟨value, hvalue⟩, rest, hrest, ?_⟩
  rw [writtenText, hvalue, Option.getD_some, hpath]

/-- A literal piece is filled in with its text before the pieces after it. -/
theorem fill_literal {values : Dictionary String} {text : List Char} {pieces : List Piece}
    {path : List Char} (h : fill values (.literal text :: pieces) = some path) :
    ∃ rest, fill values pieces = some rest ∧ path = text ++ rest := by
  obtain ⟨rest, hrest, hpath⟩ := Option.map_eq_some_iff.mp h
  exact ⟨rest, hrest, hpath.symm⟩

/-- A path can be written only with a value for each of its parameters. -/
theorem get?_of_fill {values : Dictionary String} {pieces : List Piece} {path : List Char}
    (h : fill values pieces = some path) {name : String}
    (hname : name ∈ pieces.filterMap Piece.name?) : ∃ value, values.get? name = some value := by
  induction pieces generalizing path with
  | nil => simp at hname
  | cons piece pieces ih =>
    cases piece with
    | literal text =>
      obtain ⟨rest, hrest, _⟩ := fill_literal h
      exact ih hrest (by simpa [Piece.name?] using hname)
    | param spelling param =>
      obtain ⟨hvalue, rest, hrest, _⟩ := fill_param h
      have hcases : name = param ∨ name ∈ pieces.filterMap Piece.name? := by
        simpa [Piece.name?] using hname
      rcases hcases with rfl | hmem
      · exact hvalue
      · exact ih hrest hmem

/-- With a value for each of its parameters a path can be written. -/
theorem exists_fill {values : Dictionary String} {pieces : List Piece}
    (h : ∀ name ∈ pieces.filterMap Piece.name?, ∃ value, values.get? name = some value) :
    ∃ path, fill values pieces = some path := by
  induction pieces with
  | nil => exact ⟨[], rfl⟩
  | cons piece pieces ih =>
    cases piece with
    | literal text =>
      obtain ⟨rest, hrest⟩ := ih h
      exact ⟨text ++ rest, by rw [fill, hrest]; rfl⟩
    | param spelling name =>
      rw [List.filterMap_cons_some (show (Piece.param spelling name).name? = some name from rfl),
        List.forall_mem_cons] at h
      obtain ⟨value, hvalue⟩ := h.1
      obtain ⟨rest, hrest⟩ := ih h.2
      exact ⟨Percent.encodeChars value.toList ++ rest, by simp [fill, hvalue, hrest]⟩

/-- Writing a path looks at the values of its parameters only. -/
theorem fill_congr {values others : Dictionary String} {pieces : List Piece}
    (same : ∀ name ∈ pieces.filterMap Piece.name?, values.get? name = others.get? name) :
    fill values pieces = fill others pieces := by
  induction pieces with
  | nil => rfl
  | cons piece pieces ih =>
    cases piece with
    | literal text => rw [fill, fill, ih same]
    | param spelling name =>
      rw [List.filterMap_cons_some (show (Piece.param spelling name).name? = some name from rfl),
        List.forall_mem_cons] at same
      rw [fill, fill, same.1, ih same.2]

/-- What a pattern writes depends on the values of its parameters alone. -/
theorem reverse_congr {p : Pattern} {values others : Dictionary String}
    (same : ∀ name ∈ p.paramNames, values.get? name = others.get? name) : p.reverse values = p.reverse others := by
  rw [reverse, reverse, fill_congr same]

/-- The landmarks of a written path are those of the literal text. -/
theorem countP_of_fill {values : Dictionary String} {pieces : List Piece} {path : List Char}
    (h : fill values pieces = some path) :
    path.countP isLandmark = (literalText pieces).countP isLandmark := by
  induction pieces generalizing path with
  | nil => simp_all [fill, literalText]
  | cons piece pieces ih =>
    cases piece with
    | literal text =>
      obtain ⟨rest, hrest, rfl⟩ := fill_literal h
      rw [literalText, List.countP_append, List.countP_append, ih hrest]
    | param spelling name =>
      obtain ⟨_, rest, hrest, rfl⟩ := fill_param h
      rw [literalText, List.countP_append, ih hrest, writtenText,
        countP_isLandmark_encodeChars, Nat.zero_add]

/-- What is filled in begins with the literal text at the beginning. -/
theorem leadingText_isPrefix_of_fill {values : Dictionary String} {pieces : List Piece}
    {path : List Char} (h : fill values pieces = some path) :
    ∃ rest, path = leadingText pieces ++ rest := by
  induction pieces generalizing path with
  | nil => exact ⟨path, rfl⟩
  | cons piece pieces ih =>
    cases piece with
    | literal text =>
      obtain ⟨rest, hrest, rfl⟩ := fill_literal h
      obtain ⟨tail, rfl⟩ := ih hrest
      exact ⟨tail, by rw [leadingText, List.append_assoc]⟩
    | param spelling name => exact ⟨path, rfl⟩

/-- The characters of a written path are those of the literal text and those of encoded text. -/
theorem mem_of_fill {values : Dictionary String} {pieces : List Piece} {path : List Char} {c : Char}
    (h : fill values pieces = some path) (hc : c ∈ path) :
    c ∈ literalText pieces ∨ Percent.isWritten c = true := by
  induction pieces generalizing path with
  | nil =>
    obtain rfl : [] = path := Option.some.inj h
    cases hc
  | cons piece pieces ih =>
    cases piece with
    | literal text =>
      obtain ⟨rest, hrest, rfl⟩ := fill_literal h
      rcases List.mem_append.mp hc with hc | hc
      · exact .inl (List.mem_append_left _ hc)
      · exact (ih hrest hc).imp_left (List.mem_append_right text)
    | param spelling name =>
      obtain ⟨_, rest, hrest, rfl⟩ := fill_param h
      rcases List.mem_append.mp hc with hc | hc
      · exact .inr (Percent.isWritten_of_mem_encodeChars hc)
      · exact ih hrest hc

/-- Without parameters a written path is the literal text. -/
theorem eq_literalText_of_fill {values : Dictionary String} {pieces : List Piece}
    {path : List Char} (exactly : pieces.filterMap Piece.name? = [])
    (h : fill values pieces = some path) : path = literalText pieces := by
  induction pieces generalizing path with
  | nil => simp_all [fill, literalText]
  | cons piece pieces ih =>
    cases piece with
    | literal text =>
      obtain ⟨rest, hrest, rfl⟩ := fill_literal h
      rw [literalText, ih (by simpa [Piece.name?] using exactly) hrest]
    | param spelling name => simp [Piece.name?] at exactly

/-! ## One reading only -/

/-- The text before the first landmark does not change when something is put behind a text that has
one. -/
theorem takeWhile_append_of_any {text : List Char} (rest : List Char)
    (h : text.any isLandmark = true) :
    (text ++ rest).takeWhile Percent.isWritten = text.takeWhile Percent.isWritten := by
  induction text with
  | nil => simp at h
  | cons c text ih =>
    rw [List.cons_append, List.takeWhile_cons, List.takeWhile_cons]
    by_cases hc : Percent.isWritten c = true
    · have htext : text.any isLandmark = true := by simpa [isLandmark, hc] using h
      rw [if_pos hc, if_pos hc, ih htext]
    · rw [if_neg hc, if_neg hc]

/-- What follows a parameter cannot be read from a later place of the written path: either it is all
literal and too long for that, or its first landmark would have to stand at two places. -/
theorem capture_eq_none_of_later {values : Dictionary String} {pieces : List Piece}
    {tail extra rest : List Char}
    (sep : (pieces.filterMap Piece.name?).isEmpty = true ∨
      (leadingText pieces).any isLandmark = true)
    (hfill : fill values pieces = some tail) (htail : tail = extra ++ rest) (hextra : extra ≠ []) :
    capture pieces rest = none := by
  cases hcapture : capture pieces rest with
  | none => rfl
  | some texts =>
    exfalso
    have hreads := reads_of_capture hcapture
    have hlength : 0 < extra.length := List.length_pos_iff.mpr hextra
    rcases sep with hexact | hlandmark
    · have hwhole := eq_literalText_of_fill (List.isEmpty_iff.mp hexact) hfill
      have hle := hreads.countP_literalText_le fun _ => true
      simp only [List.countP_true, ← hwhole, htail, List.length_append] at hle
      omega
    · have hcount := hreads.countP_literalText_le isLandmark
      rw [← countP_of_fill hfill, htail, List.countP_append] at hcount
      have hnone : extra.countP isLandmark = 0 := by omega
      have hwritten : ∀ c ∈ extra, Percent.isWritten c = true := by
        intro c hc
        have hnot := List.countP_eq_zero.mp hnone c hc
        simpa [isLandmark] using hnot
      obtain ⟨z, hz⟩ := leadingText_isPrefix_of_fill hfill
      obtain ⟨z', hz'⟩ := hreads.leadingText_isPrefix
      -- The text before the first landmark, seen from the path and from its later place.
      have hsame : (leadingText pieces).takeWhile Percent.isWritten =
          extra ++ (leadingText pieces).takeWhile Percent.isWritten := by
        calc (leadingText pieces).takeWhile Percent.isWritten
            = tail.takeWhile Percent.isWritten := by
              rw [hz, takeWhile_append_of_any z hlandmark]
          _ = extra ++ rest.takeWhile Percent.isWritten := by
              rw [htail, List.takeWhile_append_of_pos hwritten]
          _ = extra ++ (leadingText pieces).takeWhile Percent.isWritten := by
              rw [hz', takeWhile_append_of_any z' hlandmark]
      have hlengths := congrArg List.length hsame
      rw [List.length_append] at hlengths
      omega

/-- A separated pattern captures from a path that it wrote the encoded values, in order. -/
theorem capture_of_fill {values : Dictionary String} {pieces : List Piece} {path : List Char}
    (sep : isSeparated pieces = true) (h : fill values pieces = some path) :
    capture pieces path = some ((pieces.filterMap Piece.name?).map (writtenText values)) := by
  induction pieces generalizing path with
  | nil =>
    obtain rfl : [] = path := Option.some.inj h
    rfl
  | cons piece pieces ih =>
    cases piece with
    | literal text =>
      obtain ⟨rest, hrest, rfl⟩ := fill_literal h
      rw [capture, Text.after?_append]
      exact ih sep hrest
    | param spelling name =>
      obtain ⟨_, rest, hrest, rfl⟩ := fill_param h
      simp only [isSeparated, Bool.and_eq_true, Bool.or_eq_true] at sep
      have hslash : '/' ∉ writtenText values name := Percent.not_mem_encodeChars (by decide)
      rw [capture, longestSegment_append hslash (ih sep.2 hrest)
        fun extra later htail hextra _ => capture_eq_none_of_later sep.1 hrest htail hextra]
      rfl

/-! ## The values read back -/

/-- A value that is written is decoded to itself. -/
theorem decodeChars_writtenText (values : Dictionary String) (name : String) :
    Percent.decodeChars (writtenText values name) = some ((values.get? name).getD "") := by
  rw [writtenText, Percent.decodeChars_encodeChars, String.ofList_toList]

/-- Values that are written are decoded to themselves. -/
theorem decodeAll_writtenText (values : Dictionary String) (names : List String) :
    decodeAll (names.map (writtenText values)) =
      some (names.map fun name => (values.get? name).getD "") := by
  induction names with
  | nil => rfl
  | cons name names ih =>
    simp only [List.map_cons, decodeAll, decodeChars_writtenText, ih, Option.bind_eq_bind,
      Option.bind_some, Option.pure_def]

/-- A dictionary of names with their values answers with the value of each name. -/
theorem get?_ofList_zip {names : List String} (nodup : names.Nodup) (value : String → String)
    (name : String) :
    (Dictionary.ofList (names.zip (names.map value))).get? name =
      if name ∈ names then some (value name) else none := by
  have hkeys : (names.zip (names.map value)).map (·.1) = names :=
    List.map_fst_zip (by simp)
  rw [Dictionary.get?_ofList_of_nodup _ (by rw [hkeys]; exact nodup)]
  clear hkeys nodup
  induction names with
  | nil => rfl
  | cons first names ih =>
    rw [List.map_cons, List.zip_cons_cons, Dictionary.lookup_cons_eq, ih]
    by_cases h : name = first
    · simp [h]
    · simp [h]

/-- **Matching undoes writing.** A path that a separated pattern wrote matches the pattern, and each
parameter of the path reads back as the value it was written with. -/
theorem match?_of_reverse {p : Pattern} {values : Dictionary String} {path : String}
    (sep : isSeparated p.pieces = true) (nodup : p.paramNames.Nodup)
    (h : p.reverse values = some path) :
    ∃ captured, p.match? path = some captured ∧
      ∀ name, captured.get? name = if name ∈ p.paramNames then values.get? name else none := by
  obtain ⟨chars, hfill, rfl⟩ := Option.map_eq_some_iff.mp h
  have hcapture := capture_of_fill sep hfill
  refine ⟨Dictionary.ofList
    (p.paramNames.zip (p.paramNames.map fun name => (values.get? name).getD "")), ?_, ?_⟩
  · simp only [match?, String.toList_ofList, captureByTable_eq, hcapture, decodeAll_writtenText,
      Option.bind_eq_bind, Option.bind_some, Option.pure_def, paramNames]
  · intro name
    rw [get?_ofList_zip nodup fun name => (values.get? name).getD ""]
    by_cases hname : name ∈ p.paramNames
    · obtain ⟨value, hvalue⟩ := get?_of_fill hfill hname
      rw [if_pos hname, if_pos hname, hvalue, Option.getD_some]
    · rw [if_neg hname, if_neg hname]

end AdminConsole.Pattern
