import AdminConsole.Proofs.Pattern.Reading
import AdminConsole.Proofs.Pattern.Segments

/-!
# Matching is leftmost-greedy

A path matches a pattern if it has a reading, and if all that the greediest reading captures can be decoded. Another
reading is not tried where decoding fails. Main statement: this is exactly when a path matches, and the parameters
are then mapped to the decoded texts of the greediest reading.
-/

set_option autoImplicit false

namespace AdminConsole.Pattern

variable {p : Pattern} {source name value : String} {names values : List String} {texts : List (List Char)}

/-- Texts are decoded one by one. -/
theorem decodeAll_eq_some_iff : decodeAll texts = some values ↔ texts.map Percent.decodeChars = values.map some := by
  induction texts generalizing values with
  | nil =>
    rw [decodeAll, Option.some.injEq, List.map_nil, eq_comm, eq_comm (b := values.map some), List.map_eq_nil_iff]
  | cons text texts ih =>
    simp only [decodeAll, Option.bind_eq_bind, Option.bind_eq_some_iff, Option.pure_def, Option.some.injEq, ih]
    constructor
    · rintro ⟨value, hvalue, others, hothers, rfl⟩
      rw [List.map_cons, List.map_cons, hvalue, hothers]
    · intro h
      cases values with
      | nil => cases h
      | cons value others =>
        obtain ⟨hvalue, hothers⟩ := List.cons.inj h
        exact ⟨value, hvalue, others, hothers, rfl⟩

/-- What is found under a name is what the name's own text was decoded to. -/
theorem lookup_zip_eq_some_iff (nodup : names.Nodup) (decoded : texts.map Percent.decodeChars = values.map some) :
    (names.zip values).lookup name = some value ↔
      ∃ text, (name, text) ∈ names.zip texts ∧ Percent.decodeChars text = some value := by
  induction names generalizing texts values with
  | nil => simp
  | cons first names ih =>
    obtain ⟨hfirst, hnames⟩ := List.nodup_cons.mp nodup
    cases texts with
    | nil =>
      obtain rfl := List.map_eq_nil_iff.mp decoded.symm
      simp
    | cons text texts =>
      cases values with
      | nil => cases decoded
      | cons held values =>
        obtain ⟨hheld, hrest⟩ := List.cons.inj decoded
        rw [List.zip_cons_cons, List.zip_cons_cons, Dictionary.lookup_cons_eq]
        by_cases h : name = first
        · subst h
          have hother : ∀ other, (name, other) ∉ names.zip texts := fun other hmem =>
            hfirst (List.of_mem_zip hmem).1
          simp [hother, hheld]
        · rw [if_neg h, ih hnames hrest]
          simp [h]

/-- What a path is matched to: each parameter has what its text in the greediest reading is decoded to. -/
theorem match?_eq_some_iff (nodup : p.paramNames.Nodup) {path : String} {captured : Dictionary String} :
    p.match? path = some captured ↔
      ∃ texts, IsGreediest p.pieces path.toList texts ∧
        (∀ text ∈ texts, ∃ value, Percent.decodeChars text = some value) ∧
        ∀ name value, captured.get? name = some value ↔
          ∃ text, (name, text) ∈ p.paramNames.zip texts ∧ Percent.decodeChars text = some value := by
  have answers : ∀ {texts values}, IsGreediest p.pieces path.toList texts →
      texts.map Percent.decodeChars = values.map some → ∀ name value,
        (Dictionary.ofList (p.paramNames.zip values)).get? name = some value ↔
          ∃ text, (name, text) ∈ p.paramNames.zip texts ∧ Percent.decodeChars text = some value := by
    intro texts values greediest decoded name value
    have hlength : p.paramNames.length ≤ values.length := by
      have htexts : texts.length = p.paramNames.length := greediest.reads.length_eq
      have hvalues := congrArg List.length decoded
      rw [List.length_map, List.length_map] at hvalues
      omega
    have hkeys : ((p.paramNames.zip values).map (·.1)).Nodup := by
      rw [List.map_fst_zip hlength]
      exact nodup
    rw [Dictionary.get?_ofList_of_nodup _ hkeys, lookup_zip_eq_some_iff nodup decoded]
  simp only [match?, captureByTable_eq, Option.bind_eq_bind, Option.bind_eq_some_iff, Option.pure_def,
    Option.some.injEq, decodeAll_eq_some_iff, capture_eq_some_iff]
  constructor
  · rintro ⟨texts, greediest, values, decoded, rfl⟩
    refine ⟨texts, greediest, fun text htext => ?_, answers greediest decoded⟩
    have hmem : Percent.decodeChars text ∈ values.map some := decoded ▸ List.mem_map_of_mem htext
    obtain ⟨value, _, hvalue⟩ := List.mem_map.mp hmem
    exact ⟨value, hvalue.symm⟩
  · rintro ⟨texts, greediest, decodable, hcaptured⟩
    obtain ⟨values, hvalues⟩ : ∃ values, decodeAll texts = some values := by
      rw [← Option.isSome_iff_exists, isSome_decodeAll_iff]
      exact fun text htext => Option.isSome_iff_exists.mpr (decodable text htext)
    have decoded := decodeAll_eq_some_iff.mp hvalues
    refine ⟨texts, greediest, values, decoded, Dictionary.eq_of_get? fun name => Option.ext fun value => ?_⟩
    rw [answers greediest decoded, hcaptured]

/-- What it means that a pattern with this text matches paths leftmost-greedily. -/
structure LeftmostGreedy (source : String) (p : Pattern) : Prop where
  /-- The pieces are the path of the pattern cut up, in order. -/
  spelled : p.pieces.flatMap Piece.spelled = (splitQuery source.toList).1
  /-- Where a path can be read at all, exactly one of its readings is the greediest. -/
  greediest : ∀ path texts, Reads p.pieces path texts → ∃! found, IsGreediest p.pieces path found
  /-- A path matches where all texts of the greediest reading can be decoded. -/
  isMatch : ∀ path : String, p.isMatch path = true ↔
    ∃ texts, IsGreediest p.pieces path.toList texts ∧
      ∀ text ∈ texts, ∃ value, Percent.decodeChars text = some value
  /-- Each parameter is mapped to what its own text is decoded to. -/
  decoded : ∀ path captured, p.match? path = some captured ↔
    ∃ texts, IsGreediest p.pieces path.toList texts ∧
      (∀ text ∈ texts, ∃ value, Percent.decodeChars text = some value) ∧
      ∀ name value, captured.get? name = some value ↔
        ∃ text, (name, text) ∈ p.paramNames.zip texts ∧ Percent.decodeChars text = some value
  /-- The parameters of the path are mapped to something, and nothing else is. -/
  names : ∀ path captured, p.match? path = some captured →
    ∀ name, captured.contains name = true ↔ name ∈ p.paramNames

/-- All parameters of the path, and nothing else, are captured from a path. -/
theorem contains_iff_of_match? (nodup : p.paramNames.Nodup) {path : String} {captured : Dictionary String}
    (h : p.match? path = some captured) : captured.contains name = true ↔ name ∈ p.paramNames := by
  rw [Dictionary.contains, Option.isSome_iff_exists]
  constructor
  · rintro ⟨value, hvalue⟩
    by_contra hother
    rw [get?_eq_none_of_match? h hother] at hvalue
    cases hvalue
  · intro hname
    obtain ⟨texts, greediest, decodable, hcaptured⟩ := (match?_eq_some_iff nodup).mp h
    have hlength : p.paramNames.length ≤ texts.length := Nat.le_of_eq greediest.reads.length_eq.symm
    rw [← List.map_fst_zip hlength] at hname
    obtain ⟨⟨_, text⟩, hmem, rfl⟩ := List.mem_map.mp hname
    obtain ⟨value, hvalue⟩ := decodable text (List.of_mem_zip hmem).2
    exact ⟨value, (hcaptured _ value).mpr ⟨text, hmem, hvalue⟩⟩

/-- **Matching is sound, complete and leftmost-greedy**, for every pattern that is accepted. -/
theorem leftmost_greedy_of_compile (accepted : compile source = .ok p) : LeftmostGreedy source p := by
  have nodup := nodup_paramNames accepted
  refine ⟨Piece.flatMap_spelled_of_read (of_compile accepted).1, ?_, ?_, ?_, ?_⟩
  · intro path texts hreads
    obtain ⟨found, hfound⟩ := hreads.exists_greediest
    exact ⟨found, hfound, fun other hother => hother.eq hfound⟩
  · intro path
    rw [isMatch_iff]
    simp only [capture_eq_some_iff, Option.isSome_iff_exists]
  · intro path captured
    exact match?_eq_some_iff nodup
  · intro path captured h name
    exact contains_iff_of_match? nodup h

/-- In `x-y-%C3%BC` the first parameter takes what it can, up to the last dash, and nothing is left to the second. A path
of two parameters is no match if the first one, which takes all of it, cannot be decoded, although the path could be
read otherwise. -/
theorem leftmost_greedy_of_compile_dashes :
    ∃ p, compile "/{a}{b}-:c?tab" = .ok p ∧ LeftmostGreedy "/{a}{b}-:c?tab" p ∧
      IsGreediest p.pieces "/x-y-%C3%BC".toList ["x-y".toList, [], "%C3%BC".toList] ∧
      p.match? "/x-y-%C3%BC" = some (Dictionary.ofList [("a", "x-y"), ("b", ""), ("c", "ü")]) ∧
      Reads p.pieces "/%FF-".toList ["%F".toList, "F".toList, []] ∧ p.match? "/%FF-" = none := by
  have hcheck : (compile "/{a}{b}-:c?tab").toOption.map (fun p => (p.pieces, p.match? "/x-y-%C3%BC", p.match? "/%FF-")) =
      some ([.literal ['/'], .param .braces "a", .param .braces "b", .literal ['-'], .param .colon "c"],
        some (Dictionary.ofList [("a", "x-y"), ("b", ""), ("c", "ü")]), none) := by
    decide +kernel
  obtain ⟨p, hp, hparts⟩ := Option.map_eq_some_iff.mp hcheck
  obtain ⟨hpieces, hmatches⟩ := Prod.mk.inj hparts
  obtain ⟨hmatch, hnone⟩ := Prod.mk.inj hmatches
  have accepted := Result.ok_of_toOption hp
  refine ⟨p, accepted, leftmost_greedy_of_compile accepted, ?_, hmatch, ?_, hnone⟩
  · rw [hpieces, ← capture_eq_some_iff]
    decide
  · have hlast : Reads [.literal ['-'], .param .colon "c"] ['-'] [[]] :=
      .literal ['-'] (.param .colon "c" List.not_mem_nil .done)
    have hfirst : '/' ∉ "%F".toList := by decide
    have hsecond : '/' ∉ "F".toList := by decide
    rw [hpieces]
    exact .literal ['/'] (.param .braces "a" hfirst (.param .braces "b" hsecond hlast))

end AdminConsole.Pattern
