import AdminConsole.Proofs.Pattern.LeftmostGreedy

/-!
# Canonical paths

What a path is matched to can be written again, which may give another path: values are encoded in one way, but may be
read from many. Main statement: for a separated pattern writing and matching undo each other on values, and the paths
that are their own rewriting are those that the pattern writes.
-/

set_option autoImplicit false

namespace AdminConsole.Pattern

variable {p : Pattern} {source path : String} {values captured : Dictionary String}

/-- A path written anew with what is captured from it. -/
def rewrite (p : Pattern) (path : String) : Option String :=
  (p.match? path).bind p.reverse

/-- A path is written exactly if each parameter of the path has a value. -/
theorem isSome_reverse_iff :
    (p.reverse values).isSome = true ↔ ∀ name ∈ p.paramNames, values.contains name = true := by
  simp only [Dictionary.contains, Option.isSome_iff_exists]
  constructor
  · rintro ⟨path, hpath⟩ name hname
    obtain ⟨chars, hfill, _⟩ := Option.map_eq_some_iff.mp hpath
    exact get?_of_fill hfill hname
  · intro given
    obtain ⟨chars, hfill⟩ := exists_fill given
    exact ⟨String.ofList chars, by rw [reverse, hfill]; rfl⟩

/-- Nothing is captured but the parameters of the path. -/
theorem filterKeys_of_match? (h : p.match? path = some captured) :
    captured.filterKeys p.paramNames.contains = captured := by
  apply Dictionary.eq_of_get?
  intro name
  rw [Dictionary.get?_filterKeys]
  split
  · rfl
  · rename_i hother
    rw [get?_eq_none_of_match? h (by simpa using hother)]

/-- Only the parameters of the path are written. -/
theorem reverse_filterKeys (p : Pattern) (values : Dictionary String) :
    p.reverse (values.filterKeys p.paramNames.contains) = p.reverse values := by
  refine reverse_congr fun name hname => ?_
  have hparam : p.paramNames.contains name = true := List.contains_iff_mem.mpr hname
  rw [Dictionary.get?_filterKeys, if_pos hparam]

section

variable (nodup : p.paramNames.Nodup)
include nodup

/-- What is captured from a path can be written. -/
theorem exists_reverse_of_match? (h : p.match? path = some captured) :
    ∃ other, p.reverse captured = some other := by
  rw [← Option.isSome_iff_exists, isSome_reverse_iff]
  exact fun name hname => (contains_iff_of_match? nodup h).mpr hname

variable (sep : isSeparated p.pieces = true)
include sep

/-- What a separated pattern wrote is matched to the values of its parameters. -/
theorem match?_reverse (h : p.reverse values = some path) :
    p.match? path = some (values.filterKeys p.paramNames.contains) := by
  obtain ⟨captured, hcaptured, hvalues⟩ := match?_of_reverse sep nodup h
  have heq : captured = values.filterKeys p.paramNames.contains := by
    apply Dictionary.eq_of_get?
    intro name
    rw [hvalues, Dictionary.get?_filterKeys]
    simp only [List.contains_iff_mem]
  rw [hcaptured, heq]

/-- What a separated pattern wrote is its own rewriting. -/
theorem rewrite_of_reverse (h : p.reverse values = some path) : p.rewrite path = some path := by
  rw [rewrite, match?_reverse nodup sep h, Option.bind_some, reverse_filterKeys, h]

end

/-- What it means that writing and matching undo each other. -/
structure RoundTrips (p : Pattern) : Prop where
  /-- A path is written exactly for values that have all parameters of the path. -/
  writable : ∀ values, (p.reverse values).isSome = true ↔ ∀ name ∈ p.paramNames, values.contains name = true
  /-- It is matched to these values and to no others. -/
  readBack : ∀ values path, p.reverse values = some path →
    p.match? path = some (values.filterKeys p.paramNames.contains)
  /-- A path that matches has a rewriting with the same values, which is its own rewriting. -/
  rewritten : ∀ path captured, p.match? path = some captured →
    ∃ other, p.reverse captured = some other ∧ p.match? other = some captured ∧ p.rewrite other = some other
  /-- The paths that are their own rewriting are those that are written. -/
  canonical : ∀ path, p.rewrite path = some path ↔ ∃ values, p.reverse values = some path

/-- **Writing and matching undo each other** for every accepted pattern that has a landmark between each two
parameters. -/
theorem roundTrips_of_compile (accepted : compile source = .ok p) (sep : isSeparated p.pieces = true) :
    RoundTrips p := by
  have nodup := nodup_paramNames accepted
  refine ⟨fun values => isSome_reverse_iff, fun values path => match?_reverse nodup sep, ?_, ?_⟩
  · intro path captured hmatch
    obtain ⟨other, hother⟩ := exists_reverse_of_match? nodup hmatch
    refine ⟨other, hother, ?_, rewrite_of_reverse nodup sep hother⟩
    rw [match?_reverse nodup sep hother, filterKeys_of_match? hmatch]
  · intro path
    constructor
    · intro h
      obtain ⟨captured, _, hwritten⟩ := Option.bind_eq_some_iff.mp h
      exact ⟨captured, hwritten⟩
    · rintro ⟨values, hwritten⟩
      exact rewrite_of_reverse nodup sep hwritten

/-- Values with a slash, a percent sign and a line break, and one that is no parameter, are written and read back
without it. A path that encodes a dash, which needs no encoding, is rewritten without that. -/
theorem roundTrips_of_compile_file :
    ∃ p, compile "/:folder/{name}.txt?log" = .ok p ∧ isSeparated p.pieces = true ∧ RoundTrips p ∧
      p.reverse (Dictionary.ofList [("folder", "a/b"), ("log", "x"), ("name", "50%\n")]) =
        some "/a%2Fb/50%25%0A.txt" ∧
      p.match? "/a%2Fb/50%25%0A.txt" = some (Dictionary.ofList [("folder", "a/b"), ("name", "50%\n")]) ∧
      p.rewrite "/%2d/%.txt" = some "/-/%25.txt" ∧ p.rewrite "/-/%25.txt" = some "/-/%25.txt" := by
  have hcheck : (compile "/:folder/{name}.txt?log").toOption.map (fun p => (isSeparated p.pieces, p.paramNames,
      p.reverse (Dictionary.ofList [("folder", "a/b"), ("log", "x"), ("name", "50%\n")]),
        p.rewrite "/%2d/%.txt")) =
      some (true, ["folder", "name"], some "/a%2Fb/50%25%0A.txt", some "/-/%25.txt") := by
    decide +kernel
  obtain ⟨p, hp, hparts⟩ := Option.map_eq_some_iff.mp hcheck
  obtain ⟨sep, hparts⟩ := Prod.mk.inj hparts
  obtain ⟨hnames, hparts⟩ := Prod.mk.inj hparts
  obtain ⟨hwritten, hrewritten⟩ := Prod.mk.inj hparts
  have accepted := Result.ok_of_toOption hp
  have trips := roundTrips_of_compile accepted sep
  have hkept : (Dictionary.ofList [("folder", "a/b"), ("log", "x"), ("name", "50%\n")]).filterKeys
      ["folder", "name"].contains = Dictionary.ofList [("folder", "a/b"), ("name", "50%\n")] := by
    decide +kernel
  have hread := trips.readBack _ _ hwritten
  rw [hnames, hkept] at hread
  obtain ⟨captured, _, hcaptured⟩ := Option.bind_eq_some_iff.mp hrewritten
  exact ⟨p, accepted, sep, trips, hwritten, hread, hrewritten, (trips.canonical _).mpr ⟨captured, hcaptured⟩⟩

/-- A dash is no landmark: here the first of two values comes back with a part of the second. -/
example : (compile "/{a}-{b}").toOption.map (fun p => ((p.reverse (Dictionary.ofList [("a", "x"), ("b", "y-z")])),
    p.match? "/x-y-z")) = some (some "/x-y-z", some (Dictionary.ofList [("a", "x-y"), ("b", "z")])) := by
  decide +kernel

end AdminConsole.Pattern
