import AdminConsole.Proofs.Dictionary.Lookup
import AdminConsole.Route.Table

/-!
# What a route knows of its parameters

A schema holds each name once, however often it is declared or described. Main statement: materializing
gives each name of the schema the value that its own entry asks for, and no other name a value.
-/

set_option autoImplicit false

namespace AdminConsole

namespace ParamSchema

/-! ## Each name once -/

/-- A name that is declared is added at the end, unless it is listed. -/
theorem names_declare (s : ParamSchema) (name : String) :
    (s.declare name).names = if name ∈ s.names then s.names else s.names ++ [name] := by
  unfold declare
  by_cases h : name ∈ s.names
  · rw [if_pos (by simpa using h), if_pos h]
  · rw [if_neg (by simpa using h), if_neg h]
    simp [names]

/-- A name whose descriptor is set is added at the end, unless it is listed. -/
theorem map_fst_setDescriptor (name : String) (descriptor : ParamDescriptor)
    (entries : List (String × Option ParamDescriptor)) :
    (setDescriptor name descriptor entries).map (·.1) =
      if name ∈ entries.map (·.1) then entries.map (·.1) else entries.map (·.1) ++ [name] := by
  induction entries with
  | nil => rfl
  | cons entry rest ih =>
    unfold setDescriptor
    by_cases hname : entry.1 = name
    · simp [hname]
    · have hne : ¬ name = entry.1 := fun e => hname e.symm
      rw [if_neg hname, List.map_cons, ih]
      by_cases hmem : name ∈ rest.map (·.1)
      · rw [if_pos hmem, if_pos (by simp [hmem])]
        rfl
      · rw [if_neg hmem, if_neg (by simp only [List.map_cons, List.mem_cons]; simp [hne, hmem])]
        rfl

/-- A name that is described is added at the end, unless it is listed. -/
theorem names_describe (s : ParamSchema) (name : String) (descriptor : ParamDescriptor) :
    (s.describe name descriptor).names = if name ∈ s.names then s.names else s.names ++ [name] :=
  map_fst_setDescriptor name descriptor s.entries

/-- Adding a name that is not there keeps names apart. -/
theorem nodup_add {names : List String} (nodup : names.Nodup) (name : String) :
    (if name ∈ names then names else names ++ [name]).Nodup := by
  split
  · exact nodup
  · rename_i hfresh
    rw [List.nodup_append]
    refine ⟨nodup, by simp, ?_⟩
    intro a ha b hb
    rw [List.mem_singleton] at hb
    rintro rfl
    exact hfresh (hb ▸ ha)

/-- Declaring names leaves all names of a schema different. -/
theorem nodup_foldl_declare (declared : List String) (s : ParamSchema) (nodup : s.names.Nodup) :
    (declared.foldl declare s).names.Nodup := by
  induction declared generalizing s with
  | nil => exact nodup
  | cons name declared ih =>
    apply ih
    rw [names_declare]
    exact nodup_add nodup name

/-- Describing parameters leaves all names of a schema different. -/
theorem nodup_foldl_describe (params : List (String × ParamDescriptor)) (s : ParamSchema)
    (nodup : s.names.Nodup) :
    (params.foldl (fun schema param => schema.describe param.1 param.2) s).names.Nodup := by
  induction params generalizing s with
  | nil => exact nodup
  | cons param params ih =>
    apply ih
    rw [names_describe]
    exact nodup_add nodup param.1

/-- A name stays in a list to which names are added. -/
theorem mem_add {names : List String} {name : String} (other : String) (h : name ∈ names) :
    name ∈ (if other ∈ names then names else names ++ [other]) := by
  split
  · exact h
  · exact List.mem_append_left _ h

/-- A schema lists what was declared and what it listed before. -/
theorem mem_foldl_declare {declared : List String} {s : ParamSchema} {name : String}
    (h : name ∈ declared ∨ name ∈ s.names) : name ∈ (declared.foldl declare s).names := by
  induction declared generalizing s with
  | nil => exact h.resolve_left List.not_mem_nil
  | cons first declared ih =>
    apply ih
    rw [names_declare]
    rcases h with h | h
    · rcases List.mem_cons.mp h with rfl | h
      · right
        by_cases hmem : name ∈ s.names <;> simp [hmem]
      · exact .inl h
    · exact .inr (mem_add first h)

/-- Describing parameters takes no name from a schema. -/
theorem mem_foldl_describe {params : List (String × ParamDescriptor)} {s : ParamSchema}
    {name : String} (h : name ∈ s.names) :
    name ∈ (params.foldl (fun schema param => schema.describe param.1 param.2) s).names := by
  induction params generalizing s with
  | nil => exact h
  | cons param params ih =>
    apply ih
    rw [names_describe]
    exact mem_add param.1 h

/-! ## Materializing -/

/-- With each key once, an entry that is kept is found under its key. -/
theorem lookup_filterMap {α β : Type} (f : String × α → Option β) (entries : List (String × α))
    (nodup : (entries.map (·.1)).Nodup) (name : String) :
    (entries.filterMap fun entry => (f entry).map fun value => (entry.1, value)).lookup name =
      (entries.lookup name).bind fun held => f (name, held) := by
  induction entries with
  | nil => rfl
  | cons entry rest ih =>
    obtain ⟨key, held⟩ := entry
    obtain ⟨hfresh, hrest⟩ := List.nodup_cons.mp nodup
    rw [Dictionary.lookup_cons_eq, List.filterMap_cons]
    by_cases h : name = key
    · subst h
      rw [if_pos rfl, Option.bind_some]
      cases hvalue : f (name, held) with
      | some value => simp
      | none =>
        simp [ih hrest, (Dictionary.lookup_eq_none_iff_not_mem name rest).mpr hfresh]
    · rw [if_neg h, ← ih hrest]
      cases hvalue : f (key, held) with
      | some value => simp [Dictionary.lookup_cons_eq, h]
      | none => simp

/-- **Each parameter has the value of its own entry**, and a name that the schema does not know has
none. -/
theorem get?_materialize (s : ParamSchema) (nodup : s.names.Nodup)
    (captured supplied : Dictionary String) (name : String) :
    (s.materialize captured supplied).get? name =
      (s.entries.lookup name).bind fun descriptor =>
        valueOf? captured supplied (name, descriptor) := by
  have hkeys : ((s.entries.filterMap fun entry =>
      (valueOf? captured supplied entry).map fun value => (entry.1, value)).map (·.1)).Nodup := by
    have hsub : ((s.entries.filterMap fun entry =>
        (valueOf? captured supplied entry).map fun value => (entry.1, value)).map (·.1)).Sublist
          (s.entries.map (·.1)) := by
      induction s.entries with
      | nil => exact List.Sublist.slnil
      | cons entry rest ih =>
        rw [List.filterMap_cons]
        cases valueOf? captured supplied entry with
        | none => exact ih.cons _
        | some value => exact ih.cons_cons _
    exact hsub.nodup nodup
  rw [materialize, Dictionary.get?_ofList_of_nodup _ hkeys, lookup_filterMap _ _ nodup]

/-- Supplied values that answer alike are materialized alike. -/
theorem materialize_congr (s : ParamSchema) (captured : Dictionary String) {supplied other : Dictionary String}
    (same : ∀ name, supplied.get? name = other.get? name) :
    s.materialize captured supplied = s.materialize captured other := by
  have hvalue : ∀ entry, valueOf? captured supplied entry = valueOf? captured other entry := by
    intro entry
    simp only [valueOf?, same]
  simp only [materialize, hvalue]

/-- The default of a parameter. -/
def default? (s : ParamSchema) (name : String) : Option String :=
  (s.descriptor? name).bind (·.default?)

/-- Whether the default of a parameter is left out of URLs. -/
def squashes (s : ParamSchema) (name : String) : Bool :=
  (s.descriptor? name).any (·.squash)

variable {s : ParamSchema} {name : String}

/-- A known parameter is materialized from the path, the supplied values and its default, in this
order. -/
theorem get?_materialize_of_mem (nodup : s.names.Nodup) (known : name ∈ s.names)
    (captured supplied : Dictionary String) :
    (s.materialize captured supplied).get? name =
      (((captured.get? name).filter fun value => !(value.isEmpty && s.squashes name)).or
        (supplied.get? name)).or (s.default? name) := by
  rw [s.get?_materialize nodup]
  cases hlookup : s.entries.lookup name with
  | none => exact absurd known ((Dictionary.lookup_eq_none_iff_not_mem name s.entries).mp hlookup)
  | some descriptor => simp [valueOf?, default?, squashes, descriptor?, hlookup]

/-- A name that a schema does not list has neither a value nor a default. -/
theorem get?_materialize_of_not_mem (nodup : s.names.Nodup) (unknown : name ∉ s.names)
    (captured supplied : Dictionary String) :
    (s.materialize captured supplied).get? name = none ∧ s.default? name = none := by
  have hlookup : s.entries.lookup name = none :=
    (Dictionary.lookup_eq_none_iff_not_mem name s.entries).mpr unknown
  constructor
  · rw [s.get?_materialize nodup, hlookup]
    rfl
  · simp [default?, descriptor?, hlookup]

/-- A parameter that is empty by default and was not captured is what was supplied for it. -/
theorem getD_materialize (nodup : s.names.Nodup) (hdefault : s.default? name = some "")
    {captured : Dictionary String} (unseen : captured.get? name = none) (supplied : Dictionary String) :
    ((s.materialize captured supplied).get? name).getD "" = (supplied.get? name).getD "" := by
  by_cases known : name ∈ s.names
  · rw [get?_materialize_of_mem nodup known, unseen, hdefault]
    cases supplied.get? name <;> rfl
  · rw [(get?_materialize_of_not_mem nodup known captured supplied).2] at hdefault
    cases hdefault

/-- A parameter that was materialized to nothing has no default. -/
theorem default?_eq_none (nodup : s.names.Nodup) {captured supplied : Dictionary String}
    (h : (s.materialize captured supplied).get? name = none) : s.default? name = none := by
  by_cases known : name ∈ s.names
  · rw [get?_materialize_of_mem nodup known] at h
    exact (Option.or_eq_none_iff.mp h).2
  · exact (get?_materialize_of_not_mem nodup known captured supplied).2

end ParamSchema

namespace CompiledRoute

/-- The names of a compiled schema are different. -/
theorem nodup_names_compileSchema (pattern : Option Pattern) (chain : List RouteDefinition) :
    (compileSchema pattern chain).names.Nodup := by
  unfold compileSchema
  apply ParamSchema.nodup_foldl_describe
  cases pattern with
  | none => exact List.nodup_nil
  | some p => exact ParamSchema.nodup_foldl_declare _ _ List.nodup_nil

/-- The parameters of the path and those of the query list are known. -/
theorem mem_names_compileSchema {p : Pattern} {name : String} (chain : List RouteDefinition)
    (h : name ∈ p.paramNames ++ p.queryNames) : name ∈ (compileSchema (some p) chain).names :=
  ParamSchema.mem_foldl_describe (ParamSchema.mem_foldl_declare (.inl h))

end CompiledRoute

end AdminConsole
