import AdminConsole.Proofs.Route.Schema
import Mathlib.Data.List.Basic
import Mathlib.Data.List.Induction

/-!
# Parameters declared again

A route may declare a parameter several times, and each level of a chain may describe it again. It makes no
difference to the schema whether a descriptor is replaced in the route or described again in the chain.
Main statements: the schema of a chain holds the names in the order in which they were first declared, and
under each name the descriptor that was declared last.
-/

set_option autoImplicit false

namespace AdminConsole

/-- What a route holds that declared these parameters, one after the other. -/
def declareAll (declarations : List (String × ParamDescriptor)) : List (String × ParamDescriptor) :=
  declarations.foldl (fun params declaration => declareParam declaration.1 declaration.2 params) []

/-- The last of several declarations is made when the others have been. -/
theorem declareAll_concat (declarations : List (String × ParamDescriptor)) (name : String)
    (descriptor : ParamDescriptor) :
    declareAll (declarations ++ [(name, descriptor)]) =
      declareParam name descriptor (declareAll declarations) := by
  simp [declareAll]

/-- The last descriptor of a name among declarations. -/
def lastDeclared? (declarations : List (String × ParamDescriptor)) (name : String) : Option ParamDescriptor :=
  declarations.reverse.lookup name

/-- Of an earlier and a later declaration the later one counts. -/
theorem lastDeclared?_append (earlier later : List (String × ParamDescriptor)) (name : String) :
    lastDeclared? (earlier ++ later) name = (lastDeclared? later name).or (lastDeclared? earlier name) := by
  rw [lastDeclared?, List.reverse_append, List.lookup_append]
  rfl

/-- The last declaration among all that some levels made is the last one of the last level that made one. -/
theorem lastDeclared?_flatMap {α : Type} (declared : α → List (String × ParamDescriptor)) (levels : List α)
    (name : String) :
    lastDeclared? (levels.flatMap declared) name =
      levels.reverse.findSome? fun level => lastDeclared? (declared level) name := by
  induction levels with
  | nil => rfl
  | cons level levels ih =>
    rw [List.flatMap_cons, lastDeclared?_append, ih, List.reverse_cons, List.findSome?_append,
      List.findSome?_singleton]

namespace ParamSchema

/-! ## Setting descriptors -/

variable {name other : String} {x y : ParamDescriptor}

/-- A descriptor that is set twice is the one that was set last. -/
theorem setDescriptor_twice (entries : List (String × Option ParamDescriptor)) :
    setDescriptor name x (setDescriptor name y entries) = setDescriptor name x entries := by
  induction entries with
  | nil => simp [setDescriptor]
  | cons entry rest ih =>
    by_cases h : entry.1 = name
    · simp [setDescriptor, h]
    · simp [setDescriptor, h, ih]

/-- A name that has its place keeps it when another one is set first. -/
theorem setDescriptor_comm (hne : name ≠ other) {entries : List (String × Option ParamDescriptor)}
    (known : name ∈ entries.map (·.1)) :
    setDescriptor name x (setDescriptor other y entries) =
      setDescriptor other y (setDescriptor name x entries) := by
  induction entries with
  | nil => cases known
  | cons entry rest ih =>
    by_cases hother : entry.1 = other
    · have hname : ¬ entry.1 = name := fun e => hne (e.symm.trans hother)
      simp [setDescriptor, hother, Ne.symm hne]
    · by_cases hname : entry.1 = name
      · simp [setDescriptor, hname, hne]
      · have hrest : name ∈ rest.map (·.1) := by
          rcases List.mem_cons.mp known with rfl | hmem
          · exact absurd rfl hname
          · exact hmem
        simp [setDescriptor, hname, hother, ih hrest]

/-- A descriptor that is set is found under its own name, and the others stay as they are. -/
theorem lookup_setDescriptor (entries : List (String × Option ParamDescriptor)) :
    (setDescriptor name x entries).lookup other =
      if other = name then some (some x) else entries.lookup other := by
  induction entries with
  | nil => rw [setDescriptor, Dictionary.lookup_cons_eq]
  | cons entry rest ih =>
    obtain ⟨key, held⟩ := entry
    unfold setDescriptor
    by_cases hkey : key = name
    · subst hkey
      rw [if_pos rfl, Dictionary.lookup_cons_eq, Dictionary.lookup_cons_eq]
      split <;> rfl
    · rw [if_neg hkey, Dictionary.lookup_cons_eq, Dictionary.lookup_cons_eq, ih]
      by_cases h : other = key
      · subst h
        rw [if_pos rfl, if_pos rfl, if_neg hkey]
      · rw [if_neg h, if_neg h]

/-- A schema that describes a parameter has its descriptor, and the others stay as they are. -/
theorem descriptor?_describe (s : ParamSchema) :
    (s.describe name x).descriptor? other = if other = name then some x else s.descriptor? other := by
  rw [descriptor?, describe, lookup_setDescriptor]
  split <;> rfl

/-- A schema that lists a parameter keeps its descriptors. -/
theorem descriptor?_declare (s : ParamSchema) : (s.declare name).descriptor? other = s.descriptor? other := by
  unfold declare
  split
  · rfl
  · rw [descriptor?, descriptor?, List.lookup_append]
    cases hfound : s.entries.lookup other with
    | some held => rfl
    | none =>
      rw [Option.none_or, Dictionary.lookup_cons_eq]
      split <;> rfl

/-! ## Replaced in the route or described again -/

/-- What a route holds is a list of entries like those of a schema. -/
theorem map_declareParam (params : List (String × ParamDescriptor)) :
    (declareParam name x params).map (fun param => (param.1, some param.2)) =
      setDescriptor name x (params.map fun param => (param.1, some param.2)) := by
  induction params with
  | nil => rfl
  | cons param rest ih =>
    by_cases h : param.1 = name
    · simp [declareParam, setDescriptor, h]
    · simp [declareParam, setDescriptor, h, ih]

/-- A declaration leaves the parameters of a route with different names. -/
theorem nodup_declareParam {params : List (String × ParamDescriptor)} (nodup : (params.map (·.1)).Nodup) :
    ((declareParam name x params).map (·.1)).Nodup := by
  have hkeys : ∀ entries : List (String × ParamDescriptor),
      (entries.map fun param => (param.1, some param.2)).map (·.1) = entries.map (·.1) := by
    intro entries
    rw [List.map_map]
    rfl
  rw [← hkeys, map_declareParam, map_fst_setDescriptor, hkeys]
  exact nodup_add nodup name

/-- The parameters of a route have different names, however often they are declared. -/
theorem nodup_declareAll (declarations : List (String × ParamDescriptor)) :
    ((declareAll declarations).map (·.1)).Nodup := by
  induction declarations using List.reverseRecOn with
  | nil => exact List.nodup_nil
  | append_singleton declarations declaration ih =>
    rw [declareAll_concat]
    exact nodup_declareParam ih

/-- A schema lists what it describes. -/
theorem mem_names_describe {s : ParamSchema} : name ∈ (s.describe name x).names := by
  rw [names_describe]
  split
  · assumption
  · exact List.mem_append_right _ (List.mem_singleton_self name)

/-- A known name can be described before others as well as after them. -/
theorem describe_foldl_describe {params : List (String × ParamDescriptor)} {s : ParamSchema}
    (known : name ∈ s.names) (fresh : name ∉ params.map (·.1)) :
    (params.foldl (fun schema param => schema.describe param.1 param.2) s).describe name x =
      params.foldl (fun schema param => schema.describe param.1 param.2) (s.describe name x) := by
  induction params generalizing s with
  | nil => rfl
  | cons param params ih =>
    obtain ⟨hne, hfresh⟩ : name ≠ param.1 ∧ name ∉ params.map (·.1) := by simpa using fresh
    have hknown : name ∈ (s.describe param.1 param.2).names := by
      rw [names_describe]
      exact mem_add param.1 known
    -- The names differ, and the known one has its place already, so the two may change their order.
    have hcomm : (s.describe param.1 param.2).describe name x =
        (s.describe name x).describe param.1 param.2 :=
      congrArg ParamSchema.mk (setDescriptor_comm hne known)
    rw [List.foldl_cons, List.foldl_cons, ih hknown hfresh, hcomm]

/-- To describe the parameters of a route after one more declaration is to describe those from before, and then this
one. -/
theorem foldl_describe_declareParam {params : List (String × ParamDescriptor)}
    (nodup : (params.map (·.1)).Nodup) (s : ParamSchema) :
    (declareParam name x params).foldl (fun schema param => schema.describe param.1 param.2) s =
      (params.foldl (fun schema param => schema.describe param.1 param.2) s).describe name x := by
  induction params generalizing s with
  | nil => rfl
  | cons param params ih =>
    obtain ⟨hfresh, hrest⟩ := List.nodup_cons.mp nodup
    unfold declareParam
    by_cases h : param.1 = name
    · -- The old descriptor is replaced, and what is described after it has other names.
      subst h
      have htwice : (s.describe param.1 param.2).describe param.1 x = s.describe param.1 x :=
        congrArg ParamSchema.mk (setDescriptor_twice s.entries)
      rw [if_pos rfl, List.foldl_cons, List.foldl_cons, describe_foldl_describe mem_names_describe hfresh,
        htwice]
    · rw [if_neg h, List.foldl_cons, List.foldl_cons, ih hrest]

/-- **Replacing a descriptor in the route is as good as describing the parameter again.** -/
theorem foldl_describe_declareAll (declarations : List (String × ParamDescriptor)) (s : ParamSchema) :
    (declareAll declarations).foldl (fun schema param => schema.describe param.1 param.2) s =
      declarations.foldl (fun schema param => schema.describe param.1 param.2) s := by
  induction declarations using List.reverseRecOn with
  | nil => rfl
  | append_singleton declarations declaration ih =>
    rw [declareAll_concat, foldl_describe_declareParam (nodup_declareAll declarations), ih,
      List.foldl_concat]

/-! ## What a fold leaves -/

/-- A name that comes last is kept if it did not come before. -/
theorem eraseDups_concat (names : List String) (name : String) :
    (names ++ [name]).eraseDups =
      if name ∈ names.eraseDups then names.eraseDups else names.eraseDups ++ [name] := by
  rw [List.eraseDups_append]
  by_cases h : name ∈ names
  · simp [h, List.removeAll]
  · simp [h, List.removeAll, List.eraseDups_cons]

/-- A schema lists the names that it is given, in the order in which they come first. -/
theorem names_foldl_declare {earlier : List String} {s : ParamSchema} (h : s.names = earlier.eraseDups)
    (declared : List String) : (declared.foldl declare s).names = (earlier ++ declared).eraseDups := by
  induction declared using List.reverseRecOn with
  | nil => simpa using h
  | append_singleton declared name ih =>
    rw [List.foldl_concat, names_declare, ih, ← List.append_assoc, eraseDups_concat]

/-- A schema lists the names of what it is given to describe behind those from before, each of them once. -/
theorem names_foldl_describe {earlier : List String} {s : ParamSchema} (h : s.names = earlier.eraseDups)
    (params : List (String × ParamDescriptor)) :
    (params.foldl (fun schema param => schema.describe param.1 param.2) s).names =
      (earlier ++ params.map (·.1)).eraseDups := by
  induction params using List.reverseRecOn with
  | nil => simpa using h
  | append_singleton params param ih =>
    rw [List.foldl_concat, names_describe, ih, List.map_append, List.map_singleton, ← List.append_assoc,
      eraseDups_concat]

/-- A schema keeps its descriptors however many names it is given. -/
theorem descriptor?_foldl_declare (declared : List String) (s : ParamSchema) :
    (declared.foldl declare s).descriptor? name = s.descriptor? name := by
  induction declared generalizing s with
  | nil => rfl
  | cons first declared ih => rw [List.foldl_cons, ih, descriptor?_declare]

/-- A schema has the descriptor that was declared last, or else the one from before. -/
theorem descriptor?_foldl_describe (params : List (String × ParamDescriptor)) (s : ParamSchema) :
    (params.foldl (fun schema param => schema.describe param.1 param.2) s).descriptor? name =
      (lastDeclared? params name).or (s.descriptor? name) := by
  induction params using List.reverseRecOn with
  | nil => rfl
  | append_singleton params param ih =>
    have hlast : lastDeclared? [param] name = if name = param.1 then some param.2 else none :=
      Dictionary.lookup_cons_eq name param.1 param.2 []
    rw [List.foldl_concat, descriptor?_describe, ih, lastDeclared?_append, hlast]
    split <;> rfl

end ParamSchema

namespace CompiledRoute

variable {chain : List RouteDefinition} {declared : RouteDefinition → List (String × ParamDescriptor)}

/-- A compiled schema lists the names of the pattern, and then describes the parameters of the whole lineage. -/
theorem compileSchema_eq_foldl (pattern : Option Pattern) (chain : List RouteDefinition) :
    compileSchema pattern chain =
      (chain.flatMap (·.params)).foldl (fun schema param => schema.describe param.1 param.2)
        ((pattern.elim [] fun p => p.paramNames ++ p.queryNames).foldl ParamSchema.declare
          ParamSchema.empty) := by
  cases pattern <;> rfl

/-- What a schema says of a parameter is what the levels hold of it. -/
theorem descriptor?_eq_lastDeclared? (pattern : Option Pattern) (chain : List RouteDefinition) (name : String) :
    (compileSchema pattern chain).descriptor? name = lastDeclared? (chain.flatMap (·.params)) name := by
  rw [compileSchema_eq_foldl, ParamSchema.descriptor?_foldl_describe, ParamSchema.descriptor?_foldl_declare]
  exact Option.or_none

/-- The schema of a chain in terms of all that its levels declared. -/
theorem compileSchema_eq (pattern : Option Pattern) (h : ∀ q ∈ chain, q.params = declareAll (declared q)) :
    compileSchema pattern chain =
      (chain.flatMap declared).foldl (fun schema param => schema.describe param.1 param.2)
        ((pattern.elim [] fun p => p.paramNames ++ p.queryNames).foldl ParamSchema.declare
          ParamSchema.empty) := by
  rw [compileSchema_eq_foldl]
  generalize (pattern.elim [] fun p => p.paramNames ++ p.queryNames).foldl ParamSchema.declare
    ParamSchema.empty = s
  induction chain generalizing s with
  | nil => rfl
  | cons q chain ih =>
    have hq := h q List.mem_cons_self
    have hchain : ∀ p ∈ chain, p.params = declareAll (declared p) := fun p hp =>
      h p (List.mem_cons_of_mem q hp)
    rw [List.flatMap_cons, List.flatMap_cons, List.foldl_append, List.foldl_append, hq,
      ParamSchema.foldl_describe_declareAll, ih hchain]

/-- **Each name once, where it was declared first**: in the path, in the query list, or by a level. -/
theorem names_compileSchema (pattern : Option Pattern)
    (h : ∀ q ∈ chain, q.params = declareAll (declared q)) :
    (compileSchema pattern chain).names =
      ((pattern.elim [] fun p => p.paramNames ++ p.queryNames) ++
        chain.flatMap fun q => (declared q).map (·.1)).eraseDups := by
  have hempty : ParamSchema.empty.names = ([] : List String).eraseDups := rfl
  have hpattern := ParamSchema.names_foldl_declare hempty
    (pattern.elim [] fun p => p.paramNames ++ p.queryNames)
  rw [compileSchema_eq pattern h, ParamSchema.names_foldl_describe hpattern, List.nil_append, List.map_flatMap]

/-- **The last declaration counts**: that of the innermost level, and there the last one. -/
theorem descriptor?_compileSchema (pattern : Option Pattern)
    (h : ∀ q ∈ chain, q.params = declareAll (declared q)) (name : String) :
    (compileSchema pattern chain).descriptor? name =
      chain.reverse.findSome? fun q => lastDeclared? (declared q) name := by
  rw [compileSchema_eq pattern h, ParamSchema.descriptor?_foldl_describe,
    ParamSchema.descriptor?_foldl_declare, lastDeclared?_flatMap]
  exact Option.or_none

end CompiledRoute

end AdminConsole
