import AdminConsole.Route.Resolution

/-!
# Which guards run

Activating a route runs the guards of its chain one after another. The calls of an activation are these runs
in order, each with what the guard saw and what it left behind; they are recorded along the same recursion by
which the guards run. Main statements: the guards of the chain run in its order, up to the first one that
redirects, and the outcome of the activation is what the last call left behind.
-/

set_option autoImplicit false

namespace AdminConsole

/-- A run of a guard. -/
structure GuardCall where
  /-- The route whose guard ran. -/
  owner : RouteDefinition
  context : GuardContext
  /-- The services as the guard found them. -/
  services : GuardServices
  result : GuardResult

namespace GuardCall

/-- Whether the call is what the guard of its owner does. -/
def IsRun (call : GuardCall) : Prop :=
  ∃ guard, call.owner.guard = some guard ∧ call.result = guard call.context call.services

/-- Whether calls follow one another. The first one finds the metadata and the services as they are, each
other one finds them as the one before it left them, and after the last one they are `metadata'` and
`services'`. -/
def Linked (metadata' : RouteMetadata) (services' : GuardServices) :
    List GuardCall → RouteMetadata → GuardServices → Prop
  | [], metadata, services => metadata = metadata' ∧ services = services'
  | call :: more, metadata, services =>
      call.context.metadata = metadata ∧ call.services = services ∧
        Linked metadata' services' more call.result.metadata call.result.services

/-- The calls when the guards of a chain run. -/
def record (routeName : String) (params : RouteParams) :
    List RouteDefinition → RouteMetadata → GuardServices → List GuardCall
  | [], _, _ => []
  | owner :: more, metadata, services =>
      match owner.guard with
      | none => record routeName params more metadata services
      | some guard =>
          let context : GuardContext := ⟨routeName, params, metadata⟩
          let result := guard context services
          ⟨owner, context, services, result⟩ ::
            match result.redirect with
            | some _ => []
            | none => record routeName params more result.metadata result.services

/-- The routes of a chain that have a guard. -/
def guarded (chain : List RouteDefinition) : List RouteDefinition :=
  chain.filter fun d => d.guard.isSome

variable (routeName : String) (params : RouteParams)

/-- Every call on record is a run of its guard, for the route and the parameters of this activation. -/
theorem of_mem_record {chain : List RouteDefinition} {metadata : RouteMetadata}
    {services : GuardServices} {call : GuardCall}
    (h : call ∈ record routeName params chain metadata services) :
    call.IsRun ∧ call.context.routeName = routeName ∧ call.context.params = params := by
  induction chain generalizing metadata services with
  | nil => cases h
  | cons owner more ih =>
    unfold record at h
    split at h
    · exact ih h
    · rename_i guard hguard
      rcases List.mem_cons.mp h with rfl | h
      · exact ⟨⟨guard, hguard, rfl⟩, rfl, rfl⟩
      · split at h
        · cases h
        · exact ih h

/-- How the guards of a chain come to an end: all of them ran and let the activation go on, or one
redirected and was the last to run. -/
inductive Ending (chain : List RouteDefinition) (metadata : RouteMetadata)
    (services : GuardServices) (calls : List GuardCall) (result : GuardResult) : Prop where
  | passed (redirect : result.redirect = none) (owners : calls.map (·.owner) = guarded chain)
      (continued : ∀ call ∈ calls, call.result.redirect = none)
      (linked : Linked result.metadata result.services calls metadata services)
  | stopped (before : List GuardCall) (last : GuardCall) (target : Destination)
      (redirect : result.redirect = some target) (split : calls = before ++ [last])
      (outcome : last.result = result) (owners : calls.map (·.owner) <+: guarded chain)
      (continued : ∀ call ∈ before, call.result.redirect = none)
      (linked : Linked last.context.metadata last.services before metadata services)

/-- **Guards run in the order of the chain, up to the first one that redirects.** -/
theorem ending_record (chain : List RouteDefinition) (metadata : RouteMetadata)
    (services : GuardServices) :
    Ending chain metadata services (record routeName params chain metadata services)
      (Guard.runAll routeName params (chain.filterMap (·.guard)) metadata services) := by
  induction chain generalizing metadata services with
  | nil => exact .passed rfl rfl (by simp [record]) ⟨rfl, rfl⟩
  | cons owner more ih =>
    cases hguard : owner.guard with
    | none =>
      have hrecord : record routeName params (owner :: more) metadata services =
          record routeName params more metadata services := by
        simp only [record, hguard]
      have hguarded : guarded (owner :: more) = guarded more := by simp [guarded, hguard]
      rw [hrecord, List.filterMap_cons_none hguard]
      cases ih metadata services with
      | passed redirect owners continued linked =>
        exact .passed redirect (by rw [hguarded, owners]) continued linked
      | stopped before last target redirect split outcome owners continued linked =>
        exact .stopped before last target redirect split outcome (by rw [hguarded]; exact owners)
          continued linked
    | some guard =>
      have hguarded : guarded (owner :: more) = owner :: guarded more := by simp [guarded, hguard]
      rw [List.filterMap_cons_some hguard]
      simp only [Guard.runAll, record, hguard]
      generalize guard ⟨routeName, params, metadata⟩ services = result
      cases hredirect : result.redirect with
      | some target =>
        -- The first guard redirects, and is the last to run.
        refine .stopped [] _ target hredirect rfl rfl ?_ (by simp) ⟨rfl, rfl⟩
        rw [hguarded]
        exact List.prefix_append [owner] (guarded more)
      | none =>
        -- The others run with what the first guard has left.
        cases ih result.metadata result.services with
        | passed redirect owners continued linked =>
          refine .passed redirect ?_ ?_ ⟨rfl, rfl, linked⟩
          · rw [List.map_cons, owners, hguarded]
          · intro call hcall
            rcases List.mem_cons.mp hcall with rfl | hcall
            · exact hredirect
            · exact continued call hcall
        | stopped before last target redirect split outcome owners continued linked =>
          refine .stopped (_ :: before) last target redirect (by rw [split]; rfl) outcome ?_ ?_
            ⟨rfl, rfl, linked⟩
          · rw [List.map_cons, hguarded]
            exact List.cons_prefix_cons.mpr ⟨rfl, owners⟩
          · intro call hcall
            rcases List.mem_cons.mp hcall with rfl | hcall
            · exact hredirect
            · exact continued call hcall

end GuardCall

end AdminConsole
