import Mathlib.Data.List.Nodup

/-!
# Lists with keys

Routes and definitions stand in lists in which no name occurs twice. A look-up by name then finds whatever has
the name, and does not depend on the order.
-/

set_option autoImplicit false

namespace AdminConsole.Keyed

variable {α : Type} {key : α → String} {xs ys : List α}

/-- A member of a list is found by its key, if the keys are different. -/
theorem find?_eq_some (nodup : (xs.map key).Nodup) {x : α} (hx : x ∈ xs) :
    xs.find? (fun y => key y == key x) = some x := by
  cases hfound : xs.find? fun y => key y == key x with
  | none => simpa using List.find?_eq_none.mp hfound x hx
  | some y =>
    have hkey : key y = key x := by simpa using List.find?_some hfound
    rw [List.inj_on_of_nodup_map nodup (List.mem_of_find?_eq_some hfound) hx hkey]

/-- Lists of the same members with different keys have the same members found in them. -/
theorem find?_congr (nodup : (xs.map key).Nodup) (same : ∀ x, x ∈ xs ↔ x ∈ ys) (name : String) :
    xs.find? (fun x => key x == name) = ys.find? (fun x => key x == name) := by
  cases hfound : ys.find? fun x => key x == name with
  | some x =>
    have hkey : key x = name := by simpa using List.find?_some hfound
    rw [← hkey]
    exact find?_eq_some nodup ((same x).mpr (List.mem_of_find?_eq_some hfound))
  | none =>
    rw [List.find?_eq_none] at hfound ⊢
    intro x hx
    exact hfound x ((same x).mp hx)

end AdminConsole.Keyed
