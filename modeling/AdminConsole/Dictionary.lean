/-!
# Dictionaries in key order

A dictionary maps texts to values and lists its entries by key, smallest code point first. The order
is part of the type, so two dictionaries that answer every look-up alike are equal, and listing one
needs no sorting.
-/

set_option autoImplicit false

namespace AdminConsole

/-- Entries with strictly increasing keys. -/
structure Dictionary (α : Type) where
  /-- The entries, smallest key first. -/
  entries : List (String × α)
  /-- No key stands twice, and none stands before a smaller one. -/
  sorted : entries.Pairwise fun a b => a.1 < b.1

namespace Dictionary

variable {α β : Type}

/-- A dictionary is shown as its entries. -/
instance [Repr α] : Repr (Dictionary α) where
  reprPrec d n := reprPrec d.entries n

/-- Dictionaries are the same if their entries are. -/
instance [DecidableEq α] : DecidableEq (Dictionary α) := fun a b =>
  if h : a.entries = b.entries then
    isTrue (by cases a; cases b; simp_all)
  else
    isFalse fun e => h (by rw [e])

/-- The dictionary without entries. -/
def empty : Dictionary α := ⟨[], .nil⟩

instance : EmptyCollection (Dictionary α) := ⟨empty⟩

instance : Inhabited (Dictionary α) := ⟨empty⟩

/-- Puts an entry at its place in a list of entries in key order, replacing the one under its key. -/
def place (key : String) (value : α) : List (String × α) → List (String × α)
  | [] => [(key, value)]
  | entry :: rest =>
      if key < entry.1 then (key, value) :: entry :: rest
      else if key = entry.1 then (key, value) :: rest
      else entry :: place key value rest

/-- An entry of a list in which one was placed is this one or was there before. -/
theorem fst_mem_place {key : String} {value : α} {list : List (String × α)} {x : String × α}
    (h : x ∈ place key value list) : x.1 = key ∨ x ∈ list := by
  induction list with
  | nil => simp_all [place]
  | cons entry rest ih =>
      unfold place at h
      split at h
      · simp only [List.mem_cons] at h ⊢
        rcases h with rfl | h
        · exact .inl rfl
        · exact .inr h
      · split at h
        · simp only [List.mem_cons] at h ⊢
          rcases h with rfl | h
          · exact .inl rfl
          · exact .inr (.inr h)
        · simp only [List.mem_cons] at h ⊢
          rcases h with rfl | h
          · exact .inr (.inl rfl)
          · rcases ih h with e | m
            · exact .inl e
            · exact .inr (.inr m)

/-- A list stays sorted when an entry is placed in it. -/
theorem place_sorted {key : String} {value : α} {list : List (String × α)}
    (h : list.Pairwise fun a b => a.1 < b.1) :
    (place key value list).Pairwise fun a b => a.1 < b.1 := by
  induction list with
  | nil => simp [place]
  | cons entry rest ih =>
      have hrest := List.pairwise_cons.mp h
      unfold place
      split
      · rename_i hlt
        refine List.pairwise_cons.mpr ⟨fun b hb => ?_, h⟩
        rcases List.mem_cons.mp hb with rfl | hb
        · exact hlt
        · exact String.lt_trans hlt (hrest.1 b hb)
      · split
        · rename_i heq
          exact List.pairwise_cons.mpr ⟨fun b hb => heq ▸ hrest.1 b hb, hrest.2⟩
        · rename_i hlt hne
          refine List.pairwise_cons.mpr ⟨fun b hb => ?_, ih hrest.2⟩
          rcases fst_mem_place hb with e | hb
          · rw [e]
            have hle : entry.1 ≤ key := String.not_lt.mp hlt
            exact Decidable.byContradiction fun hn =>
              hne (String.le_antisymm (String.not_lt.mp hn) hle)
          · exact hrest.1 b hb

/-- The dictionary with `value` under `key`, whatever was there before. -/
def insert (d : Dictionary α) (key : String) (value : α) : Dictionary α :=
  ⟨place key value d.entries, place_sorted d.sorted⟩

/-- The dictionary without an entry under `key`. -/
def erase (d : Dictionary α) (key : String) : Dictionary α :=
  ⟨d.entries.filter fun entry => entry.1 != key, d.sorted.filter _⟩

/-- The dictionary of the entries whose key passes the test. -/
def filterKeys (d : Dictionary α) (keep : String → Bool) : Dictionary α :=
  ⟨d.entries.filter fun entry => keep entry.1, d.sorted.filter _⟩

/-- The value under `key`, if there is one. -/
def get? (d : Dictionary α) (key : String) : Option α :=
  d.entries.lookup key

/-- Whether there is a value under `key`. -/
def contains (d : Dictionary α) (key : String) : Bool :=
  (d.get? key).isSome

/-- The dictionary of a list of pairs; of two pairs with one key the later counts. -/
def ofList (pairs : List (String × α)) : Dictionary α :=
  pairs.foldl (fun d pair => d.insert pair.1 pair.2) empty

/-- The entries, smallest key first. -/
def toList (d : Dictionary α) : List (String × α) := d.entries

/-- The number of entries. -/
def size (d : Dictionary α) : Nat := d.entries.length

/-- Whether there is no entry. -/
def isEmpty (d : Dictionary α) : Bool := d.entries.isEmpty

/-- The dictionary with every value changed by `f`. -/
def map (f : α → β) (d : Dictionary α) : Dictionary β :=
  ⟨d.entries.map fun entry => (entry.1, f entry.2), by
    rw [List.pairwise_map]; exact d.sorted⟩

end Dictionary

end AdminConsole
