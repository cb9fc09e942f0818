import AdminConsole.Dictionary

/-!
# Looking up in dictionaries

What a look-up finds after each of the operations on dictionaries. After these statements nothing needs
to know that a dictionary is a list of entries in key order. The main ones say that a dictionary made of
pairs answers with the last pair of a key, and that dictionaries which answer alike are equal.
-/

set_option autoImplicit false

namespace AdminConsole.Dictionary

variable {α : Type}

/-- An empty dictionary holds nothing. -/
@[simp] theorem get?_empty (key : String) : (empty : Dictionary α).get? key = none := rfl

/-- A look-up compares its key with the first entry before it goes on. -/
theorem lookup_cons_eq (key name : String) (held : α) (rest : List (String × α)) :
    ((name, held) :: rest).lookup key = if key = name then some held else rest.lookup key := by
  by_cases h : key = name
  · simp [h]
  · have hne : (key == name) = false := by simpa using h
    simp only [List.lookup_cons, hne, if_neg h]

/-- Nothing is found under a key that no entry has. -/
theorem lookup_eq_none_iff_not_mem (key : String) (entries : List (String × α)) :
    entries.lookup key = none ↔ key ∉ entries.map (·.1) := by
  induction entries with
  | nil => simp
  | cons entry rest ih =>
    obtain ⟨name, held⟩ := entry
    rw [lookup_cons_eq, List.map_cons, List.mem_cons, not_or]
    by_cases h : key = name
    · simp [h]
    · rw [if_neg h, ih]
      simp [h]

/-- Placing an entry changes the look-up of its own key only. The entries need not be in order for
that, since the place is found by comparing with each of them in turn. -/
theorem lookup_place (key other : String) (value : α) (entries : List (String × α)) :
    (place key value entries).lookup other =
      if other = key then some value else entries.lookup other := by
  induction entries with
  | nil => rw [place, lookup_cons_eq]
  | cons entry rest ih =>
    obtain ⟨name, held⟩ := entry
    unfold place
    split
    · rw [lookup_cons_eq]
    · split
      · rename_i heq
        simp only at heq
        subst heq
        rw [lookup_cons_eq, lookup_cons_eq]
        split <;> rfl
      · rename_i hne
        rw [lookup_cons_eq, lookup_cons_eq, ih]
        by_cases h : other = key
        · subst h
          rw [if_pos rfl, if_pos rfl, if_neg hne]
        · rw [if_neg h, if_neg h]

/-- A value that is inserted is found under its own key, and the others stay as they are. -/
@[simp] theorem get?_insert (d : Dictionary α) (key other : String) (value : α) :
    (d.insert key value).get? other = if other = key then some value else d.get? other :=
  lookup_place key other value d.entries

/-- Keeping the entries whose key passes a test keeps what is found under such keys. -/
theorem lookup_filter (keep : String → Bool) (key : String) (entries : List (String × α)) :
    (entries.filter fun entry => keep entry.1).lookup key =
      if keep key then entries.lookup key else none := by
  induction entries with
  | nil => simp
  | cons entry rest ih =>
    obtain ⟨name, held⟩ := entry
    by_cases hkey : key = name
    · subst hkey
      cases hkeep : keep key <;> simp [hkeep, ih]
    · rw [lookup_cons_eq, if_neg hkey, ← ih]
      cases hname : keep name
      · simp [hname]
      · simp [hname, lookup_cons_eq, hkey]

/-- Of a dictionary the values remain whose keys are kept. -/
@[simp] theorem get?_filterKeys (d : Dictionary α) (keep : String → Bool) (key : String) :
    (d.filterKeys keep).get? key = if keep key then d.get? key else none :=
  lookup_filter keep key d.entries

/-- A value that is erased is not found any more, and the others stay as they are. -/
@[simp] theorem get?_erase (d : Dictionary α) (key other : String) :
    (d.erase key).get? other = if other = key then none else d.get? other := by
  have h := lookup_filter (fun name => name != key) other d.entries
  by_cases hkey : other = key
  · simpa [erase, get?, hkey] using h
  · simpa [erase, get?, hkey] using h

/-- Inserting pairs one after another: the last pair of a key counts, and without one the look-up finds
what was there before. -/
theorem get?_foldl_insert (pairs : List (String × α)) (d : Dictionary α) (key : String) :
    (pairs.foldl (fun d pair => d.insert pair.1 pair.2) d).get? key =
      (pairs.reverse.lookup key).or (d.get? key) := by
  induction pairs generalizing d with
  | nil => simp
  | cons pair pairs ih =>
    obtain ⟨name, held⟩ := pair
    rw [List.foldl_cons, ih, List.reverse_cons, List.lookup_append, get?_insert, lookup_cons_eq,
      Option.or_assoc]
    by_cases h : key = name
    · simp [h]
    · simp [h]

/-- Of the values that are listed for a key the last one is found. -/
theorem get?_ofList (pairs : List (String × α)) (key : String) :
    (ofList pairs).get? key = pairs.reverse.lookup key := by
  simp [ofList, get?_foldl_insert]

/-- **The last value of a key counts** in a dictionary made of pairs. -/
theorem get?_ofList_eq_some_iff {pairs : List (String × α)} {key : String} {value : α} :
    (ofList pairs).get? key = some value ↔
      ∃ before after, pairs = before ++ (key, value) :: after ∧ ∀ pair ∈ after, pair.1 ≠ key := by
  rw [get?_ofList, List.lookup_eq_some_iff]
  constructor
  · rintro ⟨after, before, hsplit, hlater⟩
    refine ⟨before.reverse, after.reverse, ?_, fun pair hpair => ?_⟩
    · rw [← List.reverse_reverse pairs, hsplit]
      simp
    · exact (bne_iff_ne.mp (hlater pair (List.mem_reverse.mp hpair))).symm
  · rintro ⟨before, after, rfl, hlater⟩
    refine ⟨after.reverse, before.reverse, by simp, fun pair hpair => ?_⟩
    exact bne_iff_ne.mpr (hlater pair (List.mem_reverse.mp hpair)).symm

/-- With every key given once, the order of the pairs does not matter to a look-up. -/
theorem lookup_reverse (pairs : List (String × α)) (nodup : (pairs.map (·.1)).Nodup)
    (key : String) : pairs.reverse.lookup key = pairs.lookup key := by
  induction pairs with
  | nil => rfl
  | cons pair pairs ih =>
    obtain ⟨name, held⟩ := pair
    obtain ⟨hfresh, hrest⟩ := List.nodup_cons.mp nodup
    rw [List.reverse_cons, List.lookup_append, ih hrest, lookup_cons_eq, lookup_cons_eq]
    by_cases h : key = name
    · subst h
      rw [(lookup_eq_none_iff_not_mem key pairs).mpr hfresh]
      simp
    · simp [h]

/-- The value that is listed for a key is found, if the keys are different. -/
theorem get?_ofList_of_nodup (pairs : List (String × α)) (nodup : (pairs.map (·.1)).Nodup)
    (key : String) : (ofList pairs).get? key = pairs.lookup key := by
  rw [get?_ofList, lookup_reverse pairs nodup]

/-- Nothing stands under a key that comes before all others. -/
theorem lookup_eq_none_of_lt {key : String} {entries : List (String × α)}
    (h : ∀ entry ∈ entries, key < entry.1) : entries.lookup key = none := by
  rw [lookup_eq_none_iff_not_mem]
  intro hmem
  obtain ⟨entry, hentry, rfl⟩ := List.mem_map.mp hmem
  exact String.lt_irrefl _ (h entry hentry)

/-- What is found in key order does not stand before the first key. -/
theorem le_of_lookup {first : String × α} {rest : List (String × α)} (hrest : ∀ entry ∈ rest, first.1 < entry.1)
    {key : String} {held : α} (h : (first :: rest).lookup key = some held) : first.1 ≤ key := by
  apply String.not_lt.mp
  intro hlt
  have hnone : (first :: rest).lookup key = none :=
    lookup_eq_none_of_lt (List.forall_mem_cons.mpr ⟨hlt, fun b hb => String.lt_trans hlt (hrest b hb)⟩)
  rw [hnone] at h
  cases h

/-- Entries in key order that answer alike are the same. -/
theorem eq_of_lookup {xs ys : List (String × α)} (hxs : xs.Pairwise fun a b => a.1 < b.1)
    (hys : ys.Pairwise fun a b => a.1 < b.1) (same : ∀ key, xs.lookup key = ys.lookup key) : xs = ys := by
  induction xs generalizing ys with
  | nil =>
    cases ys with
    | nil => rfl
    | cons y ys => simpa [List.lookup_cons] using (same y.1).symm
  | cons x xs ih =>
    cases ys with
    | nil => simpa [List.lookup_cons] using same x.1
    | cons y ys =>
      obtain ⟨hx, hxrest⟩ := List.pairwise_cons.mp hxs
      obtain ⟨hy, hyrest⟩ := List.pairwise_cons.mp hys
      obtain ⟨key, held⟩ := x
      obtain ⟨name, other⟩ := y
      have hown : ((key, held) :: xs).lookup key = some held := List.lookup_cons_self
      have htheirs : ((name, other) :: ys).lookup name = some other := List.lookup_cons_self
      -- Each first key is found in the other list, which begins with its least key.
      have hkey : key = name := by
        apply String.le_antisymm
        · exact le_of_lookup hx ((same name).trans htheirs)
        · exact le_of_lookup hy ((same key).symm.trans hown)
      subst hkey
      have hheld : held = other := Option.some.inj (hown.symm.trans ((same key).trans htheirs))
      have hrest : xs = ys := by
        apply ih hxrest hyrest
        intro k
        by_cases hk : k = key
        · rw [hk, lookup_eq_none_of_lt hx, lookup_eq_none_of_lt hy]
        · have hsame := same k
          rwa [lookup_cons_eq, lookup_cons_eq, if_neg hk, if_neg hk] at hsame
      rw [hheld, hrest]

/-- **Dictionaries that answer alike are equal.** -/
theorem eq_of_get? {a b : Dictionary α} (same : ∀ key, a.get? key = b.get? key) : a = b := by
  obtain ⟨xs, hxs⟩ := a
  obtain ⟨ys, hys⟩ := b
  obtain rfl : xs = ys := eq_of_lookup hxs hys same
  rfl

/-! ## The order of insertions -/

/-- Values may be inserted for different keys in any order. -/
theorem insert_comm (d : Dictionary α) {key other : String} (hne : key ≠ other) (value held : α) :
    (d.insert key value).insert other held = (d.insert other held).insert key value := by
  refine eq_of_get? fun name => ?_
  simp only [get?_insert]
  by_cases hkey : name = key
  · simp [hkey, hne]
  · simp [hkey]

/-- Neighbouring pairs with different keys can change places. -/
theorem ofList_exchange (before after : List (String × α)) {first second : String × α} (hne : first.1 ≠ second.1) :
    ofList (before ++ first :: second :: after) = ofList (before ++ second :: first :: after) := by
  simp only [ofList, List.foldl_append, List.foldl_cons, insert_comm _ hne]

end AdminConsole.Dictionary
