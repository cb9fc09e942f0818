import AdminConsole.Text.Lowercase

/-!
# Words in letters of any case

A word may be written in small letters, in capital ones or in both. Letters outside the Latin alphabet can have
their lower-case forms in it as well: that of the Kelvin sign is a `k`. Main statement: of a word of Latin letters and
digits without a `k` the lower-case form is the one that Latin letters alone decide.
-/

set_option autoImplicit false

namespace AdminConsole.Text

/-- The digits and small letters that are the lower-case form of nothing but themselves and their own capitals. -/
def plainCharacters : List Char := "0123456789abcdefghijlmnopqrstuvwxyz".toList

/-- A run that has a plain character among its lower-case forms has the character's own capital in that place. -/
theorem toLower_of_mem_upperCaseRuns {x : Char} (hx : x ∈ plainCharacters) {run : Nat × Nat × Nat × Int}
    (hrun : run ∈ upperCaseRuns) (hfirst : (run.1 : Int) ≤ x.toNat - run.2.2.2)
    (hlast : (x.toNat : Int) - run.2.2.2 ≤ run.2.1) :
    (Char.ofNat ((x.toNat : Int) - run.2.2.2).toNat).toLower = x := by
  have hcheck : (plainCharacters.all fun x => upperCaseRuns.all fun run =>
      !decide ((run.1 : Int) ≤ x.toNat - run.2.2.2 ∧ (x.toNat : Int) - run.2.2.2 ≤ run.2.1) ||
        (Char.ofNat ((x.toNat : Int) - run.2.2.2).toNat).toLower == x) = true := by
    decide +kernel
  have hpair := List.all_eq_true.mp (List.all_eq_true.mp hcheck x hx) run hrun
  simpa [hfirst, hlast] using hpair

/-- A plain character is its own lower-case form. -/
theorem lower_of_mem_plainCharacters {x : Char} (hx : x ∈ plainCharacters) :
    lowerChar x = x ∧ x.toLower = x ∧ x.toNat ≠ 0 := by
  have hcheck : (plainCharacters.all fun x => lowerChar x == x && x.toLower == x && x.toNat != 0) = true := by
    decide +kernel
  simpa [and_assoc] using List.all_eq_true.mp hcheck x hx

/-! ## Latin letters -/

/-- What holds of twenty-six letters in a row holds of all Latin capitals. -/
theorem of_isUpper {motive : Char → Prop} (capitals : ∀ place ∈ List.range 26, motive (Char.ofNat (65 + place)))
    {c : Char} (h : c.isUpper = true) : motive c := by
  have hbounds : 65 ≤ c.toNat ∧ c.toNat ≤ 90 := by
    obtain ⟨hfirst, hlast⟩ := of_decide_eq_true h
    exact ⟨UInt32.le_iff_toNat_le.mp hfirst, UInt32.le_iff_toNat_le.mp hlast⟩
  have hplace := capitals (c.toNat - 65) (List.mem_range.mpr (by omega))
  have hcode : 65 + (c.toNat - 65) = c.toNat := by omega
  rwa [hcode, Char.ofNat_toNat] at hplace

/-- What is no Latin capital stays as it is. -/
theorem toLower_of_not_isUpper {c : Char} (h : ¬ c.isUpper = true) : c.toLower = c :=
  dif_neg fun hupper => h (decide_eq_true hupper)

/-- A letter that was made small stays as it is. -/
theorem toLower_toLower (c : Char) : c.toLower.toLower = c.toLower := by
  by_cases hupper : c.isUpper = true
  · exact of_isUpper (motive := fun c => c.toLower.toLower = c.toLower) (by decide) hupper
  · rw [toLower_of_not_isUpper hupper, toLower_of_not_isUpper hupper]

/-- A Latin capital has the small letter as its lower-case form. -/
theorem lowerChar_of_isUpper {c : Char} (h : c.isUpper = true) : lowerChar c = c.toLower :=
  of_isUpper (motive := fun c => lowerChar c = c.toLower) (by decide +kernel) h

/-! ## Lower-case forms -/

/-- A character that is made from a code point has it, unless it is the one that stands in for all that are none. -/
theorem toNat_of_ofNat {code : Nat} {x : Char} (h : Char.ofNat code = x) (hx : x.toNat ≠ 0) : code = x.toNat := by
  subst h
  by_cases hvalid : code.isValidChar
  · have hcharacter : Char.ofNat code = Char.ofNatAux code hvalid := dif_pos hvalid
    rw [hcharacter]
    rfl
  · have hnull : Char.ofNat code = '\u0000' := dif_neg hvalid
    rw [hnull] at hx
    exact absurd rfl hx

/-- **The lower-case form is a plain character** for the character itself and for its capital, and for no other. -/
theorem lowerChar_eq_iff {x : Char} (hx : x ∈ plainCharacters) (c : Char) : lowerChar c = x ↔ c.toLower = x := by
  constructor
  · intro h
    unfold lowerChar at h
    dsimp only at h
    split at h
    · rename_i run hrun
      have hmem := List.mem_of_find?_eq_some hrun
      have hinside := List.find?_some hrun
      have hpos := (lower_of_mem_plainCharacters hx).2.2
      have hcode := toNat_of_ofNat h hpos
      simp only [Bool.and_eq_true, decide_eq_true_eq] at hinside
      obtain ⟨⟨hfirst, hlast⟩, _⟩ := hinside
      have hback := toLower_of_mem_upperCaseRuns hx hmem (by omega) (by omega)
      have hsame : ((x.toNat : Int) - run.2.2.2).toNat = c.toNat := by omega
      rwa [hsame, Char.ofNat_toNat] at hback
    · rw [h]
      exact (lower_of_mem_plainCharacters hx).2.1
  · intro h
    by_cases hupper : c.isUpper = true
    · rw [lowerChar_of_isUpper hupper, h]
    · have hsame : c.toLower = c := toLower_of_not_isUpper hupper
      obtain rfl := hsame.symm.trans h
      exact (lower_of_mem_plainCharacters hx).1

/-- What comes before a text matters to a sigma alone, which is no plain character. -/
theorem lowerFrom_eq_iff {word : List Char} (plain : ∀ x ∈ word, x ∈ plainCharacters) (before text : List Char) :
    lowerFrom before text = word ↔ text.map Char.toLower = word := by
  induction text generalizing before word with
  | nil => exact Iff.rfl
  | cons c rest ih =>
    -- The two special letters have no plain lower-case form, and are no Latin letters.
    have hspecial : ∀ y ∉ plainCharacters, ∀ more, y :: more ≠ word := by
      rintro y hy more rfl
      exact hy (plain y List.mem_cons_self)
    rw [lowerFrom, List.map_cons]
    split
    · rename_i hsigma
      subst hsigma
      refine iff_of_false ?_ (hspecial _ (by decide) _)
      split
      · exact hspecial _ (by decide) _
      · exact hspecial _ (by decide) _
    · split
      · rename_i hdotted
        subst hdotted
        refine iff_of_false ?_ (hspecial _ (by decide) _)
        rintro rfl
        exact absurd (plain '\u0307' (by simp)) (by decide)
      · cases word with
        | nil => exact iff_of_false nofun nofun
        | cons x word =>
          have hx := plain x List.mem_cons_self
          have hword : ∀ y ∈ word, y ∈ plainCharacters := fun y hy => plain y (List.mem_cons_of_mem x hy)
          rw [List.singleton_append, List.cons_eq_cons, List.cons_eq_cons, lowerChar_eq_iff hx, ih hword]

/-- **A text is a plain word in letters of any case** exactly if it is so in Latin letters. -/
theorem lowercase_eq_iff {word : List Char} (plain : word.all plainCharacters.contains = true) (text : String) :
    lowercase text = String.ofList word ↔ text.toList.map Char.toLower = word := by
  have hmem : ∀ x ∈ word, x ∈ plainCharacters := by simpa using plain
  rw [lowercase, String.ofList_inj, lowerFrom_eq_iff hmem]

end AdminConsole.Text
