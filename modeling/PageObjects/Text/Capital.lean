import PageObjects.Text.Case

/-!
# Capitalized names

Names of types are capitalized (specification, 4.3). No upper case begins with a small `r`, so a line of
code that begins with the name of a type is never taken for one that returns.

* `capitalize_head?_ne`: a capitalized name does not begin with a small `r`.
-/

namespace PageObjects.Text

theorem ofNat_ne {n : Nat} {c : Char} (hzero : c.toNat ≠ 0) (h : n ≠ c.toNat) :
    Char.ofNat n ≠ c := by
  intro he
  have hnat : (Char.ofNat n).toNat = c.toNat := congrArg Char.toNat he
  by_cases hvalid : n.isValidChar
  · have hcode : Char.ofNat n = Char.ofNatAux n hvalid := dif_pos hvalid
    rw [hcode] at hnat
    exact h hnat
  · -- codes of no character stand for the zero character
    have hcode : Char.ofNat n = ⟨0, by decide⟩ := dif_neg hvalid
    rw [hcode] at hnat
    exact hzero hnat.symm

theorem toUpper_ne_r {c : Char} (h : isAscii c = true) : c.toUpper ≠ 'r' := by
  have hall : ∀ n : Fin 128, (Char.ofNat n).toUpper ≠ 'r' := by decide
  have hc := hall ⟨c.toNat, by simpa [isAscii] using h⟩
  rwa [Char.ofNat_toNat] at hc

/-- An upper case of several characters begins, and not with a small `r`. -/
theorem upperExpansions_head : ∀ entry ∈ upperExpansions,
    (entry.2.map Char.ofNat).head?.any (· != 'r') = true := by decide

/-- Every run of upper cases lies on one side of the small `r`. -/
theorem upperRuns_apart : ∀ run ∈ upperRuns.toList,
    (run.last : Int) + run.shift < 'r'.toNat ∨ ('r'.toNat : Int) < run.first + run.shift := by
  decide +kernel

/-- The image of a code lies between the images of the ends of its run. -/
theorem image?_between {run : CaseRun} {n m : Nat} (h : run.image? n = some m) :
    (run.first : Int) + run.shift ≤ m ∧ ((m : Int) ≤ run.last + run.shift ∨ m = 0) := by
  unfold CaseRun.image? at h
  split at h
  · rename_i hin
    simp only [Bool.and_eq_true, decide_eq_true_eq] at hin
    obtain rfl := Option.some.inj h
    have hn : Int.ofNat n = (n : Int) := rfl
    omega
  · exact absurd h (by simp)

theorem image?_ne_r {run : CaseRun} {n m : Nat} (hrun : run ∈ upperRuns.toList)
    (h : run.image? n = some m) : m ≠ 'r'.toNat := by
  have hr : 0 < 'r'.toNat := by decide
  have hbetween := image?_between h
  rcases upperRuns_apart run hrun with hbelow | habove <;> omega

/-- The upper case of a character begins, and not with a small `r`. -/
theorem upperChar_head (c : Char) : ∃ first more, upperChar c = first :: more ∧ first ≠ 'r' := by
  unfold upperChar
  split
  · rename_i hascii
    exact ⟨c.toUpper, [], rfl, toUpper_ne_r hascii⟩
  · rename_i hbeyond
    split
    · rename_i codes hcodes
      obtain ⟨before, after, hentries, -⟩ := List.lookup_eq_some_iff.mp hcodes
      have hhead := upperExpansions_head (c.toNat, codes) (by rw [hentries]; simp)
      cases codes with
      | nil => exact absurd hhead (by simp)
      | cons code codes => exact ⟨_, _, rfl, by simpa using hhead⟩
    · split
      · rename_i n hn
        rw [← Array.findSome?_toList] at hn
        obtain ⟨run, hrun, himage⟩ := List.exists_of_findSome?_eq_some hn
        exact ⟨Char.ofNat n, [], rfl, ofNat_ne (by decide) (image?_ne_r hrun himage)⟩
      · refine ⟨c, [], rfl, ?_⟩
        rintro rfl
        exact hbeyond (by decide)

/-- A capitalized name does not begin with a small `r`. -/
theorem capitalize_head?_ne (text : String) : (capitalize text).toList.head? ≠ some 'r' := by
  unfold capitalize
  split
  · simp
  · rename_i c rest htext
    obtain ⟨first, more, hupper, hfirst⟩ := upperChar_head c
    simpa [hupper] using hfirst

end PageObjects.Text
