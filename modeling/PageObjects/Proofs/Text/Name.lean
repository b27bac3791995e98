import PageObjects.Proofs.Association
import PageObjects.Text.Capital
import PageObjects.Text.Identifier

/-!
# Characters of names

What the characters of identifiers, of indices and of capitalized names can be, as far as generated
code relies on it: a text that has to be told from others by how it begins is told by the first
character that the others cannot hold.

* `blank_notMem_of_isIdentifier`, `isDigit_of_mem_index`: a name and an index hold no blank.
* `separator_notMem_lower`, `separator_mem_capitalize`: changing the case neither brings separators
  into a text nor takes them out.
* `prefix_of_notMem`: a text that does not hold a separator ends before it.
-/

namespace PageObjects.Text

/-! ## Identifiers and indices -/

/-- A blank stands in no identifier. -/
theorem blank_notMem_of_isIdentifier {name : String} (h : isIdentifier name = true) :
    ' ' ∉ name.toList := by
  intro hblank
  unfold isIdentifier at h
  split at h
  · exact absurd h (by simp)
  · rename_i first rest htext
    rw [htext] at hblank
    simp only [Bool.and_eq_true, List.all_eq_true] at h
    rcases List.mem_cons.mp hblank with rfl | hrest
    · exact absurd h.1 (by decide)
    · exact absurd (h.2 _ hrest) (by decide)

/-- An index is written in digits. -/
theorem isDigit_of_mem_index {n : Nat} {c : Char} (h : c ∈ (toString n).toList) :
    c.isDigit = true := by
  rw [Nat.toString_eq_repr, Nat.toList_repr] at h
  exact Nat.isDigit_of_mem_toDigits (by decide) (by decide) h

/-! ## Separators in capitalized names -/

/-- The characters that stand between the parts of names. -/
def separators : List Char := ['/', '-', '_']

variable {separator : Char}

theorem separator_cases (h : separator ∈ separators) :
    separator = '/' ∨ separator = '-' ∨ separator = '_' := by
  simpa [separators] using h

/-- Every run of either case lies on one side of each separator. -/
theorem caseRuns_apart (h : separator ∈ separators) :
    ∀ run ∈ upperRuns.toList ++ lowerRuns.toList,
      (separator.toNat : Int) < run.first + run.shift ∨
        (run.last : Int) + run.shift < separator.toNat := by
  rcases separator_cases h with rfl | rfl | rfl <;> decide +kernel

theorem separator_notMem_upperExpansions (h : separator ∈ separators) :
    ∀ entry ∈ upperExpansions, separator ∉ entry.2.map Char.ofNat := by
  rcases separator_cases h with rfl | rfl | rfl <;> decide

theorem ofNat_image?_ne_separator {run : CaseRun} {n m : Nat}
    (hrun : run ∈ upperRuns.toList ++ lowerRuns.toList) (hseparator : separator ∈ separators)
    (h : run.image? n = some m) : Char.ofNat m ≠ separator := by
  have hpositive : separator.toNat ≠ 0 := by
    rcases separator_cases hseparator with rfl | rfl | rfl <;> decide
  have hbetween := image?_between h
  refine ofNat_ne hpositive ?_
  rcases caseRuns_apart hseparator run hrun with habove | hbelow <;> omega

/-- A separator has no case, and no other character is changed into it. -/
theorem separator_mem_upperChar {c : Char} (hseparator : separator ∈ separators) :
    separator ∈ upperChar c ↔ c = separator := by
  unfold upperChar
  split
  · rename_i hascii
    have hall : ∀ n : Fin 128,
        separator = (Char.ofNat n).toUpper ↔ Char.ofNat n = separator := by
      rcases separator_cases hseparator with rfl | rfl | rfl <;> decide
    have hc := hall ⟨c.toNat, by simpa [isAscii] using hascii⟩
    rw [Char.ofNat_toNat] at hc
    rw [List.mem_singleton, hc]
  · rename_i hbeyond
    have hne : c ≠ separator := by
      rintro rfl
      refine hbeyond ?_
      rcases separator_cases hseparator with rfl | rfl | rfl <;> decide
    simp only [hne, iff_false]
    split
    · rename_i codes hcodes
      exact separator_notMem_upperExpansions hseparator (c.toNat, codes) (mem_of_lookup hcodes)
    · split
      · rename_i n hn
        rw [← Array.findSome?_toList] at hn
        obtain ⟨run, hrun, himage⟩ := List.exists_of_findSome?_eq_some hn
        have himage' :=
          ofNat_image?_ne_separator (List.mem_append_left _ hrun) hseparator himage
        simpa using himage'.symm
      · simpa using hne.symm

/-- Only a separator has itself in its lower case. -/
theorem separator_notMem_lowerChar {c : Char} (hseparator : separator ∈ separators)
    (h : c ≠ separator) : separator ∉ lowerChar c := by
  unfold lowerChar
  split
  · rename_i hascii
    have hall : ∀ n : Fin 128, Char.ofNat n ≠ separator → (Char.ofNat n).toLower ≠ separator := by
      rcases separator_cases hseparator with rfl | rfl | rfl <;> decide
    have hc := hall ⟨c.toNat, by simpa [isAscii] using hascii⟩
    rw [Char.ofNat_toNat] at hc
    simpa using (hc h).symm
  · split
    · rcases separator_cases hseparator with rfl | rfl | rfl <;> decide
    · split
      · rename_i n hn
        rw [← Array.findSome?_toList] at hn
        obtain ⟨run, hrun, himage⟩ := List.exists_of_findSome?_eq_some hn
        have himage' :=
          ofNat_image?_ne_separator (List.mem_append_right _ hrun) hseparator himage
        simpa using himage'.symm
      · simpa using h.symm

theorem separator_notMem_lowerFrom {before cs : List Char} (hseparator : separator ∈ separators)
    (h : separator ∉ cs) : separator ∉ lowerFrom before cs := by
  induction cs generalizing before with
  | nil => simp [lowerFrom]
  | cons c rest ih =>
    rw [List.mem_cons, not_or] at h
    rw [lowerFrom, List.mem_append, not_or]
    refine ⟨?_, ih h.2⟩
    split
    · have hall : ∀ code ∈ [0x3C2, 0x3C3], separator ≠ Char.ofNat code := by
        rcases separator_cases hseparator with rfl | rfl | rfl <;> decide
      rw [List.mem_singleton]
      exact hall _ (by split <;> simp)
    · exact separator_notMem_lowerChar hseparator (Ne.symm h.1)

/-- A text without a separator has none in lower case. -/
theorem separator_notMem_lower {text : String} (hseparator : separator ∈ separators)
    (h : separator ∉ text.toList) : separator ∉ (lower text).toList := by
  rw [lower, String.toList_ofList]
  exact separator_notMem_lowerFrom hseparator h

/-- A text holds a separator exactly when the capitalized text does. -/
theorem separator_mem_capitalize {text : String} (hseparator : separator ∈ separators) :
    separator ∈ (capitalize text).toList ↔ separator ∈ text.toList := by
  unfold capitalize
  split
  · rename_i htext
    rw [htext]
    simp
  · rename_i c rest htext
    rw [htext, String.toList_ofList, List.mem_append, List.mem_cons,
      separator_mem_upperChar hseparator, eq_comm]

/-! ## Separators -/

/-- A text that does not hold a separator, and stands at the front of a text with one, ends before
the separator. -/
theorem prefix_of_notMem {front before rest : List Char} {separator : Char}
    (h : front <+: before ++ separator :: rest) (hfront : separator ∉ front) : front <+: before := by
  rcases List.prefix_or_prefix_of_prefix h (List.prefix_append before _) with hshort | ⟨tail, rfl⟩
  · exact hshort
  · cases tail with
    | nil => simp
    | cons c tail =>
      rw [List.prefix_append_right_inj, List.cons_prefix_cons] at h
      exact absurd (by simp [h.1]) hfront

end PageObjects.Text
