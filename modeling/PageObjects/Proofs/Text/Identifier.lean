import PageObjects.Proofs.Text.Name

/-!
# Identifiers made of identifiers

The name of a getter is made of the capitalized name of its element. An identifier stays one when it is
capitalized and stands behind a word: the upper case of a character that may start an identifier consists of
characters that may continue one, also where it is several characters, and where it leaves ASCII or comes
into it.

* `isIdentifier_append`: an identifier goes on with characters that may continue one.
* `continuesIdentifier_of_mem_upperChar`: these are the characters of an upper case.
* **`isIdentifier_getter`**: the name of a getter is an identifier.
-/

namespace PageObjects.Text

/-! ## Characters of identifiers -/

theorem continuesIdentifier_of_starts {c : Char} (h : startsIdentifier c = true) :
    continuesIdentifier c = true := by
  rw [continuesIdentifier, h, Bool.true_or]

theorem isIdentifier_iff {text : String} : isIdentifier text = true ↔ ∃ first rest,
    text.toList = first :: rest ∧ startsIdentifier first = true ∧
      ∀ c ∈ rest, continuesIdentifier c = true := by
  unfold isIdentifier
  cases text.toList with
  | nil => simp
  | cons first rest =>
    rw [Bool.and_eq_true, List.all_eq_true]
    constructor
    · exact fun h => ⟨first, rest, rfl, h⟩
    · rintro ⟨first', rest', htext, h⟩
      obtain ⟨rfl, rfl⟩ := List.cons.inj htext
      exact h

/-- An identifier goes on with characters that may continue one. -/
theorem isIdentifier_append {front back : String} (h : isIdentifier front = true)
    (hback : ∀ c ∈ back.toList, continuesIdentifier c = true) : isIdentifier (front ++ back) = true := by
  obtain ⟨first, rest, hfront, hfirst, hrest⟩ := isIdentifier_iff.mp h
  refine isIdentifier_iff.mpr ⟨first, rest ++ back.toList, ?_, hfirst, ?_⟩
  · rw [String.toList_append, hfront, List.cons_append]
  · exact List.forall_mem_append.mpr ⟨hrest, hback⟩

/-! ## Ranges of identifiers -/

namespace Ranges

variable {table : Ranges} {n : Nat}

/-- One of the ranges holds the code points from `first` to `last`. The bounds are compared as Booleans, so
that the kernel goes through long tables quickly. -/
def spans (table : Ranges) (first last : Nat) : Bool :=
  table.toList.any fun range => range.1.ble first && last.ble range.2

/-- The table is one of characters beyond ASCII. -/
def IsBeyondAscii (table : Ranges) : Prop := ∀ range ∈ table.toList,
  128 ≤ range.1 ∧ (range.2 < 0xD800 ∨ 0xDFFF < range.1 ∧ range.2 < 0x110000)

instance (table : Ranges) : Decidable table.IsBeyondAscii :=
  inferInstanceAs (Decidable (∀ range ∈ table.toList,
    128 ≤ range.1 ∧ (range.2 < 0xD800 ∨ 0xDFFF < range.1 ∧ range.2 < 0x110000)))

theorem spans_iff {first last : Nat} : table.spans first last = true ↔
    ∃ range ∈ table.toList, range.1 ≤ first ∧ last ≤ range.2 := by
  simp only [spans, List.any_eq_true, Bool.and_eq_true, Nat.ble_eq]

theorem spans_of_mem {first last : Nat} (h : table.spans first last = true)
    (hn : first ≤ n ∧ n ≤ last) : table.spans n n = true := by
  obtain ⟨range, hrange, hfirst, hlast⟩ := spans_iff.mp h
  exact spans_iff.mpr ⟨range, hrange, by omega, by omega⟩

theorem has_iff {c : Char} : table.has c = true ↔
    ∃ range ∈ table.toList, range.1 ≤ c.toNat ∧ c.toNat ≤ range.2 := by
  rw [has, ← Array.any_toList, List.any_eq_true]
  simp only [Bool.and_eq_true, decide_eq_true_eq]

/-- A code point of such a table is a character beyond ASCII, and one of the table. -/
theorem IsBeyondAscii.ofNat (h : table.IsBeyondAscii) (hn : table.spans n n = true) :
    isAscii (Char.ofNat n) = false ∧ table.has (Char.ofNat n) = true := by
  obtain ⟨range, hrange, hfirst, hlast⟩ := spans_iff.mp hn
  obtain ⟨hascii, hvalid⟩ := h range hrange
  have hchar : n.isValidChar := by
    unfold Nat.isValidChar
    omega
  have hnat : (Char.ofNat n).toNat = n := by
    have hcode : Char.ofNat n = Char.ofNatAux n hchar := dif_pos hchar
    rw [hcode]
    rfl
  rw [isAscii, has_iff, hnat, decide_eq_false_iff_not]
  exact ⟨by omega, range, hrange, hfirst, hlast⟩

end Ranges

theorem identifierStarts_beyondAscii : Ranges.IsBeyondAscii identifierStarts := by decide +kernel

theorem identifierTails_beyondAscii : Ranges.IsBeyondAscii identifierTails := by decide +kernel

theorem startsIdentifier_ofNat {n : Nat} (h : Ranges.spans identifierStarts n n = true) :
    startsIdentifier (Char.ofNat n) = true := by
  obtain ⟨hbeyond, hhas⟩ := identifierStarts_beyondAscii.ofNat h
  rw [startsIdentifier, hbeyond, if_neg Bool.false_ne_true, hhas]

theorem continuesIdentifier_ofNat {n : Nat} (h : Ranges.spans identifierTails n n = true) :
    continuesIdentifier (Char.ofNat n) = true := by
  obtain ⟨hbeyond, hhas⟩ := identifierTails_beyondAscii.ofNat h
  rw [continuesIdentifier, hbeyond, if_neg Bool.false_ne_true, hhas, Bool.or_true]

/-! ## Capitalized identifiers -/

theorem startsIdentifier_toUpper {c : Char} (hascii : isAscii c = true)
    (h : startsIdentifier c = true) : startsIdentifier c.toUpper = true := by
  have hall : ∀ n : Fin 128, startsIdentifier (Char.ofNat n) = true →
      startsIdentifier (Char.ofNat n).toUpper = true := by decide
  have hc := hall ⟨c.toNat, by simpa [isAscii] using hascii⟩
  rw [Char.ofNat_toNat] at hc
  exact hc h

/-- An upper case of several characters is made of ASCII letters, of letters beyond and of marks. -/
theorem upperExpansions_spanned : ∀ entry ∈ upperExpansions, ∀ code ∈ entry.2,
    isAsciiLetter (Char.ofNat code) = true ∨ Ranges.spans identifierStarts code code = true ∨
      Ranges.spans identifierTails code code = true := by decide +kernel

/-- The upper cases of a run start identifiers, with those between them, unless it is that of a letter with
an ASCII upper case, the Greek one with gaps, or the one of the circled letters. -/
theorem upperRuns_spanned : ∀ run ∈ upperRuns.toList,
    Ranges.spans identifierStarts (run.first + run.shift).toNat (run.last + run.shift).toNat = true ∨
    (run.first = run.last ∧ (run.first + run.shift).toNat ∈ ['I'.toNat, 'S'.toNat]) ∨
    (run.first = 0x1F51 ∧ run.last = 0x1F57 ∧ run.step = 2 ∧ run.shift = 8) ∨
    (run.first = 0x24D0 ∧ run.last = 0x24E9) := by decide +kernel

/-- Circled letters start no identifiers. -/
theorem identifierStarts_circled : ∀ range ∈ identifierStarts.toList,
    range.2 < 0x24D0 ∨ 0x24E9 < range.1 := by decide +kernel

theorem isAscii_of_isAsciiLetter {c : Char} (h : isAsciiLetter c = true) : isAscii c = true := by
  have hbound : ∀ last : Char, last.toNat < 128 → c ≤ last → isAscii c = true := by
    intro last hlast hle
    have hnat : c.toNat ≤ last.toNat := UInt32.le_iff_toNat_le.mp hle
    exact decide_eq_true (by omega)
  unfold isAsciiLetter at h
  simp only [Bool.or_eq_true, Bool.and_eq_true, decide_eq_true_eq] at h
  rcases h with ⟨-, hlast⟩ | ⟨-, hlast⟩
  · exact hbound 'z' (by decide) hlast
  · exact hbound 'Z' (by decide) hlast

theorem startsIdentifier_of_isAsciiLetter {c : Char} (h : isAsciiLetter c = true) :
    startsIdentifier c = true := by
  rw [startsIdentifier, isAscii_of_isAsciiLetter h, if_pos rfl, h, Bool.true_or]

theorem upperExpansions_continue {code : Nat} {codes : List Nat} (h : (code, codes) ∈ upperExpansions) :
    ∀ c ∈ codes.map Char.ofNat, continuesIdentifier c = true := by
  intro c hc
  obtain ⟨image, himage, rfl⟩ := List.mem_map.mp hc
  rcases upperExpansions_spanned _ h image himage with hletter | hstart | htail
  · exact continuesIdentifier_of_starts (startsIdentifier_of_isAsciiLetter hletter)
  · exact continuesIdentifier_of_starts (startsIdentifier_ofNat hstart)
  · exact continuesIdentifier_ofNat htail

/-- The upper case of a start of identifiers is one, when it is a character beyond ASCII. -/
theorem startsIdentifier_image {run : CaseRun} {c : Char} {n : Nat} (hrun : run ∈ upperRuns.toList)
    (himage : run.image? c.toNat = some n) (hbeyond : isAscii c = false)
    (h : startsIdentifier c = true) : startsIdentifier (Char.ofNat n) = true := by
  have hbetween := image?_between himage
  unfold CaseRun.image? at himage
  split at himage
  · rename_i hin
    simp only [Bool.and_eq_true, decide_eq_true_eq, beq_iff_eq] at hin
    obtain ⟨⟨hfirst, hlast⟩, hstep⟩ := hin
    obtain rfl := Option.some.inj himage
    have hnat : Int.ofNat c.toNat = (c.toNat : Int) := rfl
    rcases upperRuns_spanned run hrun with hspans | ⟨hsingle, hletter⟩ | hgreek | ⟨hcircled, hcircled'⟩
    · exact startsIdentifier_ofNat (Ranges.spans_of_mem hspans (by omega))
    · have hcode : (Int.ofNat c.toNat + run.shift).toNat = (run.first + run.shift).toNat := by omega
      have hstarts : ∀ code ∈ ['I'.toNat, 'S'.toNat], startsIdentifier (Char.ofNat code) = true := by
        decide
      rw [hcode]
      exact hstarts _ hletter
    · obtain ⟨hfirst', hlast', hstep', hshift⟩ := hgreek
      rw [hfirst', hstep'] at hstep
      rw [hshift]
      have hcodes : (Int.ofNat c.toNat + 8).toNat ∈ [0x1F59, 0x1F5B, 0x1F5D, 0x1F5F] := by
        simp only [List.mem_cons, List.not_mem_nil, or_false]
        omega
      have hspans : ∀ code ∈ [0x1F59, 0x1F5B, 0x1F5D, 0x1F5F],
          Ranges.spans identifierStarts code code = true := by decide +kernel
      exact startsIdentifier_ofNat (hspans _ hcodes)
    · rw [startsIdentifier, hbeyond, if_neg Bool.false_ne_true, Ranges.has_iff] at h
      obtain ⟨range, hrange, hbelow, habove⟩ := h
      have hapart := identifierStarts_circled range hrange
      omega
  · exact absurd himage (by simp)

/-- **The upper case of a start of identifiers continues one**, in each of its characters. -/
theorem continuesIdentifier_of_mem_upperChar {c d : Char} (h : startsIdentifier c = true)
    (hd : d ∈ upperChar c) : continuesIdentifier d = true := by
  unfold upperChar at hd
  split at hd
  · rename_i hascii
    obtain rfl := List.mem_singleton.mp hd
    exact continuesIdentifier_of_starts (startsIdentifier_toUpper hascii h)
  · rename_i hbeyond
    rw [Bool.not_eq_true] at hbeyond
    split at hd
    · rename_i codes hcodes
      exact upperExpansions_continue (mem_of_lookup hcodes) d hd
    · split at hd
      · rename_i n hn
        rw [← Array.findSome?_toList] at hn
        obtain ⟨run, hrun, himage⟩ := List.exists_of_findSome?_eq_some hn
        obtain rfl := List.mem_singleton.mp hd
        exact continuesIdentifier_of_starts (startsIdentifier_image hrun himage hbeyond h)
      · obtain rfl := List.mem_singleton.mp hd
        exact continuesIdentifier_of_starts h

/-- A capitalized identifier continues an identifier. -/
theorem continuesIdentifier_of_mem_capitalize {name : String} (h : isIdentifier name = true) :
    ∀ c ∈ (capitalize name).toList, continuesIdentifier c = true := by
  obtain ⟨first, rest, hname, hfirst, hrest⟩ := isIdentifier_iff.mp h
  rw [capitalize, hname, String.toList_ofList]
  exact List.forall_mem_append.mpr
    ⟨fun c hc => continuesIdentifier_of_mem_upperChar hfirst hc, hrest⟩

/-- **The name of a getter is an identifier** when that of its element is. -/
theorem isIdentifier_getter {name : String} (h : isIdentifier name = true) :
    isIdentifier ("get" ++ capitalize name) = true ∧
      isIdentifier ("get" ++ capitalize name ++ "Element") = true := by
  have hget : isIdentifier ("get" ++ capitalize name) = true :=
    isIdentifier_append (by decide) (continuesIdentifier_of_mem_capitalize h)
  exact ⟨hget, isIdentifier_append hget (List.all_eq_true.mp (by decide))⟩

end PageObjects.Text
