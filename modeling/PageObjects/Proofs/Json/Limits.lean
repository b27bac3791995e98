import Mathlib.Data.List.TakeWhile
import Mathlib.Tactic.ByContra
import Mathlib.Tactic.FinCases
import PageObjects.Json.Parser
import PageObjects.Proofs.Json.Ascii

/-!
# Texts at the limits of the reader

A text of digits is an integer up to the limit. Beyond the limit it is refused apart from all faults
of form. So is a text that opens more lists than the levels that are left to the reader, whatever follows.

* `Json.Parser.IsNumeral`: the bytes of a text of digits.
* `Json.Parser.document_digits`: its value.
* `Json.Parser.document_brackets`: a text that opens too many lists.
-/

namespace PageObjects

namespace Json.Parser

/-- Bytes that write decimal digits, the first of them not zero. -/
structure IsNumeral (bytes : List UInt8) : Prop where
  digits : ∀ byte ∈ bytes, 48 ≤ byte.toNat ∧ byte.toNat ≤ 57
  nonzero : bytes.head? ≠ some 48

namespace IsNumeral

open Encoding

variable {bytes : List UInt8} (h : IsNumeral bytes)
include h

theorem plain : IsPlain bytes := by
  intro byte hbyte
  have hdigit := h.digits byte hbyte
  omega

theorem digit_of_mem {ch : Char} (hch : ch ∈ asciiChars bytes) : Text.isAsciiDigit ch := by
  have hall : ∀ n : Fin 58, 48 ≤ n.val → Text.isAsciiDigit (Char.ofNat n) := by decide
  obtain ⟨byte, hbyte, rfl⟩ := List.mem_map.mp hch
  have hdigit := h.digits byte hbyte
  exact hall ⟨byte.toNat, by omega⟩ hdigit.1

theorem head?_ne : (asciiChars bytes).head? ≠ some '0' := by
  have hall : ∀ n : Fin 58, Char.ofNat n = '0' → n.val = 48 := by decide
  intro hhead
  rw [asciiChars, List.head?_map, Option.map_eq_some_iff] at hhead
  obtain ⟨byte, hbyte, hzero⟩ := hhead
  have hdigit := h.digits byte (List.mem_of_head? hbyte)
  have hcode := hall ⟨byte.toNat, by omega⟩ hzero
  exact h.nonzero (hbyte.trans (congrArg some (UInt8.toNat_inj.mp hcode)))

end IsNumeral

variable {cs : List Char}

theorem not_isBlank_of_digit {ch : Char} (h : Text.isAsciiDigit ch) : isBlank ch = false := by
  by_contra hblank
  rw [Bool.not_eq_false] at hblank
  simp only [isBlank, Bool.or_eq_true, beq_iff_eq] at hblank
  rcases hblank with ((rfl | rfl) | rfl) | rfl <;> exact absurd h (by decide)

theorem wholePart_digits (hdigits : ∀ ch ∈ cs, Text.isAsciiDigit ch) (hzero : cs.head? ≠ some '0') :
    wholePart cs = cs := by
  unfold wholePart
  split
  · exact absurd rfl hzero
  · exact List.takeWhile_eq_self_iff.mpr hdigits

/-- No constant starts with a digit. -/
theorem scalar_digit {position : Nat} {first : Char} (hfirst : Text.isAsciiDigit first) :
    scalar ⟨position, first :: cs⟩ = number ⟨position, first :: cs⟩ := by
  have hnone : constants.find? (fun constant =>
      constant.1.toList.isPrefixOf (first :: cs)) = none := by
    rw [List.find?_eq_none]
    intro constant hconstant hprefix
    obtain ⟨tail, htail⟩ := List.isPrefixOf_iff_prefix.mp hprefix
    fin_cases hconstant
    all_goals
      obtain ⟨rfl, -⟩ := List.cons.inj htail
      exact absurd hfirst (by decide)
  rw [scalar, hnone]

/-- A value that starts with a digit is a number. -/
theorem value_digit {fuel levels position : Nat} {first : Char}
    (hfirst : Text.isAsciiDigit first) :
    value (fuel + 1) levels ⟨position, first :: cs⟩ = number ⟨position, first :: cs⟩ := by
  rw [← scalar_digit hfirst, value.eq_def]
  dsimp only
  split
  · rename_i hnil
    exact absurd hnil (by simp)
  all_goals first
    | rfl
    | rename_i hopen
      obtain ⟨rfl, -⟩ := List.cons.inj hopen
      exact absurd hfirst (by decide)

/-- A number that is all of the text. -/
theorem number_digits (hdigits : ∀ ch ∈ cs, Text.isAsciiDigit ch) (hzero : cs.head? ≠ some '0')
    (hne : cs ≠ []) : number ⟨0, cs⟩ =
      if Text.digitLimit < cs.length then .error (.beyond .oversizedInteger)
      else .ok (.int (digitsValue cs), ⟨cs.length, []⟩) := by
  have hsign : (cs.head? == some '-') = false := by
    cases cs with
    | nil => rfl
    | cons ch cs =>
      rw [beq_eq_false_iff_ne]
      rintro hminus
      obtain rfl := Option.some.inj hminus
      exact absurd (hdigits '-' List.mem_cons_self) (by decide)
  have hafter : Cursor.skip ⟨0, cs⟩ cs.length = ⟨cs.length, []⟩ := by
    rw [Cursor.skip, Nat.zero_add, List.drop_length]
  rw [number]
  simp only [hsign, Bool.false_eq_true, if_false, wholePart_digits hdigits hzero,
    List.isEmpty_eq_false_iff.mpr hne, hafter, fractionPart, exponentPart, List.isEmpty_nil, if_true,
    Int.ofNat_eq_natCast]

/-- **A text of digits is an integer, unless it has more digits than can be read.** -/
theorem document_digits {levels : Nat} (hdigits : ∀ ch ∈ cs, Text.isAsciiDigit ch)
    (hzero : cs.head? ≠ some '0') (hne : cs ≠ []) : document cs levels =
      if Text.digitLimit < cs.length then .error (.beyond .oversizedInteger)
      else .ok (.int (digitsValue cs)) := by
  obtain ⟨first, rest, rfl⟩ := List.exists_cons_of_ne_nil hne
  have hfirst := hdigits first List.mem_cons_self
  have hstart : (Cursor.mk 0 (first :: rest)).skipBlanks = ⟨0, first :: rest⟩ := by
    rw [Cursor.skipBlanks, List.takeWhile_cons, not_isBlank_of_digit hfirst]
    rfl
  rw [document, hstart, value_digit hfirst, number_digits hdigits hzero hne]
  by_cases hlimit : Text.digitLimit < (first :: rest).length
  · rw [if_pos hlimit, if_pos hlimit]
  · rw [if_neg hlimit, if_neg hlimit]
    rfl

/-! ## Opening brackets -/

theorem skipBlanks_bracket (position : Nat) (rest : List Char) :
    Cursor.skipBlanks ⟨position, '[' :: rest⟩ = ⟨position, '[' :: rest⟩ := rfl

/-- A value that opens more lists than there are levels is too deep. Each level takes two steps. -/
theorem value_brackets {fuel levels n position : Nat} {rest : List Char} (hfuel : 2 * levels < fuel)
    (hdeep : levels < n) :
    value fuel levels ⟨position, List.replicate n '[' ++ rest⟩ = .error (.beyond .tooDeep) := by
  induction levels generalizing fuel n position with
  | zero =>
    obtain ⟨fuel, rfl⟩ := Nat.exists_eq_add_of_lt hfuel
    obtain ⟨n, rfl⟩ := Nat.exists_eq_add_of_lt hdeep
    rfl
  | succ levels ih =>
    obtain ⟨fuel, rfl⟩ : ∃ k, fuel = k + 2 := ⟨fuel - 2, by omega⟩
    obtain ⟨n, rfl⟩ : ∃ k, n = k + 2 := ⟨n - 2, by omega⟩
    have hinner := @ih fuel (n + 1) (position + 1) (by omega) (by omega)
    rw [List.replicate_succ, List.cons_append] at hinner
    rw [List.replicate_succ, List.replicate_succ, List.cons_append, List.cons_append]
    simp only [value, Cursor.skip, List.drop_succ_cons, List.drop_zero, skipBlanks_bracket, items, hinner]
    rfl

/-- **A text that opens more lists than there are levels is beyond the reader**, whatever follows. -/
theorem document_brackets {levels n : Nat} (hdeep : levels < n) (rest : List Char) :
    document (List.replicate n '[' ++ rest) levels = .error (.beyond .tooDeep) := by
  obtain ⟨m, rfl⟩ := Nat.exists_eq_add_of_lt hdeep
  have hfuel : 2 * levels < 2 * (List.replicate (levels + m + 1) '[' ++ rest).length + 1 := by
    rw [List.length_append, List.length_replicate]
    omega
  have hvalue := @value_brackets _ levels (levels + m + 1) 0 rest hfuel hdeep
  rw [List.replicate_succ, List.cons_append] at hvalue ⊢
  rw [document, skipBlanks_bracket, hvalue]

end Json.Parser
end PageObjects
