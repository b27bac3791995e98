import Mathlib.Tactic.SplitIfs
import PageObjects.Json.Parser
import PageObjects.Json.Quote
import PageObjects.Proofs.Text.Lines

/-!
# Quoted text

A text between double quotes is printable ASCII, so that it stays on its line, its quotes and backslashes are
escaped, so that it ends with its last quote, and the JSON parser reads it as the text again, over all of
Unicode.

* `Json.Quote.Spelled`: the four ways in which a character is written.
* `Json.Quote.Escaped`: characters between quotes, with every quote and backslash escaped.
* `Json.Parser.stringFrom_encode`: what the parser reads between the quotes.
* **`Json.Quote.quotes_encode`**: what is written for a text, and that it is read back.
-/

namespace PageObjects

/-- The code of a character is no surrogate. -/
theorem toNat_valid (c : Char) : c.toNat < 0xD800 ∨ 0xDFFF < c.toNat ∧ c.toNat < 0x110000 := c.valid

theorem Text.hexValue?_hexDigit {n : Nat} (h : n < 16) : hexValue? (hexDigit n) = some n := by
  have hall : ∀ n : Fin 16, hexValue? (hexDigit n) = some n.val := by decide
  exact hall ⟨n, h⟩

namespace Json.Quote

open Text (hexDigit hexValue? hexValue?_hexDigit)

theorem units_of_lt {c : Char} (h : c.toNat < 0x10000) : units c = [c.toNat] := if_pos h

theorem units_of_not_lt {c : Char} (h : ¬ c.toNat < 0x10000) : units c =
    [0xD800 + (c.toNat - 0x10000) / 0x400, 0xDC00 + (c.toNat - 0x10000) % 0x400] := if_neg h

/-! ## Characters -/

/-- The characters that are escaped by one character, with that character. -/
def shortEscapes : List (Char × Char) :=
  [('"', '"'), ('\\', '\\'), ('\n', 'n'), ('\r', 'r'), ('\t', 't'), (Char.ofNat 0x0C, 'f'),
    (Char.ofNat 0x08, 'b')]

/-- How a character is written: as it is, by a short escape, or by the escapes of its one or two units. -/
inductive Spelled (c : Char) : List Char → Prop
  | plain (hlow : 0x20 ≤ c.toNat) (hhigh : c.toNat ≤ 0x7E) (hquote : c ≠ '"') (hslash : c ≠ '\\') :
      Spelled c [c]
  | short {mark : Char} (hescape : (c, mark) ∈ shortEscapes) : Spelled c ['\\', mark]
  | unit (hbasic : c.toNat < 0x10000) (hprint : c.toNat < 0x20 ∨ 0x7E < c.toNat)
      (hshort : ∀ mark, (c, mark) ∉ shortEscapes) : Spelled c (unitEscape c.toNat)
  | pair (hbeyond : ¬ c.toNat < 0x10000) :
      Spelled c (unitEscape (0xD800 + (c.toNat - 0x10000) / 0x400) ++
        unitEscape (0xDC00 + (c.toNat - 0x10000) % 0x400))

theorem spelled_encodeChar (c : Char) : Spelled c (encodeChar c) := by
  unfold encodeChar
  split_ifs with hself hfeed hreturn htab hform hback hprintable
  · rcases Bool.or_eq_true_iff.mp hself with h | h <;>
      (obtain rfl := eq_of_beq h; exact .short (by decide))
  · obtain rfl := eq_of_beq hfeed
    exact .short (by decide)
  · obtain rfl := eq_of_beq hreturn
    exact .short (by decide)
  · obtain rfl := eq_of_beq htab
    exact .short (by decide)
  · obtain rfl : c = Char.ofNat 0x0C := by rw [← eq_of_beq hform, Char.ofNat_toNat]
    exact .short (by decide)
  · obtain rfl : c = Char.ofNat 0x08 := by rw [← eq_of_beq hback, Char.ofNat_toNat]
    exact .short (by decide)
  · simp only [Bool.or_eq_true, beq_iff_eq, not_or] at hself
    simp only [Bool.and_eq_true, decide_eq_true_eq] at hprintable
    exact .plain hprintable.1 hprintable.2 hself.1 hself.2
  · have hshort : ∀ mark, (c, mark) ∉ shortEscapes := by
      intro mark hmem
      simp only [shortEscapes, List.mem_cons, Prod.mk.injEq, List.not_mem_nil, or_false] at hmem
      rcases hmem with ⟨rfl, -⟩ | ⟨rfl, -⟩ | ⟨rfl, -⟩ | ⟨rfl, -⟩ | ⟨rfl, -⟩ | ⟨rfl, -⟩ | ⟨rfl, -⟩ <;>
        first
        | exact absurd rfl hself
        | exact absurd rfl hfeed
        | exact absurd rfl hreturn
        | exact absurd rfl htab
        | exact absurd rfl hform
        | exact absurd rfl hback
    by_cases hbasic : c.toNat < 0x10000
    · simp only [units_of_lt hbasic, List.flatMap_singleton]
      refine .unit hbasic ?_ hshort
      simp only [Bool.and_eq_true, decide_eq_true_eq, not_and_or, Nat.not_le] at hprintable
      exact hprintable
    · simp only [units_of_not_lt hbasic, List.flatMap_cons, List.flatMap_nil, List.append_nil]
      exact .pair hbasic

theorem unitEscape_eq (unit : Nat) : unitEscape unit =
    ['\\', 'u', hexDigit (unit / 16 / 16 / 16 % 16), hexDigit (unit / 16 / 16 % 16),
      hexDigit (unit / 16 % 16), hexDigit (unit % 16)] := rfl

/-- What stands between quotes is printable. -/
theorem Spelled.printable {c d : Char} {written : List Char} (h : Spelled c written) (hd : d ∈ written) :
    0x20 ≤ d.toNat ∧ d.toNat ≤ 0x7E := by
  have hdigit : ∀ n : Fin 16, 0x20 ≤ (hexDigit n).toNat ∧ (hexDigit n).toNat ≤ 0x7E := by decide
  have hmark : ∀ escape ∈ shortEscapes, 0x20 ≤ escape.2.toNat ∧ escape.2.toNat ≤ 0x7E := by decide
  have hunit : ∀ unit, d ∈ unitEscape unit → 0x20 ≤ d.toNat ∧ d.toNat ≤ 0x7E := by
    intro unit hd
    simp only [unitEscape_eq, List.mem_cons, List.not_mem_nil, or_false] at hd
    rcases hd with rfl | rfl | rfl | rfl | rfl | rfl
    · decide
    · decide
    all_goals exact hdigit ⟨_, Nat.mod_lt _ (by decide)⟩
  cases h with
  | plain hlow hhigh hquote hslash =>
    obtain rfl := List.mem_singleton.mp hd
    exact ⟨hlow, hhigh⟩
  | short hescape =>
    simp only [List.mem_cons, List.not_mem_nil, or_false] at hd
    rcases hd with rfl | rfl
    · decide
    · exact hmark _ hescape
  | unit hbasic hprint hshort => exact hunit _ hd
  | pair hbeyond => exact (List.mem_append.mp hd).elim (hunit _) (hunit _)

/-! ## Between the quotes -/

/-- Characters between quotes: a quote or a backslash stands there only as part of an escape. -/
inductive Escaped : List Char → Prop
  | nil : Escaped []
  | plain {c : Char} {cs : List Char} (hquote : c ≠ '"') (hslash : c ≠ '\\') (h : Escaped cs) :
      Escaped (c :: cs)
  | short {mark : Char} {cs : List Char} (hmark : mark ∈ ['"', '\\', '/', 'b', 'f', 'n', 'r', 't'])
      (h : Escaped cs) : Escaped ('\\' :: mark :: cs)
  | unit {a b c d : Char} {cs : List Char} (hdigits : ∀ digit ∈ [a, b, c, d], (hexValue? digit).isSome)
      (h : Escaped cs) : Escaped ('\\' :: 'u' :: a :: b :: c :: d :: cs)

theorem Escaped.append {cs ds : List Char} (h : Escaped cs) (h' : Escaped ds) : Escaped (cs ++ ds) := by
  induction h with
  | nil => exact h'
  | plain hquote hslash _ ih => exact .plain hquote hslash ih
  | short hmark _ ih => exact .short hmark ih
  | unit hdigits _ ih => exact .unit hdigits ih

theorem escaped_unitEscape (unit : Nat) : Escaped (unitEscape unit) := by
  rw [unitEscape_eq]
  refine .unit ?_ .nil
  simp only [List.forall_mem_cons, List.not_mem_nil, false_imp_iff, implies_true,
    hexValue?_hexDigit (Nat.mod_lt _ (by decide : 0 < 16)), Option.isSome_some, and_self]

theorem Spelled.escaped {c : Char} {written : List Char} (h : Spelled c written) : Escaped written := by
  have hmarks : ∀ escape ∈ shortEscapes, escape.2 ∈ ['"', '\\', '/', 'b', 'f', 'n', 'r', 't'] := by decide
  cases h with
  | plain hlow hhigh hquote hslash => exact .plain hquote hslash .nil
  | short hescape => exact .short (hmarks _ hescape) .nil
  | unit hbasic hprint hshort => exact escaped_unitEscape _
  | pair hbeyond => exact (escaped_unitEscape _).append (escaped_unitEscape _)

theorem escaped_encode (cs : List Char) : Escaped (cs.flatMap encodeChar) := by
  induction cs with
  | nil => exact .nil
  | cons c cs ih =>
    rw [List.flatMap_cons]
    exact (spelled_encodeChar c).escaped.append ih

end Json.Quote

/-! ## What the parser reads -/

namespace Json.Parser

open Quote Text

/-- Four digits are read as their number, if a character follows them. -/
theorem unit?_hexDigits {unit : Nat} (hbound : unit < 0x10000) {rest : List Char} (hrest : rest ≠ []) :
    unit? (hexDigits 4 unit ++ rest) = some unit := by
  obtain ⟨next, rest, rfl⟩ := List.exists_cons_of_ne_nil hrest
  have hdigits : hexDigits 4 unit = [hexDigit (unit / 16 / 16 / 16 % 16), hexDigit (unit / 16 / 16 % 16),
      hexDigit (unit / 16 % 16), hexDigit (unit % 16)] := rfl
  have hnumber : ((unit / 16 / 16 / 16 % 16 * 16 + unit / 16 / 16 % 16) * 16 + unit / 16 % 16) * 16 +
      unit % 16 = unit := by omega
  rw [hdigits]
  simp only [List.cons_append, List.nil_append, unit?,
    hexValue?_hexDigit (Nat.mod_lt _ (by decide : 0 < 16)), hnumber]

/-- An escape is read as its character. -/
theorem stringFrom_escape {start fuel position length : Nat} {read rest : List Char} {c : Char}
    (h : escaped position rest = .ok (c, length)) (hrest : rest ≠ []) :
    stringFrom start (fuel + 1) read ⟨position, '\\' :: rest⟩ =
      stringFrom start fuel (c :: read) ⟨position + (length + 1), rest.drop length⟩ := by
  obtain ⟨next, rest, rfl⟩ := List.exists_cons_of_ne_nil hrest
  rw [stringFrom]
  simp only [h]
  rfl

/-- A character that stands for itself. -/
theorem stringFrom_plain {start fuel position : Nat} {read rest : List Char} {c : Char}
    (hprint : 0x20 ≤ c.toNat) (hquote : c ≠ '"') (hslash : c ≠ '\\') :
    stringFrom start (fuel + 1) read ⟨position, c :: rest⟩ =
      stringFrom start fuel (c :: read) ⟨position + 1, rest⟩ := by
  have hcontrol : ¬ c.toNat ≤ 0x1F := by omega
  rw [stringFrom]
  split
  · rename_i hrest
    cases hrest
  · rename_i hrest
    exact absurd (List.cons.inj hrest).1 hquote
  · rename_i hrest
    exact absurd (List.cons.inj hrest).1 hslash
  · rename_i hrest
    exact absurd (List.cons.inj hrest).1 hslash
  · rename_i hrest
    obtain ⟨rfl, rfl⟩ := List.cons.inj hrest
    rw [if_neg hcontrol]
    rfl

/-- The escape of a unit that is no surrogate is read as the character of the unit. -/
theorem escaped_unit {position : Nat} {rest : List Char} {c : Char} (hbasic : c.toNat < 0x10000)
    (hrest : rest ≠ []) : escaped position ('u' :: (hexDigits 4 c.toNat ++ rest)) = .ok (c, 5) := by
  have hvalid := toNat_valid c
  have hhigh : isHighSurrogate c.toNat = false := by
    simp only [isHighSurrogate, Bool.and_eq_false_iff, decide_eq_false_iff_not]
    omega
  have hlow : isLowSurrogate c.toNat = false := by
    simp only [isLowSurrogate, Bool.and_eq_false_iff, decide_eq_false_iff_not]
    omega
  have hchar : unitChar c.toNat = c := by
    rw [unitChar, hhigh, hlow]
    exact Char.ofNat_toNat c
  simp only [escaped, unit?_hexDigits hbasic hrest, hhigh, hchar, Bool.false_and, Bool.false_eq_true, if_false]
  split <;> rfl

/-- The escapes of the two units of a character beyond the basic plane are read together. -/
theorem escaped_pair {position : Nat} {rest : List Char} {c : Char} (hbeyond : ¬ c.toNat < 0x10000)
    (hrest : rest ≠ []) :
    escaped position ('u' :: (hexDigits 4 (0xD800 + (c.toNat - 0x10000) / 0x400) ++
      (unitEscape (0xDC00 + (c.toNat - 0x10000) % 0x400) ++ rest))) = .ok (c, 11) := by
  have hvalid := toNat_valid c
  have hchar : pairChar (0xD800 + (c.toNat - 0x10000) / 0x400) (0xDC00 + (c.toNat - 0x10000) % 0x400) = c := by
    have hcode : 0x10000 + (0xD800 + (c.toNat - 0x10000) / 0x400 - 0xD800) * 0x400 +
        (0xDC00 + (c.toNat - 0x10000) % 0x400 - 0xDC00) = c.toNat := by omega
    rw [pairChar, hcode, Char.ofNat_toNat]
  have hfirst : 0xD800 + (c.toNat - 0x10000) / 0x400 < 0x10000 := by omega
  have hsecond : 0xDC00 + (c.toNat - 0x10000) % 0x400 < 0x10000 := by omega
  have hhigh : isHighSurrogate (0xD800 + (c.toNat - 0x10000) / 0x400) = true := by
    simp only [isHighSurrogate, Bool.and_eq_true, decide_eq_true_eq]
    omega
  have hlow : isLowSurrogate (0xDC00 + (c.toNat - 0x10000) % 0x400) = true := by
    simp only [isLowSurrogate, Bool.and_eq_true, decide_eq_true_eq]
    omega
  generalize 0xD800 + (c.toNat - 0x10000) / 0x400 = high at hchar hfirst hhigh ⊢
  generalize 0xDC00 + (c.toNat - 0x10000) % 0x400 = low at hchar hsecond hlow ⊢
  have hlength : 5 ≤ (hexDigits 4 low ++ rest).length := by
    have hdigits : (hexDigits 4 low).length = 4 := rfl
    have hpos := List.length_pos_iff.mpr hrest
    rw [List.length_append, hdigits]
    omega
  have hdrop : (hexDigits 4 high ++ (unitEscape low ++ rest)).drop 4 =
      '\\' :: 'u' :: (hexDigits 4 low ++ rest) := rfl
  simp only [escaped, unit?_hexDigits hfirst (List.append_ne_nil_of_right_ne_nil _ hrest), hdrop, hhigh,
    decide_eq_true hlength, Bool.and_self, if_true, unit?_hexDigits hsecond hrest, hlow, hchar]

/-- What one character is written as is read as the character, if anything follows. -/
theorem stringFrom_encodeChar (start fuel position : Nat) (read : List Char) (c : Char) {rest : List Char}
    (hrest : rest ≠ []) :
    ∃ next, stringFrom start (fuel + 1) read ⟨position, encodeChar c ++ rest⟩ =
      stringFrom start fuel (c :: read) ⟨next, rest⟩ := by
  have hspelled := spelled_encodeChar c
  generalize encodeChar c = written at hspelled
  cases hspelled with
  | plain hlow hhigh hquote hslash => exact ⟨_, stringFrom_plain hlow hquote hslash⟩
  | @short mark hescape =>
    have hread : escaped position (mark :: rest) = .ok (c, 1) := by
      simp only [shortEscapes, List.mem_cons, Prod.mk.injEq, List.not_mem_nil, or_false] at hescape
      rcases hescape with ⟨rfl, rfl⟩ | ⟨rfl, rfl⟩ | ⟨rfl, rfl⟩ | ⟨rfl, rfl⟩ | ⟨rfl, rfl⟩ | ⟨rfl, rfl⟩ |
        ⟨rfl, rfl⟩ <;> rfl
    exact ⟨_, stringFrom_escape hread (List.cons_ne_nil _ _)⟩
  | unit hbasic hprint hshort =>
    exact ⟨_, stringFrom_escape (escaped_unit hbasic hrest) (List.cons_ne_nil _ _)⟩
  | pair hbeyond =>
    rw [List.append_assoc]
    exact ⟨_, stringFrom_escape (escaped_pair hbeyond hrest) (List.cons_ne_nil _ _)⟩

/-- **What is written for characters is read as these**, up to the closing quote. -/
theorem stringFrom_encode (start : Nat) (rest : List Char) : ∀ (cs read : List Char) (fuel position : Nat),
    cs.length < fuel →
    ∃ next, stringFrom start fuel read ⟨position, cs.flatMap encodeChar ++ '"' :: rest⟩ =
      .ok (String.ofList (read.reverse ++ cs), ⟨next, rest⟩)
  | [], read, fuel + 1, position, _ => by
    rw [List.append_nil]
    exact ⟨position + 1, rfl⟩
  | c :: cs, read, fuel + 1, position, hfuel => by
    have hmore : cs.flatMap encodeChar ++ '"' :: rest ≠ [] := by simp
    obtain ⟨next, hnext⟩ := stringFrom_encodeChar start fuel position read c hmore
    obtain ⟨last, hlast⟩ := stringFrom_encode start rest cs (c :: read) fuel next (Nat.lt_of_succ_lt_succ hfuel)
    refine ⟨last, ?_⟩
    rw [List.flatMap_cons, List.append_assoc, hnext, hlast, List.reverse_cons, List.append_assoc]
    rfl

end Json.Parser

namespace Json.Quote

theorem toList_encode (text : String) :
    (encode text).toList = '"' :: (text.toList.flatMap encodeChar ++ ['"']) := by
  rw [encode, String.toList_ofList, List.cons_append]

theorem length_le_encode (cs : List Char) : cs.length ≤ (cs.flatMap encodeChar).length := by
  induction cs with
  | nil => exact Nat.le_refl _
  | cons c cs ih =>
    have hpos : 0 < (encodeChar c).length := by
      have hspelled := spelled_encodeChar c
      generalize encodeChar c = written at hspelled
      cases hspelled <;> exact Nat.succ_pos _
    rw [List.flatMap_cons, List.length_append, List.length_cons]
    omega

/-- **The JSON parser reads the text again**, with whatever levels are left to it. -/
theorem parse_encode (text : String) (levels : Nat) :
    Json.parse (encode text) levels = .ok (.text text) := by
  have hfuel : text.toList.length < (text.toList.flatMap encodeChar ++ ['"']).length + 1 := by
    have hlength := length_le_encode text.toList
    rw [List.length_append]
    omega
  obtain ⟨last, hread⟩ := Parser.stringFrom_encode 0 [] text.toList [] _ 1 hfuel
  have hstring : Parser.string ⟨1, text.toList.flatMap encodeChar ++ ['"']⟩ = .ok (text, ⟨last, []⟩) := by
    refine hread.trans ?_
    rw [List.reverse_nil, List.nil_append, String.ofList_toList]
  have hvalue : ∀ fuel, Parser.value (fuel + 1) levels
      ⟨0, '"' :: (text.toList.flatMap encodeChar ++ ['"'])⟩ = .ok (.text text, ⟨last, []⟩) := by
    intro fuel
    simp only [Parser.value, Parser.Cursor.skip, List.drop_succ_cons, List.drop_zero, hstring]
  have hblanks : (Parser.Cursor.mk 0 ('"' :: (text.toList.flatMap encodeChar ++ ['"']))).skipBlanks =
      ⟨0, '"' :: (text.toList.flatMap encodeChar ++ ['"'])⟩ := rfl
  rw [Json.parse, toList_encode]
  simp only [Parser.document, hblanks, hvalue]
  rfl

/-- The code is the text as JSON quotes it in ASCII. -/
structure Quotes (code text : String) : Prop where
  /-- All of it is printable ASCII. -/
  printable : ∀ c ∈ code.toList, 0x20 ≤ c.toNat ∧ c.toNat ≤ 0x7E
  /-- It is on one line. -/
  line : Text.lines code = [code]
  /-- It stands between double quotes, and every quote and backslash between these is escaped. -/
  quoted : ∃ inner, code.toList = '"' :: (inner ++ ['"']) ∧ Escaped inner
  /-- Read as JSON, it is the text. -/
  parsed : ∀ levels, Json.parse code levels = .ok (.text text)

/-- **What is written for a text.** -/
theorem quotes_encode (text : String) : Quotes (encode text) text := by
  have hprintable : ∀ c ∈ (encode text).toList, 0x20 ≤ c.toNat ∧ c.toNat ≤ 0x7E := by
    intro c hc
    rw [toList_encode, List.mem_cons, List.mem_append, List.mem_flatMap, List.mem_singleton] at hc
    rcases hc with rfl | ⟨source, -, hc⟩ | rfl
    · decide
    · exact (spelled_encodeChar source).printable hc
    · decide
  refine ⟨hprintable, Text.lines_unbroken ?_ ?_, ⟨_, toList_encode text, escaped_encode _⟩, parse_encode text⟩
  · intro hnil
    have hlist := toList_encode text
    rw [hnil] at hlist
    exact absurd hlist (by simp)
  · intro c hc
    obtain ⟨hlow, hhigh⟩ := hprintable c hc
    simp only [Text.isLineBreak, Bool.or_eq_false_iff, Bool.and_eq_false_iff, decide_eq_false_iff_not,
      beq_eq_false_iff_ne]
    omega

end Json.Quote
end PageObjects
