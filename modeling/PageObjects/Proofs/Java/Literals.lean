import Mathlib.Data.Rat.Cast.Defs
import PageObjects.Compose.Operand
import PageObjects.Proofs.Document.Grammar
import PageObjects.Proofs.Json.Binary64
import PageObjects.Proofs.Json.Quote

/-!
# Constants in documents and in code

A document gives a constant as a JSON value, and code has it as a literal. Both are read here as what they mean:
a Boolean, a number, or a text in UTF-16 units, as strings of code are made of these. A literal means what its
value does, over all of Unicode and for integers of any size. With one exception: a number with a point becomes a
Boolean if it is equal to zero or one, and an integer otherwise, so that `1.0` is read as `true` where `2.0` is
read as `2`. Documents give them as arguments of the Grammar (specification, 3), and code by the Operand Resolver
(4.3).

* `Constant`: what values and literals mean; `Json.constant?` and `Java.constant?` read the two.
* `Literal.constant_injective`: different literals mean different constants.
* `Java.stringUnits?`: the units of a string literal; `Java.stringUnits?_encode`: those of a text that is
  written as one.
* **`Java.constant?_code`**: a literal means the constant that it is written for.
* **`Argument.read_keeps`**: the operand that a document's value becomes has its kind and its meaning, unless the
  value is a number with a point that is equal to zero or one.
* `Argument.pointOne_drops`: one of these.
-/

namespace PageObjects

/-! ## Meanings -/

/-- What a value or a literal means: a Boolean, a number, or the UTF-16 units of a text. -/
inductive Constant where
  | bool (value : Bool)
  | number (value : ℚ)
  | text (units : List Nat)

/-- The type of a constant. -/
def Constant.type : Constant → ResultType
  | .bool _ => .boolean
  | .number _ => .number
  | .text _ => .string

/-- The UTF-16 units of a text. -/
def utf16 (text : String) : List Nat := text.toList.flatMap Json.Quote.units

/-- The constant that a value is. -/
def Json.constant? : Json → Option Constant
  | .bool b => some (.bool b)
  | .int n => some (.number n)
  | .real r => r.value?.map .number
  | .text chars => some (.text (utf16 chars))
  | _ => none

/-- The constant that a literal is written for. -/
def Literal.constant : Literal → Constant
  | .bool b => .bool b
  | .int n => .number n
  | .text chars => .text (utf16 chars)

/-! ## Units -/

open Json.Quote (units_of_lt units_of_not_lt)

/-- The units at the beginning of a list tell the character, and leave the same rest. -/
theorem units_append_inj {c d : Char} {cs ds : List Nat}
    (h : Json.Quote.units c ++ cs = Json.Quote.units d ++ ds) : c = d ∧ cs = ds := by
  have hc := toNat_valid c
  have hd := toNat_valid d
  -- a character beyond the basic plane begins with a surrogate, any other with its own code
  by_cases hcbasic : c.toNat < 0x10000 <;> by_cases hdbasic : d.toNat < 0x10000
  · rw [units_of_lt hcbasic, units_of_lt hdbasic] at h
    obtain ⟨hcode, hrest⟩ := List.cons.inj h
    exact ⟨Char.toNat_inj.mp hcode, hrest⟩
  · rw [units_of_lt hcbasic, units_of_not_lt hdbasic] at h
    have hfirst := (List.cons.inj h).1
    omega
  · rw [units_of_not_lt hcbasic, units_of_lt hdbasic] at h
    have hfirst := (List.cons.inj h).1
    omega
  · rw [units_of_not_lt hcbasic, units_of_not_lt hdbasic] at h
    obtain ⟨hfirst, h⟩ := List.cons.inj h
    obtain ⟨hsecond, hrest⟩ := List.cons.inj h
    exact ⟨Char.toNat_inj.mp (by omega), hrest⟩

/-- A text is told by its units. -/
theorem utf16_injective : Function.Injective utf16 := by
  have hchars : ∀ cs ds : List Char, cs.flatMap Json.Quote.units = ds.flatMap Json.Quote.units → cs = ds := by
    have hne : ∀ c : Char, Json.Quote.units c ≠ [] := by
      intro c
      by_cases hbasic : c.toNat < 0x10000
      · simp [units_of_lt hbasic]
      · simp [units_of_not_lt hbasic]
    intro cs
    induction cs with
    | nil =>
      rintro (_ | ⟨d, ds⟩) h
      · rfl
      · exact absurd (List.append_eq_nil_iff.mp h.symm).1 (hne d)
    | cons c cs ih =>
      rintro (_ | ⟨d, ds⟩) h
      · exact absurd (List.append_eq_nil_iff.mp h).1 (hne c)
      · obtain ⟨rfl, hrest⟩ := units_append_inj h
        rw [ih ds hrest]
  exact fun first second h => String.toList_injective (hchars _ _ h)

/-- Literals are told by what they mean. -/
theorem Literal.constant_injective : Function.Injective Literal.constant := by
  intro first second h
  cases first <;> cases second <;> simp only [constant, reduceCtorEq, Constant.bool.injEq,
    Constant.number.injEq, Constant.text.injEq, Int.cast_inj] at h
  · rw [h]
  · rw [h]
  · rw [utf16_injective h]

namespace Java

/-- The units that the short escapes of a string literal stand for. -/
def escapes : List (Char × Nat) :=
  [('"', 0x22), ('\\', 0x5C), ('n', 0x0A), ('r', 0x0D), ('t', 0x09), ('f', 0x0C), ('b', 0x08)]

/-- The unit that a Unicode escape with the given four digits stands for. These escapes are replaced before
strings are looked for, so that of a quote, a backslash or a line break does not stand for the character in
a string. -/
def unicodeUnit? (a b c d : Char) : Option Nat :=
  match Text.hexValue? a, Text.hexValue? b, Text.hexValue? c, Text.hexValue? d with
  | some a, some b, some c, some d =>
    let unit := ((a * 16 + b) * 16 + c) * 16 + d
    if unit ∈ [0x22, 0x5C, 0x0A, 0x0D] then none else some unit
  | _, _, _, _ => none

/-- The UTF-16 units of a string literal behind its opening quote. The literal ends with the first quote that
is not escaped, which has to be the end of the text, and goes over no line break. -/
def stringUnits? : List Char → Option (List Nat)
  | ['"'] => some []
  | '\\' :: 'u' :: a :: b :: c :: d :: rest =>
    match unicodeUnit? a b c d, stringUnits? rest with
    | some unit, some units => some (unit :: units)
    | _, _ => none
  | '\\' :: mark :: rest =>
    match escapes.lookup mark, stringUnits? rest with
    | some unit, some units => some (unit :: units)
    | _, _ => none
  | c :: rest =>
    if c == '"' || c == '\\' || c == '\n' || c == '\r' then none
    else (stringUnits? rest).map (Json.Quote.units c ++ ·)
  | [] => none

/-- The number of digits with a minus sign for a negative number. -/
def signedNumber : List Char → Int
  | '-' :: digits => -(Nat.ofDigitChars 10 digits 0 : Int)
  | digits => Nat.ofDigitChars 10 digits 0

/-- The number that the code is the decimal numeral of. Whether a number of that size fits where it stands is
not asked. -/
def numeral? (code : String) : Option Int :=
  let n := signedNumber code.toList
  if toString n = code then some n else none

/-- The constant that a literal is: one of the words for Booleans, a string between quotes, or a decimal
numeral. -/
def constant? (code : String) : Option Constant :=
  if code = "true" then some (.bool true)
  else if code = "false" then some (.bool false)
  else
    match code.toList with
    | '"' :: rest => (stringUnits? rest).map .text
    | _ => (numeral? code).map fun n => .number n

/-! ## Strings -/

/-- The escape of a unit is read as the unit. -/
theorem stringUnits?_unitEscape {unit : Nat} (hbound : unit < 0x10000)
    (hspecial : unit ∉ [0x22, 0x5C, 0x0A, 0x0D]) (rest : List Char) :
    stringUnits? (Json.Quote.unitEscape unit ++ rest) = (stringUnits? rest).map (unit :: ·) := by
  have hdigits : Text.hexDigits 4 unit = [Text.hexDigit (unit / 16 / 16 / 16 % 16),
      Text.hexDigit (unit / 16 / 16 % 16), Text.hexDigit (unit / 16 % 16), Text.hexDigit (unit % 16)] := rfl
  have hnumber : ((unit / 16 / 16 / 16 % 16 * 16 + unit / 16 / 16 % 16) * 16 + unit / 16 % 16) * 16 +
      unit % 16 = unit := by omega
  have hunit : unicodeUnit? (Text.hexDigit (unit / 16 / 16 / 16 % 16)) (Text.hexDigit (unit / 16 / 16 % 16))
      (Text.hexDigit (unit / 16 % 16)) (Text.hexDigit (unit % 16)) = some unit := by
    unfold unicodeUnit?
    simp only [Text.hexValue?_hexDigit (Nat.mod_lt _ (by decide : 0 < 16)), hnumber, if_neg hspecial]
  rw [Json.Quote.unitEscape, hdigits]
  simp only [List.cons_append, List.nil_append, stringUnits?, hunit]
  cases stringUnits? rest <;> rfl

/-- A short escape is read as its unit. -/
theorem stringUnits?_escape {mark : Char} {unit : Nat} (hescape : escapes.lookup mark = some unit)
    (rest : List Char) :
    stringUnits? ('\\' :: mark :: rest) = (stringUnits? rest).map (unit :: ·) := by
  have hmark : mark ≠ 'u' := by
    rintro rfl
    cases hescape
  rw [stringUnits?, hescape]
  · cases stringUnits? rest <;> rfl
  · intro a b c d rest h
    exact absurd h hmark

/-- A character that stands for itself. -/
theorem stringUnits?_plain {c : Char} (hplain : c ∉ ['"', '\\', '\n', '\r']) (rest : List Char) :
    stringUnits? (c :: rest) = (stringUnits? rest).map (Json.Quote.units c ++ ·) := by
  simp only [List.mem_cons, List.not_mem_nil, or_false, not_or] at hplain
  obtain ⟨hquote, hslash, hfeed, hreturn⟩ := hplain
  rw [stringUnits?]
  all_goals simp [hquote, hslash, hfeed, hreturn]

/-- What one character is written as is read as the units of the character. -/
theorem stringUnits?_encodeChar (c : Char) (rest : List Char) :
    stringUnits? (Json.Quote.encodeChar c ++ rest) =
      (stringUnits? rest).map (Json.Quote.units c ++ ·) := by
  have hspelled := Json.Quote.spelled_encodeChar c
  generalize Json.Quote.encodeChar c = written at hspelled
  cases hspelled with
  | plain hlow hhigh hquote hslash =>
    refine stringUnits?_plain ?_ rest
    simp only [List.mem_cons, List.not_mem_nil, or_false, not_or]
    refine ⟨hquote, hslash, ?_, ?_⟩ <;>
      (rintro rfl; exact absurd hlow (by decide))
  | short hescape =>
    simp only [Json.Quote.shortEscapes, List.mem_cons, Prod.mk.injEq, List.not_mem_nil, or_false] at hescape
    rcases hescape with ⟨rfl, rfl⟩ | ⟨rfl, rfl⟩ | ⟨rfl, rfl⟩ | ⟨rfl, rfl⟩ | ⟨rfl, rfl⟩ | ⟨rfl, rfl⟩ |
      ⟨rfl, rfl⟩ <;> exact stringUnits?_escape rfl rest
  | unit hbasic hprint hshort =>
    -- each unit that such an escape may not stand for is that of a character with a short one
    have hspecial : c.toNat ∉ [0x22, 0x5C, 0x0A, 0x0D] := by
      have hnames : ∀ code ∈ [0x22, 0x5C, 0x0A, 0x0D],
          ∃ mark, (Char.ofNat code, mark) ∈ Json.Quote.shortEscapes := by
        simp only [List.forall_mem_cons, List.not_mem_nil, false_imp_iff, implies_true, and_true]
        exact ⟨⟨'"', by decide⟩, ⟨'\\', by decide⟩, ⟨'n', by decide⟩, ⟨'r', by decide⟩⟩
      intro hcode
      obtain ⟨mark, hmark⟩ := hnames _ hcode
      rw [Char.ofNat_toNat] at hmark
      exact hshort mark hmark
    rw [units_of_lt hbasic]
    exact stringUnits?_unitEscape hbasic hspecial rest
  | pair hbeyond =>
    -- both units are surrogates
    have htop := toNat_valid c
    have hhigh : 0xD800 + (c.toNat - 0x10000) / 0x400 < 0x10000 := by omega
    have hlow : 0xDC00 + (c.toNat - 0x10000) % 0x400 < 0x10000 := by omega
    have hspecial : ∀ n, 0xD800 + n ∉ [0x22, 0x5C, 0x0A, 0x0D] ∧ 0xDC00 + n ∉ [0x22, 0x5C, 0x0A, 0x0D] := by
      intro n
      simp only [List.mem_cons, List.not_mem_nil, or_false, not_or]
      omega
    rw [units_of_not_lt hbeyond]
    simp only [List.append_assoc, stringUnits?_unitEscape hhigh (hspecial _).1,
      stringUnits?_unitEscape hlow (hspecial _).2, Option.map_map]
    rfl

/-- The rest of a text that is written as a string is read as the units of the text. -/
theorem stringUnits?_encode (cs : List Char) :
    stringUnits? (cs.flatMap Json.Quote.encodeChar ++ ['"']) = some (cs.flatMap Json.Quote.units) := by
  induction cs with
  | nil => rfl
  | cons c cs ih => rw [List.flatMap_cons, List.append_assoc, stringUnits?_encodeChar, ih]; rfl

/-! ## Literals -/

/-- A numeral is written in digits, behind a minus sign for negative numbers. -/
theorem isDigit_of_mem_numeral {n : Int} {c : Char} (h : c ∈ (toString n).toList) :
    c = '-' ∨ c.isDigit = true := by
  rw [Int.toString_eq_repr, Int.repr_eq_if] at h
  split at h
  · exact .inr (Text.isDigit_of_mem_index h)
  · rw [String.toList_append, List.mem_append] at h
    exact h.imp (fun hminus => List.mem_singleton.mp hminus) Text.isDigit_of_mem_index

/-- A number has the value of its numeral. -/
theorem signedNumber_toString (n : Int) : signedNumber (toString n).toList = n := by
  rw [Int.toString_eq_repr, Int.repr_eq_if]
  split
  · rename_i hn
    have hdigits : n.toNat.repr.toList = Nat.toDigits 10 n.toNat := Nat.toList_repr
    have hminus : ∀ rest, Nat.toDigits 10 n.toNat ≠ '-' :: rest := by
      intro rest h
      have hmem : '-' ∈ Nat.toDigits 10 n.toNat := by rw [h]; exact List.mem_cons_self
      exact absurd (Nat.isDigit_of_mem_toDigits (by decide) (by decide) hmem) (by decide)
    rw [hdigits, signedNumber, Nat.ofDigitChars_ten_toDigits, Int.toNat_of_nonneg hn]
    exact hminus
  · rw [String.toList_append, Nat.toList_repr]
    show -(Nat.ofDigitChars 10 (Nat.toDigits 10 (-n).toNat) 0 : Int) = n
    rw [Nat.ofDigitChars_ten_toDigits]
    omega

theorem numeral?_toString (n : Int) : numeral? (toString n) = some n := by
  simp only [numeral?, signedNumber_toString, if_pos]

/-- **A literal means the constant** that it is written for. -/
theorem constant?_code (l : Literal) : constant? l.code = some l.constant := by
  cases l with
  | bool b => cases b <;> rfl
  | int n =>
    have hother : ∀ code : String, (∃ c ∈ code.toList, c ≠ '-' ∧ c.isDigit = false) → toString n ≠ code := by
      rintro code ⟨c, hc, hminus, hdigit⟩ rfl
      rw [isDigit_of_mem_numeral hc |>.resolve_left hminus] at hdigit
      cases hdigit
    have htrue := hother "true" ⟨'t', by decide, by decide, by decide⟩
    have hfalse := hother "false" ⟨'f', by decide, by decide, by decide⟩
    rw [Literal.code, constant?, if_neg htrue, if_neg hfalse]
    split
    · rename_i rest hquoted
      exact absurd rfl (hother _ ⟨'"', by rw [hquoted]; exact List.mem_cons_self, by decide, by decide⟩)
    · rw [numeral?_toString]
      rfl
  | text chars =>
    have hcode : (Literal.text chars).code.toList =
        '"' :: (chars.toList.flatMap Json.Quote.encodeChar ++ ['"']) := by
      rw [Literal.code, Json.Quote.encode, String.toList_ofList, List.cons_append]
    have hword : ∀ word : String, word.toList.head? ≠ some '"' → (Literal.text chars).code ≠ word := by
      rintro word hword rfl
      rw [hcode] at hword
      exact hword rfl
    rw [constant?, if_neg (hword "true" (by decide)), if_neg (hword "false" (by decide)), hcode]
    simp only [stringUnits?_encode]
    rfl

end Java

/-! ## Arguments -/

/-- The operand has the kind and the meaning of the value. -/
def Operand.Keeps (o : Operand) (v : Json) : Prop :=
  ∃ c, v.constant? = some c ∧ o.type = c.type ∧ Java.constant? o.code = some c

/-- The value is a number with a point, and equal to zero for `false` or to one for `true`. -/
def Json.IsPointed (v : Json) (b : Bool) : Prop := ∃ r, v = .real r ∧ r.value? = some (b.toInt : ℚ)

/-- An operand keeps a value when it is written for the constant that the value is. -/
theorem Operand.literal_keeps_iff {l : Literal} {v : Json} :
    (Operand.literal l).Keeps v ↔ v.constant? = some l.constant := by
  have htype : l.type = l.constant.type := by cases l <;> rfl
  constructor
  · rintro ⟨c, hc, -, hcode⟩
    rw [hc, ← hcode]
    exact Java.constant?_code l
  · intro hc
    exact ⟨l.constant, hc, htype, Java.constant?_code l⟩

/-- What stands for a value keeps it, unless the value is zero or one with a point. -/
theorem IsLiteral.keeps_iff {v : Json} {l : Literal} (h : IsLiteral v l) :
    (Operand.literal l).Keeps v ↔ ∀ b, ¬ v.IsPointed b := by
  rw [Operand.literal_keeps_iff]
  cases h with
  | bool b => exact iff_of_true rfl (by rintro b ⟨r, ⟨⟩, -⟩)
  | int n => exact iff_of_true rfl (by rintro b ⟨r, ⟨⟩, -⟩)
  | text chars => exact iff_of_true rfl (by rintro b ⟨r, ⟨⟩, -⟩)
  | @binary r b hwhole =>
    have hvalue := Binary64.whole?_eq_some_iff.mp hwhole
    refine iff_of_false ?_ (fun h => h b ⟨r, rfl, hvalue⟩)
    rw [Json.constant?, hvalue]
    simp [Literal.constant]
  | @whole r n hwhole hbinary hbound =>
    have hvalue := Binary64.whole?_eq_some_iff.mp hwhole
    refine iff_of_true (by rw [Json.constant?, hvalue]; rfl) ?_
    rintro b ⟨r', hr, hb⟩
    obtain rfl := Json.real.inj hr
    rw [hvalue] at hb
    exact hbinary b (by exact_mod_cast Option.some.inj hb)

/-- Zero or one with a point stands for a Boolean. -/
theorem IsLiteral.eq_bool {v : Json} {l : Literal} {b : Bool} (h : IsLiteral v l) (hpointed : v.IsPointed b) :
    l = .bool b := by
  obtain ⟨r, rfl, hvalue⟩ := hpointed
  have hwhole := Binary64.whole?_eq_some_iff.mpr hvalue
  cases h with
  | @binary _ b' hwhole' =>
    have hb : b'.toInt = b.toInt := Option.some.inj (hwhole'.symm.trans hwhole)
    cases b <;> cases b' <;> first | rfl | cases hb
  | whole hwhole' hbinary hbound => exact absurd (Option.some.inj (hwhole'.symm.trans hwhole)) (hbinary b)

namespace Argument

variable {fields : Fields} {a : Argument} {v : Json}

/-- An argument with a value is a literal, and stands for the value. -/
theorem exists_literal (hread : read (.object fields) = .done a) (hvalue : fields.get? "value" = some v)
    (hnull : v ≠ .null) : ∃ l type, a = .literal l type ∧ IsLiteral v l := by
  obtain ⟨_, ⟨⟩, hwritten⟩ := (reads _ _).mp hread
  obtain ⟨w, hgives, hshape⟩ | ⟨⟨habsent, -⟩, -⟩ := hwritten.value
  · obtain rfl : v = w := Option.some.inj (hvalue.symm.trans (hgives.elim id id))
    cases a with
    | literal l type => exact ⟨l, type, rfl, hshape.2⟩
    | parameter name type => exact absurd hshape hnull
  · cases hvalue.symm.trans habsent

/-- **Values keep kind and meaning.** A value that an argument is accepted with becomes an operand of its kind
and with its meaning, unless it is zero or one with a point, which becomes a Boolean. -/
theorem read_keeps (hread : read (.object fields) = .done a) (hvalue : fields.get? "value" = some v)
    (hnull : v ≠ .null) : ∃ o, Operand.ofArgument a = .ok o ∧ (o.Keeps v ↔ ∀ b, ¬ v.IsPointed b) ∧
      ∀ b, v.IsPointed b → o = .literal (.bool b) := by
  obtain ⟨l, type, rfl, hliteral⟩ := exists_literal hread hvalue hnull
  refine ⟨.literal l, rfl, hliteral.keeps_iff, fun b hpointed => ?_⟩
  rw [hliteral.eq_bool hpointed]

/-- A text that looks like a number is a text. -/
theorem digits_keep : read (.object [("value", .text "1")]) = .done (.literal (.text "1") none) ∧
    ∃ o, Operand.ofArgument (.literal (.text "1") none) = .ok o ∧ o.code = "\"1\"" ∧ o.Keeps (.text "1") := by
  have hread : read (.object [("value", .text "1")]) = .done (.literal (.text "1") none) := rfl
  obtain ⟨o, ho, hkeeps, -⟩ := read_keeps hread rfl nofun
  obtain rfl := Except.ok.inj ho
  exact ⟨hread, _, rfl, by decide +kernel, hkeeps.mpr (by rintro b ⟨r, ⟨⟩, -⟩)⟩

/-- The value `1.0`. -/
def pointOne : Json := .real (.ofDecimal false 10 (-1))

/-- **One with a point is not kept**: it is a number, and what stands for it in code is a Boolean. -/
theorem pointOne_drops : read (.object [("value", pointOne)]) = .done (.literal (.bool true) none) ∧
    pointOne.constant? = some (.number 1) ∧
    ∃ o, Operand.ofArgument (.literal (.bool true) none) = .ok o ∧ o.type = .boolean ∧ o.code = "true" ∧
      ¬ o.Keeps pointOne := by
  have hvalue : pointOne.constant? = some (.number 1) := by
    have hone : (Binary64.ofDecimal false 10 (-1)).value? = some ((1 : Int) : ℚ) :=
      Binary64.whole?_eq_some_iff.mp (by decide +kernel)
    rw [pointOne, Json.constant?, hone]
    rfl
  refine ⟨rfl, hvalue, _, rfl, rfl, rfl, ?_⟩
  rw [Operand.literal_keeps_iff, hvalue]
  simp [Literal.constant]

end Argument
end PageObjects
