import PageObjects.Json.Encoding

/-!
# ASCII text

ASCII bytes are read as they are: where the first two bytes are ASCII and not zero, the encoding is
UTF-8, and each such byte is a character.

* `Encoding.IsPlain`: the bytes this is about.
* `decodeDocument_ascii`: the text of ASCII bytes.
* `decodeDocument_prefix`: a text whose first bytes are ASCII opens with their characters.
* `toList_toUTF8_append`: the bytes that texts are written as, one after the other.
-/

namespace PageObjects

namespace Encoding

/-- ASCII bytes that are not zero. -/
def IsPlain (bytes : List UInt8) : Prop := ∀ byte ∈ bytes, 0 < byte.toNat ∧ byte.toNat < 0x80

instance (bytes : List UInt8) : Decidable (IsPlain bytes) := List.decidableBAll _ bytes

/-- The characters of ASCII bytes. -/
def asciiChars (bytes : List UInt8) : List Char := bytes.map fun byte => Char.ofNat byte.toNat

variable {bytes front back : List UInt8}

theorem ofMark?_plain (h : IsPlain (bytes.take 2)) : ofMark? bytes = none := by
  unfold ofMark?
  split
  all_goals first | rfl | exact absurd (h _ List.mem_cons_self) (by decide)

theorem ofZeros_plain (h : IsPlain (bytes.take 2)) : ofZeros bytes = .utf8 := by
  have hne : ∀ byte ∈ bytes.take 2, (byte == 0) = false := by
    intro byte hbyte
    rw [beq_eq_false_iff_ne]
    rintro rfl
    exact absurd (h _ hbyte) (by decide)
  unfold ofZeros
  split
  · rw [hne _ (by simp), hne _ (by simp)]
    rfl
  · rw [hne _ (by simp), hne _ (by simp)]
    rfl
  · rfl

/-- ASCII bytes are read one by one, whatever follows them. -/
theorem decodeFrom_plain (h : IsPlain front) {fuel position : Nat} {read : List Char}
    (hfuel : front.length ≤ fuel) :
    decodeFrom .utf8 fuel position read (front ++ back) =
      decodeFrom .utf8 (fuel - front.length) (position + front.length)
        ((asciiChars front).reverse ++ read) back := by
  induction front generalizing fuel position read with
  | nil => rfl
  | cons lead rest ih =>
    rw [IsPlain, List.forall_mem_cons] at h
    cases fuel with
    | zero => exact absurd hfuel (by simp)
    | succ fuel =>
      rw [List.length_cons] at hfuel
      have hhead : head .utf8 lead (rest ++ back) = .char (Char.ofNat lead.toNat) 1 := if_pos h.1.2
      rw [List.cons_append, decodeFrom, hhead]
      dsimp only
      rw [Nat.sub_self, List.drop_zero, ih h.2 (by omega), List.length_cons, asciiChars, asciiChars,
        List.map_cons, List.reverse_cons, List.append_assoc, List.singleton_append,
        Nat.add_sub_add_right, Nat.add_assoc, Nat.add_comm 1]

/-- A text opens with what was read of it. -/
theorem decodeFrom_prefix {encoding : Encoding} {fuel position : Nat} {read : List Char}
    {text : String} (h : decodeFrom encoding fuel position read bytes = .ok text) :
    read.reverse <+: text.toList := by
  have hread : ∀ read : List Char, Except.ok (ε := DecodeError) (String.ofList read.reverse) =
      .ok text → read.reverse <+: text.toList := by
    intro read h
    obtain rfl := Except.ok.inj h
    exact String.toList_ofList ▸ List.prefix_refl _
  induction fuel generalizing position read bytes with
  | zero => exact hread read h
  | succ fuel ih =>
    cases bytes with
    | nil => exact hread read h
    | cons lead rest =>
      rw [decodeFrom] at h
      split at h
      · rename_i c length _
        exact (List.prefix_append _ [c]).trans (List.reverse_cons ▸ ih h)
      · exact absurd h (by simp)

end Encoding

open Encoding

variable {bytes front back : List UInt8}

/-- ASCII bytes are the text of their characters. -/
theorem decodeDocument_ascii (h : IsPlain bytes) :
    decodeDocument bytes = .ok (String.ofList (asciiChars bytes)) := by
  have htake : IsPlain (bytes.take 2) := fun byte hbyte => h byte (List.mem_of_mem_take hbyte)
  have hread := @decodeFrom_plain bytes [] h bytes.length 0 [] (Nat.le_refl _)
  rw [List.append_nil, Nat.sub_self, decodeFrom, List.append_nil, List.reverse_reverse] at hread
  rw [decodeDocument, ofMark?_plain htake, ofZeros_plain htake]
  exact hread

/-- **A text whose first bytes are ASCII opens with their characters.** -/
theorem decodeDocument_prefix {text : String} (h : IsPlain front) (hlength : 2 ≤ front.length)
    (htext : decodeDocument (front ++ back) = .ok text) : asciiChars front <+: text.toList := by
  have htake : IsPlain ((front ++ back).take 2) := by
    rw [List.take_append_of_le_length hlength]
    exact fun byte hbyte => h byte (List.mem_of_mem_take hbyte)
  rw [decodeDocument, ofMark?_plain htake, ofZeros_plain htake] at htext
  dsimp only at htext
  rw [decode, decodeFrom_plain h (by simp)] at htext
  have hprefix := decodeFrom_prefix htext
  rwa [List.append_nil, List.reverse_reverse] at hprefix

/-! ## Bytes of texts -/

/-- The list of bytes is put together from the front. -/
theorem toList_loop_eq (bytes : ByteArray) (i : Nat) (read : List UInt8) :
    ByteArray.toList.loop bytes i read = read.reverse ++ bytes.data.toList.drop i := by
  fun_induction ByteArray.toList.loop bytes i read with
  | case1 i read hi ih =>
    have hsize : i < bytes.data.size := hi
    have hget : bytes.get! i = bytes.data[i] := getElem!_pos bytes.data i hsize
    rw [ih, List.reverse_cons, List.append_assoc, List.singleton_append, hget,
      ← Array.getElem_toList, ← List.drop_eq_getElem_cons]
  | case2 i read hi =>
    have hsize : bytes.data.toList.length ≤ i := Nat.le_of_not_lt hi
    rw [List.drop_eq_nil_of_le hsize, List.append_nil]

theorem toList_eq_data (bytes : ByteArray) : bytes.toList = bytes.data.toList := by
  rw [ByteArray.toList, toList_loop_eq, List.reverse_nil, List.nil_append, List.drop_zero]

/-- The bytes of texts one after the other are those of the one and then those of the other. -/
theorem toList_toUTF8_append (first second : String) :
    (first ++ second).toUTF8.toList = first.toUTF8.toList ++ second.toUTF8.toList := by
  simp only [toList_eq_data, String.toUTF8_eq_toByteArray, String.toByteArray_append,
    ByteArray.data_append, Array.toList_append]

theorem toList_toUTF8_inj {first second : String} :
    first.toUTF8.toList = second.toUTF8.toList ↔ first = second := by
  rw [toList_eq_data, toList_eq_data, Array.toList_inj, ← ByteArray.ext_iff]
  exact String.toByteArray_inj

end PageObjects
