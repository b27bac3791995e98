import PageObjects.Document.Load
import PageObjects.Proofs.Java.Comments
import PageObjects.Proofs.Json.Ascii

/-!
# Generated source is no document

Generated source opens with the word `package` or `import`, and neither of them opens a value. So a
document in whose place generated source was written, or a beginning of it, is refused when it is read
again.

* `Json.Parser.document_letter`: the letters that open no value.
* `Java.IsSource`, `Java.IsBegun`, `Document.load_isBegun`: generated source is not loaded, and no
  beginning of it is.
* `Java.length_interfaceSource_description`: interfaces that differ in their description differ.
-/

namespace PageObjects

/-! ## Texts that open with a letter -/

/-- A text that opens with one of two letters is refused where it starts. -/
theorem Json.Parser.document_letter {first : Char} (hfirst : first = 'p' ∨ first = 'i')
    {cs : List Char} (h : [first] <+: cs) (levels : Nat) : document cs levels = fail .value 0 := by
  obtain ⟨rest, rfl⟩ := h
  rcases hfirst with rfl | rfl <;> rfl

/-! ## Generated source -/

namespace Java

theorem ofLines_prefix {word : String} {lines : List String}
    (h : ∃ line ∈ lines.head?, ∃ rest, line = word ++ rest) : ∃ rest, ofLines lines = word ++ rest := by
  obtain ⟨line, hline, rest, rfl⟩ := h
  obtain ⟨tail, rfl⟩ := List.head?_eq_some_iff.mp hline
  by_cases htail : tail = []
  · exact ⟨rest ++ "\n", by rw [htail, ofLines, String.intercalate_singleton, String.append_assoc]⟩
  · exact ⟨_, by
      rw [ofLines, String.intercalate_cons_of_ne_nil htail, String.append_assoc, String.append_assoc,
        String.append_assoc]⟩

theorem importLines_ne_nil {names : List String} (h : names ≠ []) : importLines names ≠ [] := by
  obtain ⟨name, rest, rfl⟩ := List.exists_cons_of_ne_nil h
  intro hnil
  have hmem : name ∈ Text.sorted (name :: rest).eraseDups :=
    List.mem_mergeSort.mpr (List.mem_eraseDups.mpr List.mem_cons_self)
  rw [List.map_eq_nil_iff.mp hnil] at hmem
  exact absurd hmem List.not_mem_nil

theorem classSource_prefix (pc : PageClass) : ∃ rest, classSource pc = "package " ++ rest :=
  ofLines_prefix ⟨_, rfl, _, String.append_assoc⟩

/-- The interface opens with its package, or with an import where it has none. -/
theorem interfaceSource_prefix (pc : PageClass) :
    ∃ word, (word = "package " ∨ word = "import ") ∧ ∃ rest, interfaceSource pc = word ++ rest := by
  by_cases hpackage : pc.package.isEmpty
  · refine ⟨"import ", .inr rfl, ofLines_prefix ?_⟩
    have hne : importLines (interfaceImports pc) ≠ [] :=
      importLines_ne_nil (List.cons_ne_nil _ _)
    obtain ⟨line, lines, hlines⟩ := List.exists_cons_of_ne_nil hne
    obtain ⟨name, -, hname⟩ := List.mem_map.mp (hlines ▸ List.mem_cons_self : line ∈ importLines _)
    refine ⟨line, ?_, name ++ ";", by rw [← hname, String.append_assoc]⟩
    rw [interfaceLines, if_pos hpackage, hlines]
    rfl
  · refine ⟨"package ", .inl rfl, ofLines_prefix ⟨"package " ++ pc.package ++ ";", ?_, pc.package ++ ";",
      String.append_assoc⟩⟩
    rw [interfaceLines, if_neg hpackage]
    rfl

/-- A description makes the interface longer. -/
theorem length_interfaceSource_description (pc : PageClass) {text : String} (h : text ≠ "") :
    (interfaceSource { pc with description := none }).length <
      (interfaceSource { pc with description := some text }).length := by
  have hdescribes : Describes { pc with description := some text } text { pc with description := none } ""
      (interfaceHead pc) := .page rfl
  obtain ⟨front, more, hsource, hbare⟩ := hdescribes.exists_source h
  have hfeed : 0 < (ofLines (comment "" (some text))).length := by
    rw [ofLines, String.length_append]
    exact Nat.add_pos_right _ (by decide)
  rw [hsource, hbare]
  simp only [String.length_append]
  omega

/-- The bytes of generated source: of the interface or of the class of some page class. -/
def IsSource (bytes : List UInt8) : Prop :=
  ∃ pc, bytes = (interfaceSource pc).toUTF8.toList ∨ bytes = (classSource pc).toUTF8.toList

theorem IsSource.exists_word {bytes : List UInt8} (h : IsSource bytes) :
    ∃ word rest : String, (word = "package " ∨ word = "import ") ∧
      bytes = word.toUTF8.toList ++ rest.toUTF8.toList := by
  obtain ⟨pc, rfl | rfl⟩ := h
  · obtain ⟨word, hword, rest, hsource⟩ := interfaceSource_prefix pc
    exact ⟨word, rest, hword, by rw [hsource, toList_toUTF8_append]⟩
  · obtain ⟨rest, hsource⟩ := classSource_prefix pc
    exact ⟨_, rest, .inl rfl, by rw [hsource, toList_toUTF8_append]⟩

/-- The bytes are a beginning of generated source, or all of it. -/
def IsBegun (bytes : List UInt8) : Prop := ∃ source, IsSource source ∧ bytes <+: source

end Java

open Encoding in
/-- The text of a beginning of generated source is empty or opens with the letter of a word. -/
theorem Java.IsBegun.opens {bytes : List UInt8} {text : String} (h : IsBegun bytes)
    (htext : decodeDocument bytes = .ok text) :
    text = "" ∨ ∃ first, (first = 'p' ∨ first = 'i') ∧ [first] <+: text.toList := by
  obtain ⟨_, hsource, hprefix⟩ := h
  obtain ⟨word, rest, hword, rfl⟩ := hsource.exists_word
  obtain ⟨first, second, more, hbytes, hplain, hletter⟩ : ∃ first second more,
      word.toUTF8.toList = first :: second :: more ∧ IsPlain [first, second] ∧
        (Char.ofNat first.toNat = 'p' ∨ Char.ofNat first.toNat = 'i') := by
    rcases hword with rfl | rfl
    · exact ⟨0x70, 0x61, _, by rw [toList_eq_data]; rfl, by decide, .inl (by decide)⟩
    · exact ⟨0x69, 0x6D, _, by rw [toList_eq_data]; rfl, by decide, .inr (by decide)⟩
  rw [hbytes] at hprefix
  match bytes, hprefix with
  | [], _ => exact .inl (Except.ok.inj htext).symm
  | [byte], hprefix =>
    obtain ⟨rfl, -⟩ := List.cons_prefix_cons.mp hprefix
    have hone : IsPlain [byte] := fun b hb => hplain b (List.mem_cons.mpr (.inl (List.mem_singleton.mp hb)))
    rw [decodeDocument_ascii hone] at htext
    obtain rfl := Except.ok.inj htext
    exact .inr ⟨_, hletter, by rw [String.toList_ofList]; exact List.prefix_refl _⟩
  | byte :: next :: tail, hprefix =>
    obtain ⟨rfl, hnext⟩ := List.cons_prefix_cons.mp hprefix
    obtain ⟨rfl, -⟩ := List.cons_prefix_cons.mp hnext
    have htext : decodeDocument ([byte, next] ++ tail) = .ok text := htext
    have hopens := decodeDocument_prefix hplain (by simp) htext
    exact .inr ⟨_, hletter, (List.prefix_append [_] [_]).trans hopens⟩

/-- **A beginning of generated source is not loaded as a document.** -/
theorem Document.load_isBegun {bytes : List UInt8} (h : Java.IsBegun bytes) (levels : Nat) :
    ∃ e, load (.bytes bytes levels) = .error e := by
  rw [load]
  split
  · rename_i text htext
    rcases h.opens htext with rfl | ⟨first, hfirst, hopens⟩
    · exact ⟨_, rfl⟩
    · rw [Json.Parser.document_letter hfirst hopens]
      exact ⟨_, rfl⟩
  · exact ⟨_, rfl⟩

end PageObjects
