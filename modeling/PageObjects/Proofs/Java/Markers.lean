import PageObjects.Proofs.Guarded.Compilation
import PageObjects.Proofs.Java.Literals
import PageObjects.Proofs.Java.Members

/-!
# Annotations with selectors

An annotation names the dialect of a selector and quotes its text. It is read back here by its form alone: a name,
a dialect and a JSON string. That of an element carries its selector. That of a root page object is made of an
element's by replacing the name, wherever it occurs on the line, and so the text of the selector is kept unless it
contains the name as well. Annotations are written by the Writer (specification, 2), selectors by the Registries.

* `Java.found?`: the dialect and the text that an annotation carries.
* **`Java.code_faithful`**: literals are told by their code, selectors by their annotation, and texts stand in
  both as JSON strings.
* `Java.Renames`: texts that are the same but for what is one part in the one and another in the other.
* **`PageClass.ofSource_annotated`**: the annotation of a root page object carries the dialect of the document's
  selector, and its text with the name of the annotation replaced.
* `PageClass.marksSource_renamed`: a selector that is not kept.
-/

namespace PageObjects

namespace Java

/-! ## Reading annotations -/

/-- The text that an annotation of a name carries in a dialect: in brackets, behind the name of the dialect and
an equals sign, as a JSON string. -/
def foundIn? (name : String) (dialect : Dialect) (line : String) : Option String :=
  (between? (name ++ (".Find(" ++ dialect.name ++ " = ")) ")" line).bind fun quoted =>
    match Json.parse quoted with
    | .ok (.text value) => some value
    | _ => none

/-- The dialect and the text that an annotation of a name carries. -/
def found? (name line : String) : Option (Dialect × String) :=
  Selector.dialects.findSome? fun dialect => (foundIn? name dialect line).map (dialect, ·)

theorem foundIn?_eq_some_iff {name line value : String} {dialect : Dialect} :
    foundIn? name dialect line = some value ↔ ∃ quoted,
      line = name ++ (".Find(" ++ dialect.name ++ " = ") ++ quoted ++ ")" ∧
        Json.parse quoted = .ok (.text value) := by
  rw [foundIn?, Option.bind_eq_some_iff]
  refine exists_congr fun quoted => and_congr between?_eq_some_iff ?_
  split
  · rename_i value' hparse
    simp [hparse]
  · rename_i hparse
    exact iff_of_false (by simp) (hparse value)

/-- Names of dialects differ in their first two characters. -/
theorem dialect_eq_of_append {first second : Dialect} {a b : String}
    (h : first.name ++ a = second.name ++ b) : first = second := by
  have htake : ∀ (dialect : Dialect) (rest : String),
      (dialect.name ++ rest).toList.take 2 = dialect.name.toList.take 2 := by
    intro dialect rest
    rw [String.toList_append, List.take_append_of_le_length]
    cases dialect <;> decide
  have hname : first.name.toList.take 2 = second.name.toList.take 2 := by
    rw [← htake first a, ← htake second b, h]
  revert hname
  cases first <;> cases second <;> decide

theorem found?_eq_some_iff {name line value : String} {dialect : Dialect} :
    found? name line = some (dialect, value) ↔ foundIn? name dialect line = some value := by
  have hmem : dialect ∈ Selector.dialects := by cases dialect <;> decide
  constructor
  · intro h
    obtain ⟨dialect', -, hfound⟩ := List.exists_of_findSome?_eq_some h
    obtain ⟨value', hvalue, hpair⟩ := Option.map_eq_some_iff.mp hfound
    obtain ⟨rfl, rfl⟩ := Prod.mk.inj hpair
    exact hvalue
  · intro hhere
    cases hfound : found? name line with
    | none =>
      have hnone := List.findSome?_eq_none_iff.mp hfound dialect hmem
      rw [hhere] at hnone
      exact absurd hnone (by simp)
    | some found =>
      obtain ⟨dialect', -, hfound⟩ := List.exists_of_findSome?_eq_some hfound
      obtain ⟨value', hvalue, rfl⟩ := Option.map_eq_some_iff.mp hfound
      obtain ⟨quoted, hline, -⟩ := foundIn?_eq_some_iff.mp hhere
      obtain ⟨quoted', hline', -⟩ := foundIn?_eq_some_iff.mp hvalue
      -- a line has room for one dialect
      have hsame : dialect.name ++ (" = " ++ (quoted ++ ")")) = dialect'.name ++ (" = " ++ (quoted' ++ ")")) := by
        rw [hline] at hline'
        simpa only [String.append_assoc, String.append_right_inj] using hline'
      obtain rfl := dialect_eq_of_append hsame
      rw [Option.some.inj (hvalue.symm.trans hhere)]

/-- What an annotation of this form carries. -/
theorem found?_finding (name : String) (s : Selector) : found? name (name ++ s.finding) =
    some (s.dialect, s.value) :=
  found?_eq_some_iff.mpr (foundIn?_eq_some_iff.mpr ⟨Json.Quote.encode s.value, by
    simp only [Selector.finding, String.append_assoc], Json.Quote.parse_encode s.value _⟩)

/-- Literals are told by their code. -/
theorem code_injective : Function.Injective Literal.code := by
  intro v w h
  apply Literal.constant_injective
  apply Option.some.inj
  rw [← constant?_code, ← constant?_code, h]

/-- **Code is faithful.** Literals have one code only if they are one literal, of one kind; selectors have one
annotation only if they have one dialect and one text. The text of a literal or of a selector stands in the code
as a JSON string: on one line, in printable ASCII, between double quotes with every other quote and backslash
escaped, and as what is read again. -/
theorem code_faithful :
    (∀ v w : Literal, v.code = w.code ↔ v = w) ∧
    (∀ s t : Selector, s.marker = t.marker ↔ s.dialect = t.dialect ∧ s.value = t.value) ∧
    (∀ text, Json.Quote.Quotes (Literal.text text).code text) ∧
    ∀ s : Selector, ∃ quoted, s.marker = "@ElementMarker.Find(" ++ s.dialect.name ++ " = " ++ quoted ++ ")" ∧
      Json.Quote.Quotes quoted s.value := by
  refine ⟨fun v w => code_injective.eq_iff, fun s t => ?_, Json.Quote.quotes_encode, fun s => ?_⟩
  · constructor
    · intro h
      have hfound : some (s.dialect, s.value) = some (t.dialect, t.value) := by
        rw [← found?_finding "@ElementMarker" s, ← found?_finding "@ElementMarker" t]
        exact congrArg (found? "@ElementMarker") h
      exact Prod.mk.inj (Option.some.inj hfound)
    · rintro ⟨hdialect, hvalue⟩
      rw [Selector.marker, Selector.marker, Selector.finding, Selector.finding, hdialect, hvalue]
  · refine ⟨_, ?_, Json.Quote.quotes_encode s.value⟩
    rw [Selector.marker, Selector.finding, ← String.append_assoc, ← String.append_assoc, ← String.append_assoc,
      ← String.append_assoc]
    rfl

/-! ## Replacing a part -/

/-- The texts are the same, but that between the same pieces one has a part where the other has another. No piece
holds the first part, so that it is replaced wherever it occurs. -/
def Renames (part other text renamed : String) : Prop :=
  ∃ pieces ≠ [], (∀ piece ∈ pieces, ¬ part.toList <:+: piece.toList) ∧
    text = part.intercalate pieces ∧ renamed = other.intercalate pieces

section Replacing

variable {part other : List Char}

theorem replaceFrom_skip : ∀ (skip : Nat) (cs : List Char),
    replaceFrom part other skip cs = replaceFrom part other 0 (cs.drop skip)
  | 0, _ => rfl
  | skip + 1, [] => by simp [replaceFrom]
  | skip + 1, _ :: cs => by
    rw [replaceFrom, List.drop_succ_cons]
    exact replaceFrom_skip skip cs

/-- The part at the beginning is replaced. -/
theorem replaceFrom_part (hne : part ≠ []) (cs : List Char) :
    replaceFrom part other 0 (part ++ cs) = other ++ replaceFrom part other 0 cs := by
  obtain ⟨c, rest, rfl⟩ := List.exists_cons_of_ne_nil hne
  have hstart : (c :: rest).isPrefixOf (c :: (rest ++ cs)) = true :=
    List.isPrefixOf_iff_prefix.mpr (List.prefix_append (c :: rest) cs)
  rw [List.cons_append, replaceFrom, if_pos hstart, replaceFrom_skip, List.length_cons, Nat.add_sub_cancel,
    List.drop_left]

/-- A character at which the part does not begin is kept. -/
theorem replaceFrom_keep {c : Char} {cs : List Char} (h : ¬ part <+: c :: cs) :
    replaceFrom part other 0 (c :: cs) = c :: replaceFrom part other 0 cs := by
  rw [replaceFrom, if_neg (by rwa [List.isPrefixOf_iff_prefix])]

/-- Characters at which the part cannot begin are kept. -/
theorem replaceFrom_append {cs : List Char} (hne : part ≠ []) (h : ∀ c ∈ part.head?, c ∉ cs)
    (rest : List Char) : replaceFrom part other 0 (cs ++ rest) = cs ++ replaceFrom part other 0 rest := by
  obtain ⟨first, tail, rfl⟩ := List.exists_cons_of_ne_nil hne
  induction cs with
  | nil => rfl
  | cons c cs ih =>
    have hfirst : first ∉ c :: cs := h first rfl
    rw [List.mem_cons, not_or] at hfirst
    have hkeep : ¬ first :: tail <+: c :: (cs ++ rest) := fun hstart =>
      hfirst.1 (List.cons_prefix_cons.mp hstart).1
    rw [List.cons_append, replaceFrom_keep hkeep, ih fun c' hc' => by
      obtain rfl := Option.some.inj hc'
      exact hfirst.2]
    rfl

/-- The pieces between the parts stay. -/
theorem exists_pieces (hne : part ≠ []) : ∀ cs : List Char, ∃ pieces ≠ [],
    (∀ piece ∈ pieces, ¬ part <:+: piece) ∧ cs = part.intercalate pieces ∧
      replaceFrom part other 0 cs = other.intercalate pieces
  | [] => ⟨[[]], by simp, by simpa using hne, by simp, by simp [replaceFrom]⟩
  | c :: cs => by
    by_cases hstart : part <+: c :: cs
    · obtain ⟨rest, hrest⟩ := hstart
      have hshorter : rest.length < cs.length + 1 := by
        have hlength := congrArg List.length hrest
        have hpos := List.length_pos_iff.mpr hne
        rw [List.length_append, List.length_cons] at hlength
        omega
      obtain ⟨pieces, hpieces, hwithout, htext, hrenamed⟩ := exists_pieces hne rest
      obtain ⟨piece, pieces, rfl⟩ := List.exists_cons_of_ne_nil hpieces
      refine ⟨[] :: piece :: pieces, by simp, ?_, ?_, ?_⟩
      · rw [List.forall_mem_cons]
        exact ⟨by simpa using hne, hwithout⟩
      · rw [List.intercalate_cons_cons, ← htext, List.nil_append, hrest]
      · rw [← hrest, replaceFrom_part hne, hrenamed, List.intercalate_cons_cons]
        rfl
    · obtain ⟨pieces, hpieces, hwithout, htext, hrenamed⟩ := exists_pieces hne cs
      obtain ⟨piece, pieces, rfl⟩ := List.exists_cons_of_ne_nil hpieces
      -- the character is added to the first piece, and the part does not begin with it
      have hjoin : ∀ sep : List Char, sep.intercalate ((c :: piece) :: pieces) =
          c :: sep.intercalate (piece :: pieces) := by
        intro sep
        cases pieces with
        | nil => simp
        | cons next pieces => rw [List.intercalate_cons_cons, List.intercalate_cons_cons]; rfl
      refine ⟨(c :: piece) :: pieces, by simp, ?_, ?_, ?_⟩
      · rw [List.forall_mem_cons] at hwithout ⊢
        refine ⟨?_, hwithout.2⟩
        rw [List.infix_cons_iff, not_or]
        refine ⟨fun hpart => hstart ?_, hwithout.1⟩
        rw [htext, ← hjoin]
        refine hpart.trans ?_
        cases pieces with
        | nil => simp
        | cons next pieces =>
          rw [List.intercalate_cons_cons, List.append_assoc]
          exact List.prefix_append _ _
      · rw [hjoin, ← htext]
      · rw [replaceFrom_keep hstart, hrenamed, hjoin]
termination_by cs => cs.length

end Replacing

theorem length_intercalate_le {part other : String} (h : other.length ≤ part.length) :
    ∀ pieces : List String, (other.intercalate pieces).length ≤ (part.intercalate pieces).length
  | [] => Nat.le_refl _
  | [_] => Nat.le_refl _
  | piece :: next :: pieces => by
    have hrest := length_intercalate_le h (next :: pieces)
    rw [String.intercalate_cons_cons, String.intercalate_cons_cons]
    simp only [String.length_append]
    omega

/-- A text is the same with a part replaced by a shorter one, if it does not hold the part. -/
theorem Renames.eq_iff {part other text renamed : String} (h : Renames part other text renamed)
    (hlength : other.length < part.length) : renamed = text ↔ ¬ part.toList <:+: text.toList := by
  obtain ⟨pieces, hpieces, hwithout, rfl, rfl⟩ := h
  cases pieces with
  | nil => exact absurd rfl hpieces
  | cons piece pieces =>
    cases pieces with
    | nil =>
      rw [String.intercalate_singleton, String.intercalate_singleton]
      exact iff_of_true rfl (hwithout piece List.mem_cons_self)
    | cons next pieces =>
      have hrest := length_intercalate_le hlength.le (next :: pieces)
      rw [String.intercalate_cons_cons, String.intercalate_cons_cons]
      refine iff_of_false (fun hsame => ?_) (not_not_intro ?_)
      · have hlengths := congrArg String.length hsame
        simp only [String.length_append] at hlengths
        omega
      · rw [String.toList_append, String.toList_append]
        exact (List.suffix_append _ _).isInfix.trans (List.prefix_append _ _).isInfix

/-! ## Replacing a name in an annotation -/

section Marks

open Json.Quote

variable {part other : List Char}

/-- A part of characters that are written as they are is found at the beginning of what is written only if it is
found at the beginning of the text. -/
theorem prefix_of_encode (hplain : ∀ c ∈ part, encodeChar c = [c]) : ∀ {cs rest : List Char},
    part <+: cs.flatMap encodeChar ++ '"' :: rest → part <+: cs := by
  induction part with
  | nil => exact fun _ => List.nil_prefix
  | cons a part ih =>
    rw [List.forall_mem_cons] at hplain
    intro cs rest hstart
    have hslash : a ≠ '\\' := by
      rintro rfl
      exact absurd hplain.1 (by decide)
    cases cs with
    | nil =>
      obtain ⟨rfl, -⟩ := List.cons_prefix_cons.mp hstart
      exact absurd hplain.1 (by decide)
    | cons c cs =>
      rw [List.flatMap_cons, List.append_assoc] at hstart
      have hspelled := spelled_encodeChar c
      generalize encodeChar c = written at hspelled hstart
      cases hspelled with
      | plain hlow hhigh hquote hback =>
        obtain ⟨rfl, hrest⟩ := List.cons_prefix_cons.mp hstart
        exact List.cons_prefix_cons.mpr ⟨rfl, ih hplain.2 hrest⟩
      | short hescape => exact absurd (List.cons_prefix_cons.mp hstart).1 hslash
      | unit hbasic hprint hshort => exact absurd (List.cons_prefix_cons.mp hstart).1 hslash
      | pair hbeyond => exact absurd (List.cons_prefix_cons.mp hstart).1 hslash

/-- An at sign is written for an at sign only. -/
theorem at_notMem_encodeChar {c : Char} (h : c ≠ '@') : '@' ∉ encodeChar c := by
  have hdigit : ∀ n : Fin 16, '@' ≠ Text.hexDigit n := by decide
  have hmark : ∀ escape ∈ shortEscapes, '@' ≠ escape.2 := by decide
  have hunit : ∀ unit, '@' ∉ unitEscape unit := by
    intro unit
    simp only [unitEscape_eq, List.mem_cons, List.not_mem_nil, or_false, not_or]
    exact ⟨by decide, by decide, hdigit ⟨_, Nat.mod_lt _ (by decide)⟩, hdigit ⟨_, Nat.mod_lt _ (by decide)⟩,
      hdigit ⟨_, Nat.mod_lt _ (by decide)⟩, hdigit ⟨_, Nat.mod_lt _ (by decide)⟩⟩
  have hspelled := spelled_encodeChar c
  generalize encodeChar c = written at hspelled
  cases hspelled with
  | plain hlow hhigh hquote hslash => simpa using h.symm
  | short hescape =>
    simp only [List.mem_cons, List.not_mem_nil, or_false, not_or]
    exact ⟨by decide, hmark _ hescape⟩
  | unit hbasic hprint hshort => exact hunit _
  | pair hbeyond =>
    rw [List.mem_append, not_or]
    exact ⟨hunit _, hunit _⟩

theorem plain_of_all (h : (part.all fun c => encodeChar c == [c]) = true) : ∀ c ∈ part, encodeChar c = [c] := by
  simpa using h

theorem encode_plain (hplain : ∀ c ∈ part, encodeChar c = [c]) : part.flatMap encodeChar = part := by
  induction part with
  | nil => rfl
  | cons c part ih =>
    rw [List.forall_mem_cons] at hplain
    rw [List.flatMap_cons, hplain.1, ih hplain.2]
    rfl

/-- A part that begins with an at sign is replaced in what is written as it is replaced in the text. -/
theorem replaceFrom_encode (hhead : part.head? = some '@') (hplain : ∀ c ∈ part, encodeChar c = [c])
    (hother : ∀ c ∈ other, encodeChar c = [c]) {rest : List Char} (hrest : '@' ∉ rest) : ∀ cs : List Char,
    replaceFrom part other 0 (cs.flatMap encodeChar ++ '"' :: rest) =
      (replaceFrom part other 0 cs).flatMap encodeChar ++ '"' :: rest := by
  have hne : part ≠ [] := by
    rintro rfl
    cases hhead
  have hkept : ∀ {kept : List Char}, '@' ∉ kept → ∀ rest, replaceFrom part other 0 (kept ++ rest) =
      kept ++ replaceFrom part other 0 rest := by
    intro kept hkept rest
    refine replaceFrom_append hne ?_ rest
    intro c hc
    rw [hhead] at hc
    obtain rfl := Option.some.inj hc
    exact hkept
  intro cs
  induction hlength : cs.length using Nat.strong_induction_on generalizing cs with
  | _ length ih =>
    cases cs with
    | nil =>
      have hquote : '@' ∉ '"' :: rest := by simpa using hrest
      simpa [replaceFrom] using hkept hquote []
    | cons c cs =>
      by_cases hstart : part <+: c :: cs
      · obtain ⟨tail, htail⟩ := hstart
        have hshorter : tail.length < length := by
          have hpos := List.length_pos_iff.mpr hne
          rw [← hlength, ← htail, List.length_append]
          omega
        rw [← htail, List.flatMap_append, encode_plain hplain, List.append_assoc, replaceFrom_part hne,
          replaceFrom_part hne, ih _ hshorter tail rfl, List.flatMap_append, encode_plain hother,
          List.append_assoc]
      · have hshorter : cs.length < length := by
          rw [← hlength, List.length_cons]
          omega
        rw [replaceFrom_keep hstart, List.flatMap_cons, List.flatMap_cons, List.append_assoc,
          List.append_assoc, ← ih _ hshorter cs rfl]
        by_cases hat : c = '@'
        · obtain rfl := hat
          have hself : encodeChar '@' = ['@'] := by decide
          rw [hself, List.singleton_append, List.singleton_append]
          have hcons : ('@' :: cs).flatMap encodeChar ++ '"' :: rest =
              '@' :: (cs.flatMap encodeChar ++ '"' :: rest) := by rw [List.flatMap_cons, hself]; rfl
          refine replaceFrom_keep fun hpart => hstart ?_
          rw [← hcons] at hpart
          exact prefix_of_encode hplain hpart
        · exact hkept (at_notMem_encodeChar hat) _

end Marks

/-- **The annotation of a root page object** is that of an element under the other name, and quotes the selector's
text with the name replaced in it, too. -/
theorem pageMarker_marker (s : Selector) : pageMarker s.marker =
    "@PageMarker" ++ (".Find(" ++ s.dialect.name ++ " = ") ++ Json.Quote.encode (pageMarker s.value) ++ ")" := by
  have hplain : ∀ c ∈ "@ElementMarker".toList, Json.Quote.encodeChar c = [c] := plain_of_all (by decide)
  have hother : ∀ c ∈ "@PageMarker".toList, Json.Quote.encodeChar c = [c] := plain_of_all (by decide)
  have hhead : "@ElementMarker".toList.head? = some '@' := by decide
  have hopen : '@' ∉ (".Find(" ++ s.dialect.name ++ " = ").toList ++ ['"'] := by
    cases s.dialect <;> decide
  have hmarker : s.marker.toList = "@ElementMarker".toList ++
      (((".Find(" ++ s.dialect.name ++ " = ").toList ++ ['"']) ++
        (s.value.toList.flatMap Json.Quote.encodeChar ++ '"' :: [')'])) := by
    simp only [Selector.marker, Selector.finding, String.toList_append, Json.Quote.toList_encode,
      List.append_assoc, List.cons_append, List.nil_append]
    rfl
  rw [← String.toList_inj, pageMarker, String.toList_ofList, hmarker, replaceFrom_part (by decide),
    replaceFrom_append (by decide) (by rw [hhead]; simpa using hopen),
    replaceFrom_encode hhead hplain hother (by decide)]
  simp only [pageMarker, String.toList_append, Json.Quote.toList_encode, String.toList_ofList,
    List.append_assoc, List.cons_append, List.nil_append]
  rfl

/-- What the annotation of a root page object carries. -/
theorem found?_pageMarker (s : Selector) :
    found? "@PageMarker" (pageMarker s.marker) = some (s.dialect, pageMarker s.value) :=
  found?_eq_some_iff.mpr (foundIn?_eq_some_iff.mpr ⟨_, pageMarker_marker s, Json.Quote.parse_encode _ _⟩)

theorem renames_pageMarker (text : String) :
    Renames "@ElementMarker" "@PageMarker" text (pageMarker text) := by
  obtain ⟨pieces, hpieces, hwithout, htext, hrenamed⟩ :=
    @exists_pieces "@ElementMarker".toList "@PageMarker".toList (by decide) text.toList
  have hmap : (pieces.map String.ofList).map String.toList = pieces := by simp
  refine ⟨pieces.map String.ofList, by simpa using hpieces, ?_, ?_, ?_⟩
  · simpa using hwithout
  · rw [← String.toList_inj, String.toList_intercalate, hmap, htext]
  · rw [← String.toList_inj, String.toList_intercalate, hmap, pageMarker, String.toList_ofList, hrenamed]

/-! ## The annotation of the class -/

/-- The line begins as the head of a class does. -/
def opensClass (line : String) : Bool := "public final class ".toList.isPrefixOf line.toList

/-- The line begins with an at sign. -/
def isAnnotation (line : String) : Bool := line.toList.head? == some '@'

/-- The annotations of a class: the lines in front of its head that begin with an at sign. -/
def annotations (lines : List String) : List String :=
  (lines.takeWhile fun line => !opensClass line).filter isAnnotation

theorem annotations_append {front back : List String} {head : String}
    (hfront : ∀ line ∈ front, opensClass line = false) (hhead : opensClass head = true) :
    annotations (front ++ head :: back) = front.filter isAnnotation := by
  rw [annotations, List.takeWhile_append_of_pos (by simpa using hfront),
    List.takeWhile_cons_of_neg (by simp [hhead]), List.append_nil]

/-- Neither the package nor an import opens the class, or is an annotation. -/
theorem plain_of_mem_front {c : PageClass} {line : String}
    (h : line ∈ ["package " ++ classPackage c ++ ";", ""] ++ importLines (classImports c) ++ [""]) :
    opensClass line = false ∧ isAnnotation line = false := by
  simp only [List.mem_append, List.mem_cons, List.not_mem_nil, or_false] at h
  obtain ((rfl | rfl) | himport) | rfl := h
  · rw [opensClass, isAnnotation, String.append_assoc, String.toList_append]
    exact ⟨rfl, rfl⟩
  · exact ⟨rfl, rfl⟩
  · obtain ⟨name, -, rfl⟩ := List.mem_map.mp himport
    rw [opensClass, isAnnotation, String.append_assoc, String.toList_append]
    exact ⟨rfl, rfl⟩
  · exact ⟨rfl, rfl⟩

/-- The only annotation of the class of a root page object is that of the page object. -/
theorem annotations_classLines {c : PageClass} {s : Selector} (h : rootMarker? c = some s.marker) :
    annotations (classLines c) = [pageMarker s.marker] := by
  have hmarker : opensClass (pageMarker s.marker) = false ∧ isAnnotation (pageMarker s.marker) = true := by
    rw [pageMarker_marker, opensClass, isAnnotation, String.append_assoc, String.append_assoc,
      String.toList_append]
    exact ⟨rfl, rfl⟩
  have hhead : opensClass ("public final class " ++ c.implementationName ++ " extends " ++
      FrameworkType.basePageObject.name ++ " implements " ++ c.name ++ " \x7b") = true := by
    simp only [opensClass, String.append_assoc, String.toList_append, List.isPrefixOf_iff_prefix]
    exact List.prefix_append _ _
  have hfront := @plain_of_mem_front c
  unfold classLines
  generalize ["package " ++ classPackage c ++ ";", ""] ++ importLines (classImports c) ++ [""] = front
    at hfront ⊢
  rw [h, Option.toList_some, List.map_singleton, List.append_assoc, List.append_assoc, List.append_assoc,
    List.singleton_append, annotations_append ?_ hhead]
  · rw [List.filter_append, List.filter_eq_nil_iff.mpr fun line hline => by simp [(hfront hline).2],
      List.nil_append, List.filter_cons_of_pos hmarker.2, List.filter_nil]
  · intro line hline
    rcases List.mem_append.mp hline with hline | hline
    · exact (hfront hline).1
    · obtain rfl := List.mem_singleton.mp hline
      exact hmarker.1

end Java

namespace PageClass

variable {source : Source} {name package : String} {pc : PageClass}

/-- The class of a root page object has the annotation of the document's selector. -/
theorem ofSource_rootMarker? (h : ofSource source name package = .ok pc) (hroot : pc.isRoot = true) :
    ∃ d s, Document.load source = .ok d ∧ d.selector = some s ∧ Java.rootMarker? pc = some s.marker := by
  obtain ⟨d, page, methods, beforeLoad, hload, -, -, rfl⟩ := ofSource_eq_ok h
  obtain ⟨v, -, hread⟩ := Document.load_eq_ok.mp hload
  obtain ⟨fields, -, -, hcheck⟩ := Document.read_eq_done.mp hread
  obtain ⟨s, hselector⟩ := Option.isSome_iff_exists.mp ((Document.check_eq_ok_iff.mp hcheck).mpr hroot)
  have hmarker : (assemble page d methods beforeLoad).rootMarker = some s.marker := by
    rw [assemble, hselector]
    rfl
  have hnonempty : s.marker.isEmpty = false := by
    rw [← Bool.not_eq_true, String.isEmpty_iff, Selector.marker, ← String.toList_inj, String.toList_append]
    simp
  refine ⟨d, s, hload, hselector, ?_⟩
  rw [Java.rootMarker?, hmarker, Option.filter_some, hnonempty]
  rfl

open Java in
/-- **The annotation of a root page object.** Every root page object that is compiled can be written, and its
class has one annotation. It carries the dialect of the document's selector, and the selector's text with the name
of the one annotation replaced by that of the other, and so the text itself exactly if the name is not in it. -/
theorem ofSource_annotated (h : ofSource source name package = .ok pc) (hroot : pc.isRoot = true) :
    ∃ d s line value, Document.load source = .ok d ∧ d.selector = some s ∧
      sources? pc = some ⟨ofLines (interfaceLines pc), ofLines (classLines pc)⟩ ∧
      annotations (classLines pc) = [line] ∧ found? "@PageMarker" line = some (s.dialect, value) ∧
      Renames "@ElementMarker" "@PageMarker" s.value value ∧
      (value = s.value ↔ ¬ "@ElementMarker".toList <:+: s.value.toList) := by
  obtain ⟨d, s, hload, hselector, hmarker⟩ := ofSource_rootMarker? h hroot
  obtain ⟨sources, hsources⟩ := exists_sources h
  have hwritten := eq_of_sources? hsources
  have hrenames := renames_pageMarker s.value
  exact ⟨d, s, _, _, hload, hselector, hwritten ▸ hsources, annotations_classLines hmarker, found?_pageMarker s,
    hrenames, hrenames.eq_iff (by decide)⟩

/-- A root page object whose selector names the annotation of elements. -/
def marksSource : Source :=
  .value (.object
    [("root", .bool true), ("selector", .object [("css", .text "[title='@ElementMarker']")])])

theorem marksSource_annotated : ∃ pc, ofSource marksSource "Home" "my.app" = .ok pc ∧ pc.isRoot = true ∧
    ∃ d s line value, Document.load marksSource = .ok d ∧ d.selector = some s ∧
      Java.annotations (Java.classLines pc) = [line] ∧
      Java.found? "@PageMarker" line = some (s.dialect, value) ∧
      Java.Renames "@ElementMarker" "@PageMarker" s.value value := by
  have hok : (ofSource marksSource "Home" "my.app").toOption.any PageClass.isRoot = true := by decide
  obtain ⟨pc, hpc, hroot⟩ := exists_eq_ok hok
  obtain ⟨d, s, line, value, hload, hselector, -, hline, hfound, hrenames, -⟩ := ofSource_annotated hpc hroot
  exact ⟨pc, hpc, hroot, d, s, line, value, hload, hselector, hline, hfound, hrenames⟩

/-- **The selector is not kept**: in the annotation of this page object its text is another one. -/
theorem marksSource_renamed : ∃ pc d s line, ofSource marksSource "Home" "my.app" = .ok pc ∧
    Document.load marksSource = .ok d ∧ d.selector = some s ∧ s.value = "[title='@ElementMarker']" ∧
    Java.annotations (Java.classLines pc) = [line] ∧
    Java.found? "@PageMarker" line = some (.css, "[title='@PageMarker']") := by
  have hok : (ofSource marksSource "Home" "my.app").toOption.any PageClass.isRoot = true := by decide
  obtain ⟨pc, hpc, hroot⟩ := exists_eq_ok hok
  obtain ⟨d, s, hload, hselector, hmarker⟩ := ofSource_rootMarker? hpc hroot
  have hloaded : (Document.load marksSource).toOption.any (fun d =>
      decide (d.selector = some { css := some "[title='@ElementMarker']" })) = true := by decide
  obtain ⟨d', hload', hd'⟩ := exists_eq_ok hloaded
  obtain rfl : d = d' := Except.ok.inj (hload.symm.trans hload')
  obtain rfl : s = { css := some "[title='@ElementMarker']" } :=
    Option.some.inj (hselector.symm.trans (of_decide_eq_true hd'))
  exact ⟨pc, d, _, _, hpc, hload, hselector, rfl, Java.annotations_classLines hmarker, Java.found?_pageMarker _⟩

end PageClass
end PageObjects
