import PageObjects.Proofs.Document.WellFormed
import PageObjects.Proofs.Guarded.Compilation
import PageObjects.Proofs.Java.Comments
import PageObjects.Proofs.Java.Imports
import PageObjects.Proofs.MemberNames
import PageObjects.Proofs.Text.Identifier
import PageObjects.Proofs.Text.Parts

/-!
# Interfaces of basic elements

The interface of a page object has an interface inside for the type of each basic element. It is written once for
each name, for the first element whose type has the name, and extends what that element declares, as often as it
is declared. Nothing is written for what other elements of the type declare. These interfaces are written by the
Writer (specification, 2 and 6).

* `Java.nestedHeaders`: the interfaces inside, read off the lines: their names, and what they extend.
* `PageClass.first?`: the first element whose type has a name.
* **`PageClass.ofSource_nests`**: the interfaces inside are those of the types, and each extends what the first
  element of the type declares; what that says about all elements of the type.
* `PageClass.buttonsSource_lacks`: an interface that is extended twice, and one that is not extended.
-/

namespace PageObjects

namespace Java

/-! ## Reading headers -/

/-- What an interface inside another is called, and what it extends: the words between `interface` and the empty
body, with commas behind all that it extends but the last. -/
def nestedHeader? (line : String) : Option (String × List String) :=
  (between? (indent ++ "interface ") " \x7b\x7d" line).bind fun inner =>
    match ResultType.parts ' ' inner with
    | name :: "extends" :: parents => some (name, parents.map fun parent => (between? "" "," parent).getD parent)
    | _ => none

/-- The interfaces inside another, by their lines. -/
def nestedHeaders (lines : List String) : List (String × List String) := lines.filterMap nestedHeader?

/-- The texts with a comma behind all but the last. -/
def commaed : List String → List String
  | [] => []
  | [text] => [text]
  | text :: next :: texts => (text ++ ",") :: commaed (next :: texts)

theorem commaed_ne_nil : ∀ {texts : List String}, texts ≠ [] → commaed texts ≠ []
  | [], h => h
  | [_], h => h
  | _ :: _ :: _, _ => List.cons_ne_nil _ _

theorem intercalate_commaed : ∀ texts : List String, ", ".intercalate texts = " ".intercalate (commaed texts)
  | [] => rfl
  | [_] => rfl
  | text :: next :: texts => by
    have hcomma : ", " = "," ++ " " := rfl
    rw [commaed, String.intercalate_cons_cons, intercalate_commaed (next :: texts), hcomma,
      String.intercalate_cons_of_ne_nil (commaed_ne_nil (List.cons_ne_nil next texts))]
    simp only [String.append_assoc]

theorem notMem_commaed : ∀ {texts : List String}, (∀ text ∈ texts, ' ' ∉ text.toList) →
    ∀ text ∈ commaed texts, ' ' ∉ text.toList
  | [], _ => by simp [commaed]
  | [_], h => h
  | text :: next :: texts, h => by
    rw [List.forall_mem_cons] at h
    rw [commaed, List.forall_mem_cons]
    exact ⟨by simpa using h.1, notMem_commaed h.2⟩

theorem uncomma_commaed : ∀ {texts : List String}, (∀ text ∈ texts, ',' ∉ text.toList) →
    (commaed texts).map (fun text => (between? "" "," text).getD text) = texts := by
  have hlast : ∀ {text : String}, ',' ∉ text.toList → between? "" "," text = none := by
    intro text htext
    rw [Option.eq_none_iff_forall_ne_some]
    intro inner hinner
    rw [between?_eq_some_iff.mp hinner] at htext
    simp at htext
  have hcomma : ∀ text : String, between? "" "," (text ++ ",") = some text := fun text =>
    between?_eq_some_iff.mpr (by rw [String.empty_append])
  intro texts h
  induction texts with
  | nil => rfl
  | cons text texts ih =>
    rw [List.forall_mem_cons] at h
    cases texts with
    | nil => rw [commaed, List.map_singleton, hlast h.1, Option.getD_none]
    | cons next texts => rw [commaed, List.map_cons, hcomma, Option.getD_some, ih h.2]

/-- A header is read as it is written. -/
theorem nestedHeader?_header {name : String} {parents : List String} (hne : parents ≠ [])
    (hname : ' ' ∉ name.toList) (hparents : ∀ parent ∈ parents, ' ' ∉ parent.toList ∧ ',' ∉ parent.toList) :
    nestedHeader? (indent ++ "interface " ++ name ++ " extends " ++ ", ".intercalate parents ++ " \x7b\x7d") =
      some (name, parents) := by
  have hinner : between? (indent ++ "interface ") " \x7b\x7d" (indent ++ "interface " ++ name ++ " extends " ++
      ", ".intercalate parents ++ " \x7b\x7d") =
        some (" ".intercalate (name :: "extends" :: commaed parents)) := by
    have hextends : " extends " = " " ++ "extends" ++ " " := rfl
    rw [between?_eq_some_iff, String.intercalate_cons_cons, String.intercalate_cons_of_ne_nil (commaed_ne_nil hne),
      ← intercalate_commaed, hextends]
    simp only [String.append_assoc]
  have hwords : ResultType.parts ' ' (" ".intercalate (name :: "extends" :: commaed parents)) =
      name :: "extends" :: commaed parents := by
    have hall : ∀ word ∈ name :: "extends" :: commaed parents, ResultType.parts ' ' word = [word] := by
      rw [List.forall_mem_cons, List.forall_mem_cons]
      exact ⟨ResultType.parts_of_notMem hname, by decide, fun word hword =>
        ResultType.parts_of_notMem (notMem_commaed (fun parent hparent => (hparents parent hparent).1) word hword)⟩
    have hsplit := @ResultType.parts_intercalate ' ' (name :: "extends" :: commaed parents) (by simp)
    rw [List.flatMap_congr hall, List.flatMap_singleton'] at hsplit
    exact hsplit
  have hparents' := uncomma_commaed fun parent hparent => (hparents parent hparent).2
  rw [nestedHeader?, hinner, Option.bind_some, hwords]
  exact congrArg (fun parents => some (name, parents)) hparents'

/-- A line that does not begin as an indented word does holds no header. -/
theorem nestedHeader?_eq_none {line : String} (h : line.toList.take 3 ≠ [' ', ' ', 'i']) :
    nestedHeader? line = none := by
  have hbetween : between? (indent ++ "interface ") " \x7b\x7d" line = none := by
    rw [Option.eq_none_iff_forall_ne_some]
    intro inner hinner
    rw [between?_eq_some_iff.mp hinner, String.append_assoc, String.toList_append] at h
    exact h rfl
  rw [nestedHeader?, hbetween, Option.bind_none]

/-- A line that does not end as an empty body does holds no header. -/
theorem nestedHeader?_append {a b : String} (hb : b ≠ "") (h : b.toList.getLast? ≠ some '\x7d') :
    nestedHeader? (a ++ b) = none := by
  rw [nestedHeader?, between?_append hb (by decide) (by simpa using h), Option.bind_none]

theorem nestedHeader?_comment {margin line : String} {description : Option String} (hmargin : IsMargin margin)
    (h : line ∈ comment margin description) : nestedHeader? line = none := by
  have hinner : ∀ text : String, (margin ++ " * " ++ text).toList.take 3 ≠ [' ', ' ', 'i'] := by
    intro text
    rw [String.toList_append, List.take_append_of_le_length (by simp)]
    rcases hmargin with rfl | rfl <;> decide
  obtain rfl | ⟨text, rfl⟩ | rfl := of_mem_comment h
  · rcases hmargin with rfl | rfl <;> exact nestedHeader?_eq_none (by decide)
  · exact nestedHeader?_eq_none (hinner text)
  · rcases hmargin with rfl | rfl <;> exact nestedHeader?_eq_none (by decide)

theorem nestedHeader?_preamble {c : PageClass} {line : String} (h : line ∈ preamble c) :
    nestedHeader? line = none := by
  have hempty : nestedHeader? "" = none := nestedHeader?_eq_none (by decide)
  rw [preamble, List.mem_append, List.mem_append, List.mem_singleton] at h
  obtain (hpackage | himport) | rfl := h
  · split at hpackage
    · exact absurd hpackage (by simp)
    · obtain rfl | hpackage := List.mem_cons.mp hpackage
      · exact nestedHeader?_append (by decide) (by decide)
      · rw [List.mem_singleton.mp hpackage, hempty]
  · obtain ⟨name, -, rfl⟩ := List.mem_map.mp himport
    exact nestedHeader?_append (by decide) (by decide)
  · exact hempty

theorem nestedHeader?_member {m : InterfaceMember} {line : String} (h : line ∈ m.lines) :
    nestedHeader? line = none := by
  rw [InterfaceMember.lines, List.mem_append, List.mem_cons, List.mem_singleton] at h
  obtain (rfl | hcomment) | rfl := h
  · exact nestedHeader?_eq_none (by decide)
  · exact nestedHeader?_comment (.inr rfl) hcomment
  · exact nestedHeader?_append (by decide) (by decide)

/-! ## The interfaces inside -/

/-- What the interface of an element's type extends. -/
def parentNames (g : Getter) : List String :=
  (FrameworkType.basicElement :: elementInterfaces g).map FrameworkType.name

theorem nestedLines_eq (g : Getter) : nestedLines g = ["", indent ++ "interface " ++ g.typeName ++ " extends " ++
    ", ".intercalate (parentNames g) ++ " \x7b\x7d"] := rfl

/-- Only what an element may declare has an interface of the framework. -/
theorem supported_of_ofInterface? {i : String} {t : FrameworkType} (h : FrameworkType.ofInterface? i = some t) :
    i ∈ Action.supportedInterfaces :=
  List.mem_map_of_mem (f := Prod.fst) (mem_of_lookup h)

/-- The names of the framework's interfaces are words. -/
theorem word_of_mem_parentNames {g : Getter} {parent : String} (h : parent ∈ parentNames g) :
    ' ' ∉ parent.toList ∧ ',' ∉ parent.toList := by
  have hall : ∀ i ∈ Action.supportedInterfaces, ∀ t ∈ FrameworkType.ofInterface? i,
      ' ' ∉ t.name.toList ∧ ',' ∉ t.name.toList := by decide
  rw [parentNames, List.map_cons, List.mem_cons] at h
  obtain rfl | h := h
  · decide
  · obtain ⟨t, ht, rfl⟩ := List.mem_map.mp h
    obtain ⟨i, -, hi⟩ := List.mem_filterMap.mp ht
    exact hall i (supported_of_ofInterface? hi) t hi

/-- **The interfaces inside** are those of the getters that are chosen for them. -/
theorem nestedHeaders_interfaceLines {c : PageClass} (h : ∀ g ∈ nested c, ' ' ∉ g.typeName.toList) :
    nestedHeaders (interfaceLines c) = (nested c).map fun g => (g.typeName, parentNames g) := by
  have hhead : nestedHeader? (interfaceHead c) = none := nestedHeader?_append (by decide) (by decide)
  have hclose : nestedHeader? "\x7d" = none := nestedHeader?_eq_none (by decide)
  have hsplit : interfaceLines c = (preamble c ++ (comment "" c.description ++
      interfaceHead c :: (interfaceMembers c).flatMap InterfaceMember.lines)) ++
        ((nested c).flatMap nestedLines ++ ["\x7d"]) := by
    rw [interfaceLines_eq, interfaceBody]
    simp only [List.append_assoc, List.cons_append]
  have hfront : (preamble c ++ (comment "" c.description ++
      interfaceHead c :: (interfaceMembers c).flatMap InterfaceMember.lines)).filterMap nestedHeader? = [] := by
    rw [List.filterMap_eq_nil_iff]
    intro line hline
    simp only [List.mem_append, List.mem_cons, List.mem_flatMap] at hline
    obtain hline | hline | rfl | ⟨m, -, hline⟩ := hline
    · exact nestedHeader?_preamble hline
    · exact nestedHeader?_comment (.inl rfl) hline
    · exact hhead
    · exact nestedHeader?_member hline
  have hlines : ∀ g ∈ nested c, (nestedLines g).filterMap nestedHeader? = [(g.typeName, parentNames g)] := by
    intro g hg
    have hblank : nestedHeader? "" = none := nestedHeader?_eq_none (by decide)
    have hheader := @nestedHeader?_header g.typeName (parentNames g) (List.cons_ne_nil _ _) (h g hg)
      fun parent => word_of_mem_parentNames
    rw [nestedLines_eq, List.filterMap_cons_none hblank, List.filterMap_cons_some hheader, List.filterMap_nil]
  calc nestedHeaders (interfaceLines c)
      = (nested c).flatMap fun g => (nestedLines g).filterMap nestedHeader? := by
        rw [nestedHeaders, hsplit, List.filterMap_append, hfront, List.nil_append, List.filterMap_append,
          List.filterMap_flatMap, List.filterMap_cons_none hclose, List.filterMap_nil, List.append_nil]
    _ = (nested c).flatMap fun g => [(g.typeName, parentNames g)] := List.flatMap_congr hlines
    _ = (nested c).map fun g => (g.typeName, parentNames g) := List.map_eq_flatMap.symm

/-- The getters that are chosen are the first of their types. -/
theorem mem_nestedFrom {seen : List String} {gs : List Getter} {g : Getter} : g ∈ nestedFrom seen gs ↔
    g.typeName ∉ seen ∧ gs.find? (fun g' => !g'.isPageObject && g'.typeName == g.typeName) = some g := by
  fun_induction nestedFrom seen gs with
  | case1 seen => simp
  | case2 seen first rest type hskip ih =>
    rw [ih]
    refine and_congr_right fun hunseen => ?_
    rw [List.find?_cons_of_neg]
    simp only [Bool.and_eq_true, Bool.not_eq_true', beq_iff_eq, not_and]
    rintro hbasic htype
    rw [Bool.or_eq_true, List.contains_iff_mem] at hskip
    rcases hskip with hseen | hpage
    · exact hunseen (htype ▸ hseen)
    · exact absurd (hbasic.symm.trans hpage) (by simp)
  | case3 seen first rest type hkeep ih =>
    simp only [Bool.or_eq_true, List.contains_iff_mem, not_or, Bool.not_eq_true] at hkeep
    obtain ⟨hunseen, hbasic⟩ := hkeep
    have hfirst : first.isPageObject = false := hbasic
    rw [List.mem_cons, ih, List.mem_cons, not_or]
    by_cases htype : first.typeName = g.typeName
    · rw [List.find?_cons_of_pos (by simp [hfirst, htype])]
      constructor
      · rintro (rfl | ⟨⟨hdiffer, -⟩, -⟩)
        · exact ⟨hunseen, rfl⟩
        · exact absurd htype.symm hdiffer
      · rintro ⟨-, hfound⟩
        exact .inl (Option.some.inj hfound).symm
    · rw [List.find?_cons_of_neg (by simp [htype])]
      constructor
      · rintro (rfl | ⟨⟨-, hrest⟩, hfound⟩)
        · exact absurd rfl htype
        · exact ⟨hrest, hfound⟩
      · rintro ⟨hrest, hfound⟩
        exact .inr ⟨⟨Ne.symm htype, hrest⟩, hfound⟩

theorem nodup_nestedFrom (seen : List String) (gs : List Getter) :
    ((nestedFrom seen gs).map Getter.typeName).Nodup := by
  fun_induction nestedFrom seen gs with
  | case1 seen => exact List.nodup_nil
  | case2 seen first rest type hskip ih => exact ih
  | case3 seen first rest type hkeep ih =>
    refine List.nodup_cons.mpr ⟨fun hmem => ?_, ih⟩
    obtain ⟨g, hg, htype⟩ := List.mem_map.mp hmem
    exact (mem_nestedFrom.mp hg).1 (htype ▸ List.mem_cons_self)

/-! ## What is extended -/

/-- An element may declare the interfaces. -/
def Supported (interfaces : List String) : Prop := ∀ i ∈ interfaces, i ∈ Action.supportedInterfaces

/-- Every interface that an element may declare has one of the framework, of a name of its own. -/
theorem exists_ofInterface? {i : String} (h : i ∈ Action.supportedInterfaces) : ∃ t,
    FrameworkType.ofInterface? i = some t ∧ t.name ≠ FrameworkType.basicElement.name ∧
      ∀ j ∈ Action.supportedInterfaces, ∀ t', FrameworkType.ofInterface? j = some t' → t'.name = t.name →
        j = i := by
  have hall : ∀ i ∈ Action.supportedInterfaces, ∃ t ∈ FrameworkType.ofInterface? i,
      t.name ≠ FrameworkType.basicElement.name ∧ ∀ j ∈ Action.supportedInterfaces,
        ∀ t' ∈ FrameworkType.ofInterface? j, t'.name = t.name → j = i := by decide
  exact hall i h

/-- The names of the framework's interfaces for declared ones. -/
def extended (interfaces : List String) : List String :=
  (interfaces.filterMap FrameworkType.ofInterface?).map FrameworkType.name

theorem parentNames_eq (g : Getter) :
    parentNames g = FrameworkType.basicElement.name :: extended g.interfaces := rfl

variable {interfaces : List String} {i : String} {t : FrameworkType}

theorem name_mem_extended (h : FrameworkType.ofInterface? i = some t) :
    t.name ∈ extended interfaces ↔ i ∈ interfaces := by
  obtain ⟨t', ht', -, hsame⟩ := exists_ofInterface? (supported_of_ofInterface? h)
  obtain rfl : t = t' := Option.some.inj (h.symm.trans ht')
  constructor
  · intro hmem
    obtain ⟨t', hmem, hname⟩ := List.mem_map.mp hmem
    obtain ⟨j, hj, hfound⟩ := List.mem_filterMap.mp hmem
    exact hsame j (supported_of_ofInterface? hfound) t' hfound hname ▸ hj
  · exact fun hi => List.mem_map_of_mem (List.mem_filterMap.mpr ⟨i, hi, h⟩)

theorem basicElement_notMem_extended : FrameworkType.basicElement.name ∉ extended interfaces := by
  intro hmem
  obtain ⟨t, hmem, hname⟩ := List.mem_map.mp hmem
  obtain ⟨i, -, hi⟩ := List.mem_filterMap.mp hmem
  obtain ⟨t', ht', hbasic, -⟩ := exists_ofInterface? (supported_of_ofInterface? hi)
  obtain rfl : t = t' := Option.some.inj (hi.symm.trans ht')
  exact hbasic hname

/-- An interface of the framework is extended as often as it is declared. -/
theorem nodup_extended_iff (h : Supported interfaces) : (extended interfaces).Nodup ↔ interfaces.Nodup := by
  induction interfaces with
  | nil => exact Iff.rfl
  | cons i interfaces ih =>
    obtain ⟨hi, hrest⟩ := List.forall_mem_cons.mp h
    obtain ⟨t, ht, -⟩ := exists_ofInterface? hi
    have hcons : extended (i :: interfaces) = t.name :: extended interfaces := by
      rw [extended, List.filterMap_cons_some ht, List.map_cons, extended]
    rw [hcons, List.nodup_cons, List.nodup_cons, name_mem_extended ht, ih hrest]

/-- An interface with the given parents extends the framework's interface for a declared one, which is imported. -/
def Extends (c : PageClass) (parents : List String) (i : String) : Prop := ∃ t,
  FrameworkType.ofInterface? i = some t ∧ t.name ∈ parents ∧ "import " ++ t.fullName ++ ";" ∈ interfaceLines c

theorem import_mem_interfaceLines {c : PageClass} {name : String} (h : name ∈ interfaceImports c) :
    "import " ++ name ++ ";" ∈ interfaceLines c := by
  rw [interfaceLines_eq, preamble]
  exact List.mem_append_left _ (List.mem_append_left _ (List.mem_append_right _ (mem_importLines_iff.mpr h)))

/-- What the interface of a type extends is imported, and it is what the getter of its element declares. -/
theorem extends_iff {c : PageClass} {g : Getter} (hg : g ∈ nested c) (hi : i ∈ Action.supportedInterfaces) :
    Extends c (parentNames g) i ↔ i ∈ g.interfaces := by
  obtain ⟨t, ht, hbasic, -⟩ := exists_ofInterface? hi
  have hname : t.name ∈ parentNames g ↔ i ∈ g.interfaces := by
    rw [parentNames_eq, List.mem_cons, or_iff_right hbasic, name_mem_extended ht]
  constructor
  · rintro ⟨t', ht', hmem, -⟩
    obtain rfl : t = t' := Option.some.inj (ht.symm.trans ht')
    exact hname.mp hmem
  · intro hdeclared
    refine ⟨t, ht, hname.mpr hdeclared, import_mem_interfaceLines ?_⟩
    refine List.mem_append_right _ (List.mem_flatMap.mpr ⟨g, hg, List.mem_map_of_mem ?_⟩)
    exact List.mem_filterMap.mpr ⟨i, hdeclared, ht⟩

end Java

/-! ## Elements of a document -/

/-- The getter is that of the element: it has its name and its interfaces, and is that of another page object if
the element is one. -/
structure Element.Gets (e : Element) (g : Getter) : Prop where
  name : g.elementName = e.name
  interfaces : g.interfaces = e.kind.interfaces
  kind : g.isPageObject = e.kind.reference?.isSome

theorem ResultType.ofReference_interfaces {reference : String} {t : NamedType}
    (h : ofReference reference = .ok t) : t.interfaces = none := by
  unfold ofReference at h
  split at h
  · dsimp only at h
    split at h
    · exact absurd h (by simp)
    · exact Except.ok.inj h ▸ rfl
  · exact absurd h (by simp)

theorem Element.gets_of_declaration {e : Element} {element : PageElement}
    (h : PageElement.ofDeclaration e = .ok element) : e.Gets (Getter.ofElement element) := by
  cases PageElement.ofDeclaration_declares h with
  | pageObject hreference htype =>
    refine ⟨rfl, ?_, ?_⟩
    · rw [Getter.ofElement, ResultType.ofReference_interfaces htype, hreference]
      rfl
    · rw [Getter.isPageObject_ofElement, ResultType.ofReference_isPageObject htype, hreference]
      rfl
  | basic hreference =>
    refine ⟨rfl, rfl, Getter.isPageObject_ofElement.trans ?_⟩
    cases hkind : e.kind with
    | pageObject reference => exact absurd hkind (hreference reference)
    | basic interfaces => rfl
    | untyped => rfl

namespace PageClass

/-- The first basic element whose type has a name. -/
def first? (pc : PageClass) (type : String) : Option Getter :=
  pc.elements.find? fun g => !g.isPageObject && g.typeName == type

open Java

/-- The elements of a page class are the root and those of the document, in order. -/
structure Follows (pc : PageClass) (d : Document) : Prop where
  elements : ∃ root getters, pc.elements = root :: getters ∧ root.elementName = "root" ∧
    root.interfaces = d.interfaces ∧ root.isPageObject = false ∧ List.Forall₂ Element.Gets d.elements getters
  identifiers : ∀ g ∈ pc.elements, Text.isIdentifier g.elementName = true
  types : ∀ g ∈ pc.elements, g.isPageObject = false → g.typeName = Text.capitalize g.elementName ++ "Element"
  supported : ∀ g ∈ pc.elements, Supported g.interfaces

/-- The interfaces inside the interface of a page class. -/
structure Nests (pc : PageClass) : Prop where
  /-- There is one for the name of each type of basic elements. -/
  once : ((nestedHeaders (interfaceLines pc)).map Prod.fst).Nodup
  types : ∀ type, type ∈ (nestedHeaders (interfaceLines pc)).map Prod.fst ↔ type ∈ pc.typeNames
  /-- It extends the interface of basic elements and the framework's interfaces for those that the first element of
  the type declares, as often as it declares them. -/
  parents : ∀ type parents, (type, parents) ∈ nestedHeaders (interfaceLines pc) → ∃ first,
    pc.first? type = some first ∧
      parents = FrameworkType.basicElement.name :: (elementInterfaces first).map FrameworkType.name ∧
      (parents.Nodup ↔ first.interfaces.Nodup) ∧
      ∀ g ∈ pc.elements, g.isPageObject = false → g.typeName = type → ∀ i ∈ g.interfaces,
        Extends pc parents i ↔ i ∈ first.interfaces
  /-- The interface of basic elements is imported. -/
  basic : "import " ++ FrameworkType.basicElement.fullName ++ ";" ∈ interfaceLines pc

variable {source : Source} {name package : String} {pc : PageClass}

theorem mem_nested_iff {g : Getter} : g ∈ nested pc ↔ pc.first? g.typeName = some g := by
  rw [nested, mem_nestedFrom, first?]
  exact and_iff_right List.not_mem_nil

theorem basic_of_first? {type : String} {g : Getter} (h : pc.first? type = some g) :
    g ∈ pc.elements ∧ g.isPageObject = false ∧ g.typeName = type := by
  have hfound := List.find?_some h
  simp only [Bool.and_eq_true, Bool.not_eq_true', beq_iff_eq] at hfound
  exact ⟨List.mem_of_find?_eq_some h, hfound⟩

theorem ofSource_follows (h : ofSource source name package = .ok pc) :
    ∃ d, Document.load source = .ok d ∧ pc.Follows d := by
  have hnames := ofSource_namesMembers h
  obtain ⟨d, page, methods, beforeLoad, hload, hreview, hpage, -, rfl⟩ := ofSource_eq_ok_iff.mp h
  have hkept := Document.load_kept hload
  have haccepted := Document.findings_eq_nil.mp hreview
  obtain ⟨elements, hdeclared, rfl⟩ := pageOf_declaredAs hpage
  have hgets : List.Forall₂ Element.Gets d.elements (elements.map Getter.ofElement) := by
    rw [List.forall₂_map_right_iff]
    exact hdeclared.imp fun _ _ => Element.gets_of_declaration
  have hall : ∀ {P : Getter → Prop}, P (Getter.ofElement (.root d.interfaces d.exposeRootElement)) →
      (∀ e ∈ d.elements, ∀ g, e.Gets g → P g) →
      ∀ g ∈ (assemble { name, package, elements := .root d.interfaces d.exposeRootElement :: elements } d
        methods beforeLoad).elements, P g := by
    intro P hroot hP
    rw [assemble, List.map_cons, List.forall_mem_cons]
    refine ⟨hroot, fun g hg => ?_⟩
    obtain ⟨e, he, hget⟩ := exists_of_mem_forall₂ hgets g hg
    exact hP e he g hget
  refine ⟨d, hload, {
    elements := ⟨_, _, rfl, rfl, rfl, rfl, hgets⟩
    identifiers := hall (by decide : Text.isIdentifier "root" = true) fun e he g hget =>
      hget.name ▸ Element.isIdentifier_of_check (hkept.elements e he)
    types := fun g hg hbasic => ?_
    supported := hall (Action.checkInterfaces_eq_ok.mp haccepted.interfaces) fun e he g hget => ?_ }⟩
  · rw [(hnames.getters g hg).type hbasic, Getter.stem, hbasic]
    rfl
  · rw [hget.interfaces]
    cases hkind : e.kind with
    | basic interfaces =>
      have hchecked := (haccepted.accepted e he).interfaces (by rw [hkind]; rfl)
      rw [hkind] at hchecked
      exact Action.checkInterfaces_eq_ok.mp hchecked
    | pageObject reference => exact fun i hi => absurd hi (by simp [ElementKind.interfaces])
    | untyped => exact fun i hi => absurd hi (by simp [ElementKind.interfaces])

/-- The types of basic elements are words. -/
theorem Follows.blank_notMem {d : Document} (h : pc.Follows d) : ∀ g ∈ pc.elements, g.isPageObject = false →
    ' ' ∉ g.typeName.toList := by
  intro g hg hbasic hblank
  rw [h.types g hg hbasic, String.toList_append, List.mem_append] at hblank
  rcases hblank with hblank | hblank
  · exact absurd (Text.continuesIdentifier_of_mem_capitalize (h.identifiers g hg) _ hblank) (by decide)
  · exact absurd hblank (by decide)

theorem Follows.nestedHeaders_eq {d : Document} (h : pc.Follows d) :
    nestedHeaders (interfaceLines pc) = (nested pc).map fun g => (g.typeName, parentNames g) := by
  refine nestedHeaders_interfaceLines fun g hg => ?_
  obtain ⟨hmem, hbasic, -⟩ := basic_of_first? (mem_nested_iff.mp hg)
  exact h.blank_notMem g hmem hbasic

theorem Follows.nests {d : Document} (h : pc.Follows d) : Nests pc where
  once := by
    rw [h.nestedHeaders_eq, List.map_map]
    exact nodup_nestedFrom [] pc.elements
  types type := by
    rw [h.nestedHeaders_eq, List.map_map, typeNames]
    simp only [List.mem_map, List.mem_filter, Function.comp_apply]
    constructor
    · rintro ⟨g, hg, rfl⟩
      obtain ⟨hmem, hbasic, -⟩ := basic_of_first? (mem_nested_iff.mp hg)
      exact ⟨g, ⟨hmem, by simp [hbasic]⟩, rfl⟩
    · rintro ⟨g, ⟨hmem, hbasic⟩, rfl⟩
      have hfound : (pc.first? g.typeName).isSome = true :=
        List.find?_isSome.mpr ⟨g, hmem, by simpa using hbasic⟩
      obtain ⟨first, hfirst⟩ := Option.isSome_iff_exists.mp hfound
      obtain ⟨-, -, htype⟩ := basic_of_first? hfirst
      exact ⟨first, mem_nested_iff.mpr (htype.symm ▸ hfirst), htype⟩
  parents type parents hheader := by
    rw [h.nestedHeaders_eq, List.mem_map] at hheader
    obtain ⟨first, hnested, hpair⟩ := hheader
    obtain ⟨rfl, rfl⟩ := Prod.mk.inj hpair
    have hfirst := mem_nested_iff.mp hnested
    obtain ⟨hmem, -, -⟩ := basic_of_first? hfirst
    refine ⟨first, hfirst, rfl, ?_, fun g hg _ _ i hi => extends_iff hnested (h.supported g hg i hi)⟩
    rw [parentNames_eq, List.nodup_cons, nodup_extended_iff (h.supported first hmem),
      and_iff_right basicElement_notMem_extended]
  basic := import_mem_interfaceLines (by simp [interfaceImports])

/-- **The interfaces inside.** Every page object that is compiled can be written. The interface of the page object
has one interface inside for each name of a type of its basic elements, the root, private elements and lists among
them. It extends what the first element of the type declares: nothing twice if that declares nothing twice, and
what another element of the type declares only if the first does so, too. All that is extended is imported. -/
theorem ofSource_nests (h : ofSource source name package = .ok pc) : ∃ d, Document.load source = .ok d ∧
    pc.Follows d ∧ sources? pc = some ⟨ofLines (interfaceLines pc), ofLines (classLines pc)⟩ ∧ pc.Nests := by
  obtain ⟨d, hload, hfollows⟩ := ofSource_follows h
  obtain ⟨sources, hsources⟩ := exists_sources h
  exact ⟨d, hload, hfollows, eq_of_sources? hsources ▸ hsources, hfollows.nests⟩

/-- A page object with a basic element, a list of such, and another page object. -/
def formSource : Source :=
  .value (.object
    [("elements", .list
      [.object [("name", .text "button"), ("type", .list [.text "clickable", .text "touchable"]),
        ("selector", .object [("css", .text "a")])],
      .object [("name", .text "fields"), ("type", .list [.text "editable"]),
        ("selector", .object [("css", .text "b"), ("returnAll", .bool true)])],
      .object [("name", .text "menu"), ("type", .text "my-app/menu"),
        ("selector", .object [("css", .text "c")])]])])

theorem formSource_nests : ∃ pc, ofSource formSource "Form" "my.app" = .ok pc ∧ pc.Nests ∧
    nestedHeaders (interfaceLines pc) =
      [("RootElement", ["BasicElement"]), ("ButtonElement", ["BasicElement", "Clickable", "Touchable"]),
        ("FieldsElement", ["BasicElement", "Editable"])] := by
  have hok : (ofSource formSource "Form" "my.app").toOption.any (fun pc =>
      (nested pc).map (fun g => (g.typeName, parentNames g)) ==
        [("RootElement", ["BasicElement"]), ("ButtonElement", ["BasicElement", "Clickable", "Touchable"]),
          ("FieldsElement", ["BasicElement", "Editable"])]) = true := by decide
  obtain ⟨pc, hpc, hnested⟩ := exists_eq_ok hok
  obtain ⟨d, -, hfollows, -, hnests⟩ := ofSource_nests hpc
  exact ⟨pc, hpc, hnests, hfollows.nestedHeaders_eq.trans (eq_of_beq hnested)⟩

/-- A page object with two elements of one type. The first declares one interface twice, the second another one. -/
def buttonsSource : Source :=
  .value (.object
    [("elements", .list
      [.object [("name", .text "button"), ("type", .list [.text "clickable", .text "clickable"]),
        ("selector", .object [("css", .text "a")])],
      .object [("name", .text "Button"), ("type", .list [.text "editable"]),
        ("selector", .object [("css", .text "b")])]])])

/-- **An interface is extended twice, and one is not extended**: the type of these elements has the parent of the
first element two times, and not that of the second. -/
theorem buttonsSource_lacks : ∃ pc parents g, ofSource buttonsSource "Form" "my.app" = .ok pc ∧
    ("ButtonElement", parents) ∈ nestedHeaders (interfaceLines pc) ∧
    parents = ["BasicElement", "Clickable", "Clickable"] ∧ ¬ parents.Nodup ∧
    g ∈ pc.elements ∧ g.isPageObject = false ∧ g.typeName = "ButtonElement" ∧ g.interfaces = ["editable"] ∧
    ¬ Extends pc parents "editable" := by
  have hok : (ofSource buttonsSource "Form" "my.app").toOption.any (fun pc =>
      (nested pc).map (fun g => (g.typeName, parentNames g)) ==
        [("RootElement", ["BasicElement"]), ("ButtonElement", ["BasicElement", "Clickable", "Clickable"])] &&
      pc.elements.any fun g => !g.isPageObject && (g.typeName == "ButtonElement" &&
        g.interfaces == ["editable"])) = true := by decide
  obtain ⟨pc, hpc, htold⟩ := exists_eq_ok hok
  simp only [Bool.and_eq_true, List.any_eq_true, beq_iff_eq, Bool.not_eq_true'] at htold
  obtain ⟨hnested, g, hg, hbasic, htype, hinterfaces⟩ := htold
  obtain ⟨d, -, hfollows⟩ := ofSource_follows hpc
  refine ⟨pc, _, g, hpc, ?_, rfl, by decide, hg, hbasic, htype, hinterfaces, ?_⟩
  · rw [hfollows.nestedHeaders_eq, hnested]
    decide
  · rintro ⟨t, ht, hname, -⟩
    obtain rfl : (⟨FrameworkType.elementPackage, "Editable"⟩ : FrameworkType) = t := Option.some.inj ht
    exact absurd hname (by decide)

end PageClass

end PageObjects
