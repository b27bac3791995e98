import PageObjects.Proofs.Java.Imports
import PageObjects.Proofs.Java.Nested
import PageObjects.Proofs.Text.Sorted

/-!
# Imports of the interface

The interface of a page object refers to types at three kinds of places: in the heads that it declares, in what it
extends itself, and in what the interfaces inside extend. Heads and interfaces are written by loops of their own,
and the imports are collected by another. All of these are loops of the Writer (specification, 2 and 6).

* `Java.imported`, `Java.parents`: what is imported and what is extended, read off the lines.
* **`PageClass.ofSource_closes`**: what is imported is exactly what the heads and the interfaces need, in order.
* `PageClass.portalSource_closes`: a list of page objects of another package.
-/

namespace PageObjects

/-- The types in the head of a method. -/
def Signature.types (s : Signature) : List ResultType := s.returnType :: s.parameters.map Parameter.type

/-- The head of an element's getter. -/
def Getter.signature (g : Getter) : Signature := { name := g.getterName, returnType := g.returnType }

theorem Getter.code_signature (g : Getter) : g.signature.code = g.declaration := by
  have hparameters : ", ".intercalate (g.signature.parameters.map Parameter.declaration) = "" := rfl
  rw [Signature.code, hparameters, String.append_assoc, String.append_assoc, Getter.declaration]
  rfl

/-- The types of the framework that generated interfaces extend. -/
def FrameworkType.extensible : List FrameworkType :=
  [.pageObject, .rootPageObject, .basicElement] ++ Action.supportedInterfaces.filterMap ofInterface?

/-- They are told apart by their simple names. -/
theorem FrameworkType.eq_of_name_eq {s t : FrameworkType} (hs : s ∈ extensible) (ht : t ∈ extensible)
    (h : s.name = t.name) : s = t := by
  have hall : ∀ s ∈ extensible, ∀ t ∈ extensible, s.name = t.name → s = t := by decide
  exact hall s hs t ht h

namespace Java

/-! ## Reading lines -/

/-- The names that lines import. -/
def imported (lines : List String) : List String := lines.filterMap (between? "import " ";")

/-- What the interface on a line extends, by its simple name: the last word before the body. -/
def outerParent? (line : String) : Option String :=
  (between? "public interface " " \x7b" line).bind fun inner => (ResultType.parts ' ' inner).getLast?

/-- What the interface of a page object and those inside extend, by their simple names. -/
def parents (lines : List String) : List String :=
  lines.filterMap outerParent? ++ (nestedHeaders lines).flatMap Prod.snd

/-- The line is blank, indented, of a comment, or a closing brace: it is apart from imports and outer heads. -/
def Apart (line : String) : Prop := line.toList.head? ∈ [none, some ' ', some '/', some '\x7d']

instance (line : String) : Decidable (Apart line) := inferInstanceAs (Decidable (_ ∈ _))

theorem apart_append {a b : String} (ha : a ≠ "") (h : Apart a) : Apart (a ++ b) := by
  obtain ⟨c, rest, hchars⟩ := List.exists_cons_of_ne_nil (l := a.toList) (by simpa using ha)
  rw [Apart, String.toList_append, hchars, List.cons_append, List.head?_cons]
  rwa [Apart, hchars, List.head?_cons] at h

theorem apart_comment {margin line : String} {description : Option String} (hmargin : IsMargin margin)
    (h : line ∈ comment margin description) : Apart line := by
  obtain rfl | ⟨text, rfl⟩ | rfl := of_mem_comment h
  · rcases hmargin with rfl | rfl <;> decide
  · rcases hmargin with rfl | rfl <;> exact apart_append (by decide) (by decide)
  · rcases hmargin with rfl | rfl <;> decide

theorem apart_interfaceBody {c : PageClass} {line : String} (h : line ∈ interfaceBody c) : Apart line := by
  have hindented : ∀ text : String, Apart (indent ++ text) := fun text => apart_append (by decide) (by decide)
  rw [interfaceBody, List.mem_append, List.mem_append, List.mem_singleton] at h
  obtain (hmember | hnested) | rfl := h
  · obtain ⟨m, -, hline⟩ := List.mem_flatMap.mp hmember
    rw [InterfaceMember.lines, List.mem_append, List.mem_cons, List.mem_singleton] at hline
    obtain (rfl | hcomment) | rfl := hline
    · decide
    · exact apart_comment (.inr rfl) hcomment
    · exact String.append_assoc ▸ hindented _
  · obtain ⟨g, -, hline⟩ := List.mem_flatMap.mp hnested
    rw [nestedLines_eq, List.mem_cons, List.mem_singleton] at hline
    obtain rfl | rfl := hline
    · decide
    · simp only [String.append_assoc]
      exact hindented _
  · decide

/-- Nothing stands between a head and a tail on a line that begins in another way. -/
theorem between?_eq_none {head tail line : String} (hhead : head ≠ "")
    (h : line.toList.head? ≠ head.toList.head?) : between? head tail line = none := by
  rw [Option.eq_none_iff_forall_ne_some]
  intro inner hinner
  obtain ⟨c, rest, hchars⟩ := List.exists_cons_of_ne_nil (l := head.toList) (by simpa using hhead)
  rw [between?_eq_some_iff.mp hinner, String.toList_append, String.toList_append, hchars] at h
  exact h rfl

theorem between?_apart {head tail line : String} (hhead : head ≠ "") (hapart : ¬ Apart head) (h : Apart line) :
    between? head tail line = none :=
  between?_eq_none hhead fun hsame => hapart (by rwa [Apart, ← hsame])

/-- A reader that passes over lines that are apart reads the package, the imports and the head of the interface. -/
theorem filterMap_interfaceLines {read : String → Option String} (h : ∀ line, Apart line → read line = none)
    (c : PageClass) :
    (interfaceLines c).filterMap read = (preamble c).filterMap read ++ (read (interfaceHead c)).toList := by
  have hcomment : (comment "" c.description).filterMap read = [] :=
    List.filterMap_eq_nil_iff.mpr fun line hline => h line (apart_comment (.inl rfl) hline)
  have hbody : (interfaceBody c).filterMap read = [] :=
    List.filterMap_eq_nil_iff.mpr fun line hline => h line (apart_interfaceBody hline)
  rw [interfaceLines_eq, List.filterMap_append, List.filterMap_append, hcomment, List.nil_append,
    List.filterMap_cons, hbody]
  cases read (interfaceHead c) <;> rfl

theorem filterMap_preamble {read : String → Option String} (hblank : read "" = none) (c : PageClass)
    (hpackage : read ("package " ++ c.package ++ ";") = none) :
    (preamble c).filterMap read = (importLines (interfaceImports c)).filterMap read := by
  have hfront : (if c.package.isEmpty then [] else ["package " ++ c.package ++ ";", ""]).filterMap read = [] := by
    split
    · rfl
    · rw [List.filterMap_cons_none hpackage, List.filterMap_cons_none hblank, List.filterMap_nil]
  rw [preamble, List.filterMap_append, List.filterMap_append, hfront, List.nil_append,
    List.filterMap_cons_none hblank, List.filterMap_nil, List.append_nil]

/-- **What is imported** is what was collected, in order and each once. -/
theorem imported_interfaceLines (c : PageClass) :
    imported (interfaceLines c) = Text.sorted (interfaceImports c).eraseDups := by
  have hpackage : between? "import " ";" ("package " ++ c.package ++ ";") = none :=
    between?_eq_none (by decide) (by
      rw [String.append_assoc, String.toList_append, List.head?_append_of_ne_nil _ (by decide)]
      decide)
  have hhead : between? "import " ";" (interfaceHead c) = none :=
    between?_append (by decide) (by decide) (by decide)
  have himport : ∀ name : String, between? "import " ";" ("import " ++ name ++ ";") = some name :=
    fun name => between?_eq_some_iff.mpr rfl
  rw [imported, filterMap_interfaceLines (fun line => between?_apart (by decide) (by decide)), hhead,
    Option.toList_none, List.append_nil, filterMap_preamble (by decide) c hpackage, importLines,
    List.filterMap_map]
  exact (List.filterMap_congr fun name _ => himport name).trans List.filterMap_some

/-- A head is read as it is written, whatever the name. -/
theorem outerParent?_head (name : String) {parent : String} (h : ' ' ∉ parent.toList) :
    outerParent? ("public interface " ++ name ++ " extends " ++ parent ++ " \x7b") = some parent := by
  have hinner : between? "public interface " " \x7b"
      ("public interface " ++ name ++ " extends " ++ parent ++ " \x7b") =
        some (" ".intercalate [name, "extends", parent]) := by
    have hextends : " extends " = " " ++ "extends" ++ " " := rfl
    rw [between?_eq_some_iff, String.intercalate_cons_cons, String.intercalate_cons_cons,
      String.intercalate_singleton, hextends]
    simp only [String.append_assoc]
  have hwords : ResultType.parts ' ' (" ".intercalate [name, "extends", parent]) =
      ResultType.parts ' ' name ++ ["extends"] ++ [parent] := by
    have hsplit := @ResultType.parts_intercalate ' ' [name, "extends", parent] (by simp)
    rw [List.flatMap_cons, List.flatMap_cons, List.flatMap_singleton, ResultType.parts_of_notMem h,
      ← List.append_assoc] at hsplit
    exact hsplit
  rw [outerParent?, hinner, Option.bind_some, hwords, List.getLast?_concat]

theorem outerParent?_interfaceHead (c : PageClass) :
    outerParent? (interfaceHead c) = some (baseInterface c).name := by
  refine outerParent?_head c.name ?_
  unfold baseInterface
  split <;> decide

theorem outerParents_interfaceLines (c : PageClass) :
    (interfaceLines c).filterMap outerParent? = [(baseInterface c).name] := by
  have hapart : ∀ line, Apart line → outerParent? line = none := fun line h => by
    rw [outerParent?, between?_apart (by decide) (by decide) h, Option.bind_none]
  have hclosed : ∀ front : String, outerParent? (front ++ ";") = none := fun front => by
    rw [outerParent?, between?_append (by decide) (by decide) (by decide), Option.bind_none]
  have himports : (importLines (interfaceImports c)).filterMap outerParent? = [] := by
    rw [List.filterMap_eq_nil_iff]
    intro line hline
    obtain ⟨name, -, rfl⟩ := List.mem_map.mp hline
    exact hclosed _
  rw [filterMap_interfaceLines hapart, filterMap_preamble (by decide) c (hclosed _), himports,
    outerParent?_interfaceHead]
  rfl

/-! ## What is needed -/

variable {package full : String} {c : PageClass}

/-- The heads of the public methods and getters. -/
def shown (c : PageClass) : List Signature :=
  (publicMethods c).map ClassMethod.signature ++ (publicGetters c).map Getter.signature

/-- The types of the framework that the interface and those inside extend. -/
def supertypes (c : PageClass) : List FrameworkType :=
  [baseInterface c, .basicElement] ++ (nested c).flatMap elementInterfaces

/-- What is collected is what the heads need and what is extended. -/
theorem mem_interfaceImports_iff : full ∈ interfaceImports c ↔
    (∃ s ∈ shown c, ∃ t ∈ s.types, Needs c.package t full) ∨ ∃ t ∈ supertypes c, t.fullName = full := by
  have hsignature : ∀ s : Signature, full ∈ signatureImports c.package s ↔ ∃ t ∈ s.types, Needs c.package t full :=
    fun s => mem_signatureImports.trans (by simp only [mem_typeImports_iff]; rfl)
  have hgetter : ∀ g : Getter, typeImports c.package g.returnType = signatureImports c.package g.signature :=
    fun g => (List.append_nil _).symm
  have hheads : (∃ s ∈ shown c, ∃ t ∈ s.types, Needs c.package t full) ↔
      full ∈ (publicMethods c).flatMap (fun m => signatureImports c.package m.signature) ++
        (publicGetters c).flatMap fun g => typeImports c.package g.returnType := by
    simp only [← hsignature, hgetter, shown, List.mem_append, List.mem_map, List.mem_flatMap, or_and_right,
      exists_or, exists_exists_and_eq_and]
  have hsupertypes : (∃ t ∈ supertypes c, t.fullName = full) ↔
      full ∈ [(baseInterface c).fullName, FrameworkType.basicElement.fullName] ++
        (nested c).flatMap fun g => (elementInterfaces g).map FrameworkType.fullName := by
    rw [← List.mem_map, supertypes, List.map_append, List.map_flatMap]
    rfl
  rw [hheads, hsupertypes, interfaceImports]
  simp only [List.mem_append]
  tauto

theorem mem_extensible_of_mem_supertypes {t : FrameworkType} (h : t ∈ supertypes c) :
    t ∈ FrameworkType.extensible := by
  rw [supertypes, List.mem_append, List.mem_cons, List.mem_singleton, List.mem_flatMap] at h
  obtain (rfl | rfl) | ⟨g, -, hg⟩ := h
  · unfold baseInterface
    split <;> decide
  · decide
  · obtain ⟨i, -, hi⟩ := List.mem_filterMap.mp hg
    exact List.mem_append_right _ (List.mem_filterMap.mpr ⟨i, supported_of_ofInterface? hi, hi⟩)

/-- The imports of an interface are those that it needs. -/
structure Closes (c : PageClass) : Prop where
  /-- They increase, so nothing is imported twice. -/
  ordered : (imported (interfaceLines c)).Pairwise (· < ·)
  /-- The interface declares the heads of the public methods and getters, and that of the method for the root. -/
  declares : declared (interfaceLines c) =
    (shown c).map Signature.code ++ if c.exposeRootElement then [rootSignature] else []
  /-- It and the interfaces inside extend types of the framework. -/
  framework : ∀ parent ∈ parents (interfaceLines c), ∃ t ∈ FrameworkType.extensible, t.name = parent
  /-- Imported is what the types in the heads need, and what is extended. -/
  imports : ∀ full, full ∈ imported (interfaceLines c) ↔
    (∃ s ∈ shown c, ∃ t ∈ s.types, Needs c.package t full) ∨
      ∃ t ∈ FrameworkType.extensible, t.fullName = full ∧ t.name ∈ parents (interfaceLines c)

theorem declared_shown (c : PageClass) : declared (interfaceLines c) =
    (shown c).map Signature.code ++ if c.exposeRootElement then [rootSignature] else [] := by
  have hgetters : (publicGetters c).map Getter.declaration = (publicGetters c).map fun g => g.signature.code :=
    List.map_congr_left fun g _ => g.code_signature.symm
  rw [declared_interfaceLines, interfaceMembers, shown]
  simp only [List.map_append, List.map_map, Function.comp_def, hgetters]
  split <;> rfl

end Java

namespace PageClass

open Java

variable {source : Source} {name package : String} {pc : PageClass} {d : Document}

/-- The root has an interface inside. -/
theorem Follows.nested_ne_nil (h : pc.Follows d) : nested pc ≠ [] := by
  obtain ⟨root, getters, helements, -, -, hbasic, -⟩ := h.elements
  have hroot : root ∈ nested pc := mem_nested_iff.mpr (by
    rw [first?, helements, List.find?_cons_of_pos (by simp [hbasic])])
  exact List.ne_nil_of_mem hroot

/-- What is extended is told by the supertypes. -/
theorem Follows.mem_parents_iff (h : pc.Follows d) {parent : String} :
    parent ∈ parents (interfaceLines pc) ↔ ∃ t ∈ supertypes pc, t.name = parent := by
  obtain ⟨first, hfirst⟩ := List.exists_mem_of_ne_nil _ h.nested_ne_nil
  -- the interface of basic elements is extended by each interface inside, and there is one
  have hinside : parent ∈ (nested pc).flatMap parentNames ↔ parent = FrameworkType.basicElement.name ∨
      parent ∈ (nested pc).flatMap fun g => (elementInterfaces g).map FrameworkType.name := by
    simp only [parentNames, List.map_cons, List.mem_flatMap, List.mem_cons]
    constructor
    · rintro ⟨g, hg, rfl | hmem⟩
      · exact .inl rfl
      · exact .inr ⟨g, hg, hmem⟩
    · rintro (rfl | ⟨g, hg, hmem⟩)
      · exact ⟨first, hfirst, .inl rfl⟩
      · exact ⟨g, hg, .inr hmem⟩
  have hsupertypes : (supertypes pc).map FrameworkType.name =
      (baseInterface pc).name :: FrameworkType.basicElement.name ::
        (nested pc).flatMap fun g => (elementInterfaces g).map FrameworkType.name := by
    rw [supertypes, List.map_append, List.map_flatMap]
    rfl
  rw [parents, outerParents_interfaceLines, h.nestedHeaders_eq, List.flatMap_map, ← List.mem_map, hsupertypes,
    List.mem_append, List.mem_singleton, List.mem_cons, List.mem_cons]
  exact or_congr_right hinside

theorem Follows.closes (h : pc.Follows d) : Closes pc where
  ordered := imported_interfaceLines pc ▸ Text.listed_increasing _
  declares := declared_shown pc
  framework parent hparent := by
    obtain ⟨t, ht, hname⟩ := h.mem_parents_iff.mp hparent
    exact ⟨t, mem_extensible_of_mem_supertypes ht, hname⟩
  imports full := by
    rw [imported_interfaceLines, Text.mem_listed, mem_interfaceImports_iff]
    refine or_congr_right ⟨?_, ?_⟩
    · rintro ⟨t, ht, hfull⟩
      exact ⟨t, mem_extensible_of_mem_supertypes ht, hfull, h.mem_parents_iff.mpr ⟨t, ht, rfl⟩⟩
    · rintro ⟨t, ht, hfull, hparent⟩
      obtain ⟨t', ht', hname⟩ := h.mem_parents_iff.mp hparent
      -- what is extended under a simple name is the one type of the framework that has it
      exact ⟨t', ht', FrameworkType.eq_of_name_eq (mem_extensible_of_mem_supertypes ht') ht hname ▸ hfull⟩

/-- **The interface is closed under imports.** Every page object that is compiled can be written. Its interface
imports, in order and each once, the type of lists if a list occurs in the head of a public method or of the getter
of a public element, all types of page objects in other packages that occur there, also inside lists, and all that
it and the interfaces inside extend; it imports nothing else. -/
theorem ofSource_closes (h : ofSource source name package = .ok pc) :
    sources? pc = some ⟨ofLines (interfaceLines pc), ofLines (classLines pc)⟩ ∧ Closes pc := by
  obtain ⟨d, -, hfollows⟩ := ofSource_follows h
  obtain ⟨sources, hsources⟩ := exists_sources h
  exact ⟨eq_of_sources? hsources ▸ hsources, hfollows.closes⟩

/-- A page object with public elements: a list of page objects of another package, and a page object of its own
package. -/
def portalSource : Source :=
  .value (.object
    [("elements", .list
      [.object [("name", .text "menus"), ("type", .text "your-app/menu"), ("public", .bool true),
        ("selector", .object [("css", .text "a"), ("returnAll", .bool true)])],
      .object [("name", .text "header"), ("type", .text "my-app/header"), ("public", .bool true),
        ("selector", .object [("css", .text "b")])],
      .object [("name", .text "button"), ("type", .list [.text "clickable"]),
        ("selector", .object [("css", .text "c")])]])])

theorem portalSource_closes : ∃ pc, ofSource portalSource "Portal" "my.app" = .ok pc ∧ Closes pc ∧
    ∀ full, full ∈ imported (interfaceLines pc) ↔ full ∈ ["java.util.List", "utam.core.element.BasicElement",
      "utam.core.element.Clickable", "utam.core.framework.base.PageObject", "your.app.Menu"] := by
  have hok : (ofSource portalSource "Portal" "my.app").toOption.any (fun pc =>
      (interfaceImports pc).eraseDups == ["utam.core.framework.base.PageObject", "utam.core.element.BasicElement",
        "java.util.List", "your.app.Menu", "utam.core.element.Clickable"]) = true := by decide
  obtain ⟨pc, hpc, hnames⟩ := exists_eq_ok hok
  refine ⟨pc, hpc, (ofSource_closes hpc).2, fun full => ?_⟩
  rw [imported_interfaceLines, eq_of_beq hnames]
  exact (List.mergeSort_perm _ _).mem_iff.trans (by simp only [List.mem_cons]; tauto)

end PageClass

end PageObjects
