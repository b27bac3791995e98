import Mathlib.Data.List.Basic
import PageObjects.PageClass.Java

/-!
# Members of the interface and of the class

The interface and the class of a page object are written by two walks over its methods and getters,
each with filters and an order of its own. Two readers of lines say what came of them: one finds the
methods that an interface declares, the other the methods of a class that are marked as overriding.
Neither of them knows of page classes; they go by the lines alone. The lines are those of the Writer
(specification, 2 and 6).

* `LineReader`: a reader that goes from line to line with one bit of state.
* `LineReader.Passes`: what a reader finds on a stretch of lines, whatever comes behind.
* `Java.declared`, `Java.overriding`: the two readers.
* **`Java.sources_agree`**: the class overrides what the interface declares, and beside it the method
  that runs before loading.
-/

namespace PageObjects

/-! ## Readers of lines -/

/-- What stands on a line between a head and a tail. -/
def between? (head tail line : String) : Option String :=
  ((line.toList.dropPrefix? head.toList).bind fun rest => rest.dropSuffix? tail.toList).map
    String.ofList

theorem between?_eq_some_iff {head tail line inner : String} :
    between? head tail line = some inner ↔ line = head ++ inner ++ tail := by
  simp only [between?, Option.map_eq_some_iff, Option.bind_eq_some_iff,
    List.dropPrefix?_eq_some_iff, List.dropSuffix?_eq_some_iff, beq_iff_eq]
  constructor
  · rintro ⟨cs, ⟨rest, ⟨head', hline, rfl⟩, tail', rfl, rfl⟩, rfl⟩
    rw [← String.toList_inj, hline]
    simp
  · rintro rfl
    exact ⟨inner.toList, ⟨_, ⟨_, by simp, rfl⟩, _, rfl, rfl⟩, by simp⟩

theorem getLast?_toList_append {a b : String} (hb : b ≠ "") :
    (a ++ b).toList.getLast? = b.toList.getLast? := by
  have hne : b.toList ≠ [] := by simpa using hb
  rw [String.toList_append, List.getLast?_append, List.getLast?_eq_some_getLast hne, Option.some_or]

/-- Texts that end in different characters differ. -/
theorem append_ne {a b other : String} (hb : b ≠ "")
    (h : b.toList.getLast? ≠ other.toList.getLast?) : a ++ b ≠ other := by
  rintro rfl
  exact h (getLast?_toList_append hb).symm

/-- Nothing stands between head and tail on a line that ends in another character. -/
theorem between?_append {head tail a b : String} (hb : b ≠ "") (htail : tail ≠ "")
    (h : b.toList.getLast? ≠ tail.toList.getLast?) : between? head tail (a ++ b) = none := by
  rw [Option.eq_none_iff_forall_ne_some]
  intro inner hinner
  refine append_ne hb ?_ (between?_eq_some_iff.mp hinner)
  rwa [getLast?_toList_append htail]

/-- A reader of lines. On each line it may find a text, and it goes on to the next in a state. -/
structure LineReader where
  next : Bool → String → Bool
  read : Bool → String → Option String

namespace LineReader

variable (r : LineReader)

/-- What is found on lines, from a state on. -/
def readFrom : Bool → List String → List String
  | _, [] => []
  | state, line :: rest => (r.read state line).toList ++ readFrom (r.next state line) rest

/-- On the lines the reader finds the texts, and is then in its first state again. -/
def Passes (lines found : List String) : Prop :=
  ∀ rest, r.readFrom false (lines ++ rest) = found ++ r.readFrom false rest

variable {r : LineReader}

theorem Passes.nil : r.Passes [] [] := fun _ => rfl

theorem Passes.append {lines lines' found found' : List String} (h : r.Passes lines found)
    (h' : r.Passes lines' found') : r.Passes (lines ++ lines') (found ++ found') := by
  intro rest
  rw [List.append_assoc, h, h', List.append_assoc]

theorem Passes.flatMap {f g : α → List String} : ∀ {xs : List α},
    (∀ x ∈ xs, r.Passes (f x) (g x)) → r.Passes (xs.flatMap f) (xs.flatMap g)
  | [], _ => .nil
  | x :: xs, h => by
    rw [List.forall_mem_cons] at h
    rw [List.flatMap_cons, List.flatMap_cons]
    exact h.1.append (Passes.flatMap h.2)

/-- Stretches on which the reader finds nothing. -/
theorem Passes.flatMap_nil {f : α → List String} {xs : List α} (h : ∀ x ∈ xs, r.Passes (f x) []) :
    r.Passes (xs.flatMap f) [] := by
  have hnil : (xs.flatMap fun _ => ([] : List String)) = [] := by simp
  rw [← hnil]
  exact .flatMap h

/-- Lines that the reader passes over. -/
theorem Passes.silent : ∀ {lines : List String},
    (∀ line ∈ lines, r.next false line = false ∧ r.read false line = none) → r.Passes lines []
  | [], _ => .nil
  | line :: lines, h => by
    rw [List.forall_mem_cons] at h
    intro rest
    rw [List.cons_append, LineReader.readFrom, h.1.1, h.1.2, Passes.silent h.2]
    rfl

/-- What the reader finds on lines that it passes to the end. -/
theorem Passes.readFrom {lines found : List String} (h : r.Passes lines found) :
    r.readFrom false lines = found := by
  simpa [LineReader.readFrom] using h []

end LineReader

/-! ## The interface -/

namespace Java

/-- Comments are passed over; on every other line that is indented and ends in a semicolon a method is
declared. -/
def interfaceReader : LineReader where
  next inComment line := if inComment then line != indent ++ " */" else line == indent ++ "/**"
  read inComment line := if inComment then none else between? indent ";" line

/-- The heads of the methods that the lines of an interface declare. -/
def declared (lines : List String) : List String := interfaceReader.readFrom false lines

/-- The line behind a mark holds the head of a method that overrides. -/
def classReader : LineReader where
  next _ line := line == indent ++ "@Override"
  read marked line := if marked then between? indent " \x7b" line else none

/-- The heads of the methods that the lines of a class mark as overriding. -/
def overriding (lines : List String) : List String := classReader.readFrom false lines

/-! ## Lines -/

/-- A line that is not indented. -/
def Outer (line : String) : Prop := ¬ indent.toList <+: line.toList

instance (line : String) : Decidable (Outer line) := inferInstanceAs (Decidable (¬ _))

theorem Outer.append {word rest : String} (h : Outer word) (hlength : 2 ≤ word.toList.length) :
    Outer (word ++ rest) := by
  intro hprefix
  rw [String.toList_append] at hprefix
  exact h (List.prefix_of_prefix_length_le hprefix (List.prefix_append _ _) hlength)

theorem outer_of_ne {line : String} (h : Outer line) (rest : String) : line ≠ indent ++ rest := by
  rintro rfl
  exact h (by rw [String.toList_append]; exact List.prefix_append _ _)

theorem Outer.between? {line : String} (h : Outer line) (tail : String) :
    PageObjects.between? indent tail line = none := by
  rw [Option.eq_none_iff_forall_ne_some]
  intro inner hinner
  rw [between?_eq_some_iff, String.append_assoc] at hinner
  exact outer_of_ne h _ hinner

theorem passes_interface_of_outer {lines : List String} (h : ∀ line ∈ lines, Outer line) :
    interfaceReader.Passes lines [] :=
  .silent fun line hline => ⟨by simpa [interfaceReader] using outer_of_ne (h line hline) "/**",
    (h line hline).between? ";"⟩

theorem passes_class_of_outer {lines : List String} (h : ∀ line ∈ lines, Outer line) :
    classReader.Passes lines [] :=
  .silent fun line hline =>
    ⟨by simpa [classReader] using outer_of_ne (h line hline) "@Override", rfl⟩

theorem outer_of_mem_importLines {names : List String} {line : String}
    (h : line ∈ importLines names) : Outer line := by
  obtain ⟨name, -, rfl⟩ := List.mem_map.mp h
  rw [String.append_assoc]
  exact Outer.append (by decide) (by decide)

/-- The lines of a comment: its opening, those of the text, and its end. -/
theorem of_mem_comment {margin line : String} {description : Option String} (h : line ∈ comment margin description) :
    line = margin ++ "/**" ∨ (∃ text, line = margin ++ " * " ++ text) ∨ line = margin ++ " */" := by
  unfold comment at h
  split at h
  · exact absurd h (by simp)
  · split at h
    · exact absurd h (by simp)
    · rw [List.mem_append, List.mem_cons, List.mem_singleton, List.mem_map] at h
      obtain (hopening | ⟨text, -, hinner⟩) | hend := h
      · exact .inl hopening
      · exact .inr (.inl ⟨text, hinner.symm⟩)
      · exact .inr (.inr hend)

theorem outer_of_mem_comment {description : Option String} {line : String}
    (h : line ∈ comment "" description) : Outer line := by
  obtain rfl | ⟨text, rfl⟩ | rfl := of_mem_comment h
  · decide
  · rw [String.append_assoc, String.empty_append]
    exact Outer.append (by decide) (by decide)
  · decide

/-! ## What the interface declares -/

/-- The lines of a comment, and the line that ends it. -/
theorem readFrom_comment (texts rest : List String) :
    interfaceReader.readFrom true
        (texts.map (fun text => indent ++ " * " ++ text) ++ [indent ++ " */"] ++ rest) =
      interfaceReader.readFrom false rest := by
  induction texts with
  | nil => rfl
  | cons text texts ih =>
    -- behind the star of a line there is a blank, and behind the last one a slash
    have hinside : (indent ++ " * " ++ text != indent ++ " */") = true := by
      rw [bne_iff_ne, ne_eq, String.append_assoc, String.append_right_inj, ← String.toList_inj,
        String.toList_append]
      have hstar : " * ".toList = [' ', '*', ' '] := by decide
      have hslash : " */".toList = [' ', '*', '/'] := by decide
      rw [hstar, hslash]
      simp
    have hnext : interfaceReader.next true (indent ++ " * " ++ text) = true := hinside
    rw [List.map_cons, List.cons_append, List.cons_append, LineReader.readFrom, hnext, ih]
    rfl

theorem passes_comment (description : Option String) :
    interfaceReader.Passes (comment indent description) [] := by
  unfold comment
  split
  · exact .nil
  · split
    · exact .nil
    · rename_i text htext
      intro rest
      rw [List.cons_append, List.cons_append, LineReader.readFrom]
      exact readFrom_comment (Text.lines text) rest

/-- A method that the interface declares is read with its head. -/
theorem passes_interfaceMember (m : InterfaceMember) :
    interfaceReader.Passes m.lines [m.signature] := by
  have hnext : interfaceReader.next false (indent ++ m.signature ++ ";") = false :=
    beq_eq_false_iff_ne.mpr (append_ne (by decide) (by decide))
  have hread : interfaceReader.read false (indent ++ m.signature ++ ";") = some m.signature :=
    between?_eq_some_iff.mpr rfl
  have hblank : interfaceReader.Passes [""] [] := passes_interface_of_outer (by decide)
  have hline : interfaceReader.Passes [indent ++ m.signature ++ ";"] [m.signature] := by
    intro rest
    rw [List.singleton_append, LineReader.readFrom, hnext, hread]
    rfl
  exact (hblank.append (passes_comment m.description)).append hline

/-- The interface of a basic element declares no method. -/
theorem passes_nestedLines (g : Getter) : interfaceReader.Passes (nestedLines g) [] := by
  refine .silent fun line hline => ?_
  rcases List.mem_cons.mp hline with rfl | hline
  · decide
  · obtain rfl := List.mem_singleton.mp hline
    exact ⟨beq_eq_false_iff_ne.mpr (append_ne (by decide) (by decide)),
      between?_append (by decide) (by decide) (by decide)⟩

/-- **What the interface declares**: the public methods, the public getters other than that of the
root, and the method that shows the root. -/
theorem declared_interfaceLines (c : PageClass) :
    declared (interfaceLines c) = (interfaceMembers c).map InterfaceMember.signature := by
  have hpackage : interfaceReader.Passes
      (if c.package.isEmpty then [] else ["package " ++ c.package ++ ";", ""]) [] := by
    split
    · exact .nil
    · refine passes_interface_of_outer ?_
      simp only [List.forall_mem_cons, String.append_assoc]
      exact ⟨Outer.append (by decide) (by decide), by decide, by simp⟩
  have himports : interfaceReader.Passes (importLines (interfaceImports c)) [] :=
    passes_interface_of_outer fun line => outer_of_mem_importLines
  have hcomment : interfaceReader.Passes (comment "" c.description) [] :=
    passes_interface_of_outer fun line => outer_of_mem_comment
  have hhead : interfaceReader.Passes ["public interface " ++ c.name ++ " extends " ++
      (baseInterface c).name ++ " \x7b"] [] := by
    refine passes_interface_of_outer ?_
    simp only [List.forall_mem_singleton, String.append_assoc]
    exact Outer.append (by decide) (by decide)
  have hmembers : interfaceReader.Passes ((interfaceMembers c).flatMap InterfaceMember.lines)
      ((interfaceMembers c).flatMap fun m => [m.signature]) :=
    .flatMap fun m _ => passes_interfaceMember m
  have hnested : interfaceReader.Passes ((nested c).flatMap nestedLines) [] :=
    .flatMap_nil fun g _ => passes_nestedLines g
  have hblank : interfaceReader.Passes [""] [] := passes_interface_of_outer (by decide)
  have hend : interfaceReader.Passes ["\x7d"] [] := passes_interface_of_outer (by decide)
  have hall := ((((((hpackage.append himports).append hblank).append hcomment).append hhead).append
    hmembers).append hnested).append hend
  calc declared (interfaceLines c)
      = _ := hall.readFrom
    _ = (interfaceMembers c).map InterfaceMember.signature := by
      simp [List.map_eq_flatMap]

/-! ## What the class overrides -/

/-- A line that is indented twice. -/
def Inner (line : String) : Prop := ∃ text, line = indent ++ indent ++ text

theorem Inner.ne_mark {line : String} (h : Inner line) : line ≠ indent ++ "@Override" := by
  obtain ⟨text, rfl⟩ := h
  rw [String.append_assoc, ne_eq, String.append_right_inj, ← String.toList_inj, String.toList_append]
  have hblanks : indent.toList = [' ', ' '] := by decide
  have hmark : "@Override".toList = ['@', 'O', 'v', 'e', 'r', 'r', 'i', 'd', 'e'] := by decide
  rw [hblanks, hmark]
  simp

theorem inner_of_mem_codeText {code line : String} (h : line ∈ codeText (indent ++ indent) code) :
    Inner line := by
  unfold codeText at h
  split at h
  · exact absurd h (by simp)
  · simp only [List.cons_append, List.mem_cons, List.mem_append, List.mem_map,
      Option.mem_toList, Option.map_eq_some_iff] at h
    obtain rfl | ⟨text, -, rfl⟩ | ⟨text, -, rfl⟩ := h
    · exact ⟨_, rfl⟩
    · exact ⟨_, String.append_assoc⟩
    · exact ⟨_, rfl⟩

/-- The lines of every body are indented twice. -/
theorem inner_of_mem_body {c : PageClass} {m : ClassMember} (hm : m ∈ classMembers c) {line : String}
    (hline : line ∈ m.body) : Inner line := by
  have hbody : ∀ b : Body, line ∈ bodyLines b → Inner line := by
    intro b hb
    obtain ⟨code, -, hcode⟩ := List.mem_flatMap.mp hb
    exact inner_of_mem_codeText hcode
  simp only [classMembers, List.mem_append, List.mem_map] at hm
  obtain ((⟨method, -, rfl⟩ | ⟨method, -, rfl⟩) | hroot) | ⟨g, -, rfl⟩ := hm
  · exact hbody _ hline
  · exact hbody _ hline
  · split at hroot
    · obtain rfl := List.mem_singleton.mp hroot
      obtain rfl := List.mem_singleton.mp hline
      exact ⟨_, rfl⟩
    · exact absurd hroot (by simp)
  · obtain rfl := List.mem_singleton.mp hline
    exact ⟨_, by rw [String.append_assoc, String.append_assoc]⟩

/-- A line that is no mark marks nothing. -/
theorem next_class {marked : Bool} {line : String} (h : line ≠ indent ++ "@Override") :
    classReader.next marked line = false := beq_eq_false_iff_ne.mpr h

theorem passes_class_of_ne {lines : List String} (h : ∀ line ∈ lines, line ≠ indent ++ "@Override") :
    classReader.Passes lines [] := .silent fun line hline => ⟨next_class (h line hline), rfl⟩

/-- The head of a member of the class. -/
def ClassMember.head (m : ClassMember) : String := m.visibility ++ m.signature

/-- A member that overrides is read with its head, and no other is. -/
theorem passes_classMember {m : ClassMember} (hbody : ∀ line ∈ m.body, Inner line) :
    classReader.Passes m.lines (if m.overrides then [m.head] else []) := by
  have hne : indent ++ m.visibility ++ m.signature ++ " \x7b" ≠ indent ++ "@Override" :=
    append_ne (by decide) (by decide)
  have hhead : classReader.Passes ((if m.overrides then [indent ++ "@Override"] else []) ++
      [indent ++ m.visibility ++ m.signature ++ " \x7b"])
      (if m.overrides then [m.head] else []) := by
    cases m.overrides with
    | false => exact passes_class_of_ne (by simpa using hne)
    | true =>
      intro rest
      have hread : classReader.read true (indent ++ m.visibility ++ m.signature ++ " \x7b") =
          some m.head := between?_eq_some_iff.mpr (by simp only [ClassMember.head, String.append_assoc])
      have hmark : classReader.next false (indent ++ "@Override") = true := beq_self_eq_true _
      simp only [if_true, List.cons_append, List.nil_append, LineReader.readFrom, hmark, hread,
        next_class hne]
      rfl
  have hblank : classReader.Passes [""] [] := passes_class_of_outer (by decide)
  have hlines : classReader.Passes m.body [] :=
    passes_class_of_ne fun line hline => (hbody line hline).ne_mark
  have hend : classReader.Passes [indent ++ "\x7d"] [] := passes_class_of_ne (by decide)
  -- a line of the body is indented once more, so that none of them is a mark
  have hall := ((hblank.append hhead).append hlines).append hend
  simpa [ClassMember.lines] using hall

/-- A field is no method, even if its annotation is a mark. -/
theorem passes_fieldLines (g : Getter) : classReader.Passes (fieldLines g) [] := by
  intro rest
  have hne : indent ++ "private ElementLocation " ++ g.elementName ++ ";" ≠ indent ++ "@Override" :=
    append_ne (by decide) (by decide)
  have hread : ∀ marked, classReader.read marked
      (indent ++ "private ElementLocation " ++ g.elementName ++ ";") = none := by
    intro marked
    cases marked with
    | false => rfl
    | true => exact between?_append (by decide) (by decide) (by decide)
  have hblank : classReader.next false "" = false := next_class (by decide)
  simp only [fieldLines, List.cons_append, List.nil_append, LineReader.readFrom, hblank, hread,
    next_class hne]
  rfl

/-- The annotation of the page object marks no method: the class opens behind it. -/
theorem passes_classHead (marker? : Option String) {head : String} (h : Outer head) :
    classReader.Passes (marker?.toList.map pageMarker ++ [head]) [] := by
  have hne : head ≠ indent ++ "@Override" := outer_of_ne h _
  cases marker? with
  | none => exact passes_class_of_outer (by simpa using h)
  | some marker =>
    intro rest
    have hread : ∀ marked, classReader.read marked head = none := by
      intro marked
      cases marked with
      | false => rfl
      | true => exact h.between? _
    simp only [Option.toList_some, List.map_cons, List.map_nil, List.cons_append, List.nil_append,
      LineReader.readFrom, hread, next_class hne]
    rfl

/-- **What the class overrides**: its members that say so. -/
theorem overriding_classLines (c : PageClass) :
    overriding (classLines c) = ((classMembers c).filter ClassMember.overrides).map
      ClassMember.head := by
  have hpackage : classReader.Passes ["package " ++ classPackage c ++ ";", ""] [] := by
    refine passes_class_of_outer ?_
    simp only [List.forall_mem_cons, String.append_assoc]
    exact ⟨Outer.append (by decide) (by decide), by decide, by simp⟩
  have himports : classReader.Passes (importLines (classImports c)) [] :=
    passes_class_of_outer fun line => outer_of_mem_importLines
  have hhead : classReader.Passes ((rootMarker? c).toList.map pageMarker ++
      ["public final class " ++ c.implementationName ++ " extends " ++
        FrameworkType.basePageObject.name ++ " implements " ++ c.name ++ " \x7b"]) [] := by
    refine passes_classHead _ ?_
    simp only [String.append_assoc]
    exact Outer.append (by decide) (by decide)
  have hfields : classReader.Passes ((classGetters c).flatMap fieldLines) [] :=
    .flatMap_nil fun g _ => passes_fieldLines g
  have hmembers : classReader.Passes ((classMembers c).flatMap ClassMember.lines)
      ((classMembers c).flatMap fun m => if m.overrides then [m.head] else []) :=
    .flatMap fun m hm => passes_classMember fun line => inner_of_mem_body hm
  have hblank : classReader.Passes [""] [] := passes_class_of_outer (by decide)
  have hend : classReader.Passes ["\x7d"] [] := passes_class_of_outer (by decide)
  have hall := (((((hpackage.append himports).append hblank).append hhead).append hfields).append
    hmembers).append hend
  have hfound : overriding (classLines c) =
      (classMembers c).flatMap fun m => if m.overrides then [m.head] else [] := by
    simpa [overriding, classLines] using hall.readFrom
  rw [hfound]
  generalize classMembers c = members
  induction members with
  | nil => rfl
  | cons m members ih =>
    cases hoverrides : m.overrides <;> simp [hoverrides, ih]

/-! ## Both -/

/-- The heads of the members that override, in the order of the class. -/
theorem heads_classMembers (c : PageClass) :
    ((classMembers c).filter ClassMember.overrides).map ClassMember.head =
      (publicMethods c).map (fun m => "public " ++ m.signature.code) ++
        c.beforeLoad.toList.map (fun m => "protected " ++ m.signature.code) ++
        (if c.exposeRootElement then ["public " ++ rootSignature] else []) ++
        (publicGetters c).map fun g => "public " ++ g.declaration := by
  have hmethods : ((c.methods.map memberOfMethod).filter ClassMember.overrides).map
      ClassMember.head = (publicMethods c).map fun m => "public " ++ m.signature.code := by
    rw [List.filter_map, List.map_map, publicMethods]
    refine List.map_congr_left fun m hm => ?_
    have hpublic : m.isPublic = true := (List.mem_filter.mp hm).2
    simp [ClassMember.head, memberOfMethod, visibility, hpublic]
  have hbefore : ((c.beforeLoad.toList.map memberOfBeforeLoad).filter ClassMember.overrides).map
      ClassMember.head = c.beforeLoad.toList.map fun m => "protected " ++ m.signature.code := by
    cases c.beforeLoad <;> rfl
  have hroot : ((if c.exposeRootElement then [rootMember] else []).filter
      ClassMember.overrides).map ClassMember.head =
        if c.exposeRootElement then ["public " ++ rootSignature] else [] := by
    cases c.exposeRootElement <;> rfl
  have hgetters : (((classGetters c).map memberOfGetter).filter ClassMember.overrides).map
      ClassMember.head = (publicGetters c).map fun g => "public " ++ g.declaration := by
    have hpublic : publicGetters c = (classGetters c).filter Getter.isPublic := by
      rw [publicGetters, PageClass.publicElements, classGetters, List.filter_comm]
    rw [List.filter_map, List.map_map, hpublic]
    refine List.map_congr_left fun g hg => ?_
    have hpublic : g.isPublic = true := (List.mem_filter.mp hg).2
    simp [ClassMember.head, memberOfGetter, visibility, hpublic]
  rw [classMembers, List.filter_append, List.filter_append, List.filter_append, List.map_append,
    List.map_append, List.map_append, hmethods, hbefore, hroot, hgetters]

/-- Sources that are written are the lines of the interface and of the class. -/
theorem eq_of_sources? {c : PageClass} {sources : Sources} (h : sources? c = some sources) :
    sources = ⟨ofLines (interfaceLines c), ofLines (classLines c)⟩ := by
  unfold sources? at h
  split at h
  · exact (Option.some.inj h).symm
  · exact absurd h (by simp)

/-- The interface and the class of a page class agree. -/
structure Agree (c : PageClass) : Prop where
  /-- Both can be written. -/
  written : sources? c = some ⟨ofLines (interfaceLines c), ofLines (classLines c)⟩
  /-- The interface declares the public methods, the public getters other than that of the root, and
  the method that shows the root if the root is exposed. -/
  declares : declared (interfaceLines c) =
    (publicMethods c).map (fun m => m.signature.code) ++
      (publicGetters c).map Getter.declaration ++
      if c.exposeRootElement then [rootSignature] else []
  /-- The class overrides these methods as public ones, each as often as it is declared, and beside
  them the method that runs before loading, which is protected. -/
  overrides : (overriding (classLines c)).Perm
    ((declared (interfaceLines c)).map (fun head => "public " ++ head) ++
      c.beforeLoad.toList.map fun m => "protected " ++ m.signature.code)

/-- **The interface and the class agree.** Where every element is of a named type, or a list of one,
the class overrides the methods that the interface declares, all of them and no others, and beside
them the method that runs before loading. -/
theorem sources_agree {c : PageClass} (h : ∀ g ∈ c.elements, ∃ type,
    g.returnType = .named type ∨ ∃ all, g.returnType = .list (.named type) all) : Agree c := by
  have hdeclares : declared (interfaceLines c) =
      (publicMethods c).map (fun m => m.signature.code) ++
        (publicGetters c).map Getter.declaration ++
        if c.exposeRootElement then [rootSignature] else [] := by
    rw [declared_interfaceLines, interfaceMembers, List.map_append, List.map_append, List.map_map,
      List.map_map]
    cases c.exposeRootElement <;> rfl
  refine ⟨?_, hdeclares, ?_⟩
  · have hwritable : c.elements.all isWritable = true := by
      rw [List.all_eq_true]
      intro g hg
      obtain ⟨type, htype | ⟨all, htype⟩⟩ := h g hg <;> simp [isWritable, elementType, htype]
    rw [sources?, if_pos hwritable]
    rfl
  · -- the two walks differ in their order, and in the method that runs before loading
    rw [overriding_classLines, heads_classMembers, hdeclares, List.perm_iff_count]
    intro head
    cases c.exposeRootElement <;>
      simp only [if_true, Bool.false_eq_true, if_false, List.map_append, List.map_map,
        List.count_append, List.map_cons, List.map_nil, Function.comp_def] <;>
      omega

/-- A page class with methods that the interface shows and one that it does not, with its root exposed
and with two elements. -/
def sideBar : PageClass :=
  { name := "SideBar", package := "my.app", exposeRootElement := true,
    elements :=
      [{ elementName := "root", getterName := "getRootElement", isPublic := true,
         returnType := .named (ResultType.ofElement "root" []) },
       { elementName := "links", getterName := "getLinksElement", isPublic := true,
         returnType := .list (.named (ResultType.ofElement "links" ["clickable"])) false },
       { elementName := "menu", getterName := "getMenu",
         returnType := .named { name := "Menu", package := "my.app" } }],
    methods :=
      [{ signature := { name := "open", returnType := .void }, description := some "Opens it;",
         body := { statements := [], returnType := .void } },
       { signature := { name := "close", returnType := .void }, isPublic := false,
         body := { statements := [], returnType := .void } }],
    beforeLoad := some
      { signature := { name := "load", returnType := .object }, isPublic := false,
        body := { statements := [], returnType := .object } } }

theorem sideBar_agree : Agree sideBar ∧ declared (interfaceLines sideBar) =
    ["void open()", "List<LinksElement> getLinksElement()", "RootElement getRoot()"] := by
  have hagree : Agree sideBar := sources_agree (by
    intro g hg
    simp only [sideBar, List.mem_cons, List.not_mem_nil, or_false] at hg
    rcases hg with rfl | rfl | rfl
    · exact ⟨_, .inl rfl⟩
    · exact ⟨_, .inr ⟨_, rfl⟩⟩
    · exact ⟨_, .inl rfl⟩)
  exact ⟨hagree, hagree.declares.trans (by decide)⟩

end Java

end PageObjects
