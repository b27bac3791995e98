import PageObjects.Proofs.Compose.Types
import PageObjects.Proofs.Java.Members
import PageObjects.Proofs.Methods

/-!
# Imports of the class

The class of a page object stands in a package of its own, below that of the page object (Files,
specification 6), and its imports are collected from the heads of its methods and getters. Types are needed at more places than
heads: a statement binds its value to a variable, and the type of that variable may have been declared
by the statement alone. All other types of variables stand in a head, too.

The imports are those that the heads need in the package of the page object. In the package of the
class a page object of that package is needed as well.

* `Java.Needs`: what a type needs to be imported in a package.
* `Java.imports_iff`: what the class imports.
* `Java.ClosedUpTo`: the class imports all that its heads, its variables and its calls need, up to
  what is spared.
* **`PageClass.ofSource_imports`**: spared are the page objects that occur in a type and are of the package
  of this one, and what a declaration of a statement needs.
* `PageClass.homeSource_spared`: both are spared.
-/

namespace PageObjects

/-- A type occurs in itself, and in the lists of what it occurs in. -/
inductive ResultType.OccursIn (t : ResultType) : ResultType → Prop
  | self : OccursIn t t
  | element {element : ResultType} {all : Bool} (h : OccursIn t element) : OccursIn t (.list element all)

/-! ## Code that collects streams -/

/-- The results of such a call are collected from a stream. -/
def Spread.collects : Spread → Bool
  | .map | .flatMap => true
  | .single | .forEach => false

/-- The expression collects a stream. -/
def Simple.collects : Simple → Bool
  | .getter _ => false
  | .call c => c.spread.collects

/-- The expression, or one in its closure, collects a stream. -/
def Expression.collects : Expression → Bool
  | .simple value => value.collects
  | .wait closure _ => closure.any fun line => line.value?.any Simple.collects

/-- A statement of the method, or of a closure in it, collects a stream. -/
def Composition.collects (c : Composition) : Bool :=
  c.statements.any fun b => b.values.any Expression.collects

namespace Java

/-- The text calls a collector. -/
def Collecting (text : String) : Prop := "Collectors.".toList <:+: text.toList

theorem occurs_iff {part : List Char} : ∀ {cs : List Char}, occurs part cs = true ↔ part <:+: cs
  | [] => by simp [occurs]
  | c :: cs => by
    rw [occurs, Bool.or_eq_true, List.isPrefixOf_iff_prefix, occurs_iff, List.infix_cons_iff]

theorem Collecting.append_left {text : String} (h : Collecting text) (front : String) :
    Collecting (front ++ text) := by
  rw [Collecting, String.toList_append]
  exact h.trans (List.suffix_append _ _).isInfix

theorem Collecting.append_right {text : String} (h : Collecting text) (back : String) :
    Collecting (text ++ back) := by
  rw [Collecting, String.toList_append]
  exact h.trans (List.prefix_append _ _).isInfix

theorem collecting_call {c : Call} (h : c.spread.collects = true) : Collecting c.text := by
  unfold Call.text
  cases hspread : c.spread with
  | single => exact absurd (hspread ▸ h) (by decide)
  | forEach => exact absurd (hspread ▸ h) (by decide)
  | map => exact Collecting.append_left (occurs_iff.mp (by decide)) _
  | flatMap => exact Collecting.append_left (occurs_iff.mp (by decide)) _

theorem collecting_simple {value : Simple} (h : value.collects = true) : Collecting value.text := by
  cases value with
  | getter name => exact absurd h (by simp [Simple.collects])
  | call c => exact collecting_call h

/-- A line whose expression calls a collector does so. -/
theorem collecting_line {ε : Type} {text : ε → String} {line : Line ε} {value : ε}
    (hvalue : line.value? = some value) (h : Collecting (text value)) :
    Collecting (line.text text) := by
  cases line with
  | bind type name v =>
    obtain rfl := Option.some.inj hvalue
    exact h.append_left _
  | perform v =>
    obtain rfl := Option.some.inj hvalue
    exact h
  | verdict name matcher operand arguments => exact absurd hvalue (by simp [Line.value?])
  | give v => exact absurd hvalue (by simp [Line.value?])

theorem collecting_expression {value : Expression} (h : value.collects = true) :
    Collecting value.text := by
  cases value with
  | simple v => exact collecting_simple h
  | wait closure result =>
    obtain ⟨line, hline, hcollects⟩ := List.any_eq_true.mp h
    obtain ⟨v, hv, hcollects⟩ := (Option.any_eq_true _ _).mp hcollects
    have hcollecting : Collecting (line.text Simple.text ++ ";\n") :=
      (collecting_line hv (collecting_simple hcollects)).append_right _
    have hjoined : Collecting (String.join ((closure ++ [Line.give result]).map
        fun (line : Line Simple) => line.text Simple.text ++ ";\n")) := by
      rw [Collecting, String.toList_join, List.flatMap_def]
      refine hcollecting.trans (List.infix_of_mem_flatten (List.mem_map_of_mem ?_))
      exact List.mem_map_of_mem (List.mem_append_left _ hline)
    exact (hjoined.append_left _).append_right _

/-- **A method that collects a stream is seen to.** -/
theorem collects_of_composition {c : Composition} (h : c.collects = true) (name : String)
    (description : Option String) (isPublic : Bool) :
    collects (PageClass.methodOf name description isPublic c) = true := by
  obtain ⟨b, hb, hcollects⟩ := List.any_eq_true.mp h
  obtain ⟨value, hvalue, hcollects⟩ := List.any_eq_true.mp hcollects
  obtain ⟨line, hline, hvalue⟩ := List.mem_filterMap.mp hvalue
  have hcollecting : Collecting (line.text Expression.text) :=
    collecting_line hvalue (collecting_expression hcollects)
  refine List.any_eq_true.mpr ⟨_, ?_, occurs_iff.mpr hcollecting⟩
  exact List.mem_flatMap.mpr ⟨b.emitted, List.mem_map_of_mem hb, List.mem_map_of_mem hline⟩

/-! ## What is needed -/

/-- What a type needs in a package: the type of lists if a list occurs in it, and the types of page objects in
other packages that occur in it. -/
inductive Needs (package : String) (t : ResultType) : String → Prop
  | list {element : ResultType} {all : Bool} (h : ResultType.OccursIn (.list element all) t) :
    Needs package t listType
  | pageObject {type : NamedType} (h : ResultType.OccursIn (.named type) t) (hpage : type.isPageObject = true)
    (hother : type.package ≠ package) : Needs package t type.fullName

theorem needs_list_iff {package full : String} {element : ResultType} {all : Bool} :
    Needs package (.list element all) full ↔ full = listType ∨ Needs package element full := by
  constructor
  · rintro (h | ⟨h, hpage, hother⟩)
    · exact .inl rfl
    · cases h with
      | element h => exact .inr (.pageObject h hpage hother)
  · rintro (rfl | ⟨h⟩ | ⟨h, hpage, hother⟩)
    · exact .list .self
    · exact .list h.element
    · exact .pageObject h.element hpage hother

/-- **The imports of a type** are what it needs. -/
theorem mem_typeImports_iff {package full : String} {t : ResultType} : full ∈ typeImports package t ↔ Needs package t full := by
  induction t with
  | list element all ih => rw [typeImports, List.mem_cons, ih, needs_list_iff]
  | named type =>
    rw [typeImports]
    constructor
    · intro h
      split at h
      · rename_i hneeded
        rw [Bool.and_eq_true, bne_iff_ne] at hneeded
        exact List.mem_singleton.mp h ▸ .pageObject .self hneeded.1 hneeded.2
      · exact absurd h (by simp)
    · rintro (⟨⟨⟩⟩ | ⟨⟨⟩, hpage, hother⟩)
      simp [hpage, hother]
  | _ =>
    refine iff_of_false (by simp [typeImports]) ?_
    rintro (⟨⟨⟩⟩ | ⟨⟨⟩, -, -⟩)

/-! ## Imports -/

/-- The class imports the name. -/
def Imports (c : PageClass) (name : String) : Prop :=
  "import " ++ name ++ ";" ∈ importLines (classImports c)

/-- The types in the heads of the class: those of its getters, and of its methods and their
parameters. -/
def headTypes (c : PageClass) : List ResultType :=
  (classGetters c).map Getter.returnType ++ c.allMethods.flatMap fun m =>
    m.signature.returnType :: m.signature.parameters.map Parameter.type

/-- The types that every class refers to, whatever its members. -/
def baseImports (c : PageClass) : List String :=
  [FrameworkType.basePageObject.fullName, FrameworkType.elementMarker.fullName,
    FrameworkType.elementLocation.fullName, c.fullName] ++
    if (rootMarker? c).isSome then [FrameworkType.pageMarker.fullName] else []

/-- The lines of imports are those of the names. -/
theorem mem_importLines_iff {name : String} {names : List String} :
    "import " ++ name ++ ";" ∈ importLines names ↔ name ∈ names := by
  have hinjective : ∀ other : String, "import " ++ other ++ ";" = "import " ++ name ++ ";" ↔
      other = name := by
    intro other
    rw [String.append_left_inj, String.append_right_inj]
  simp only [importLines, List.mem_map, hinjective, exists_eq_right]
  exact List.mem_mergeSort.trans List.mem_eraseDups

theorem imports_iff_mem {c : PageClass} {name : String} :
    Imports c name ↔ name ∈ classImports c := mem_importLines_iff

theorem mem_signatureImports {package name : String} {s : Signature} :
    name ∈ signatureImports package s ↔
      ∃ t ∈ s.returnType :: s.parameters.map Parameter.type, name ∈ typeImports package t := by
  rw [← List.mem_flatMap, List.flatMap_cons, List.flatMap_map]
  rfl

/-- **What the class imports**: the types that every class refers to, the collectors where the text of
a method calls one, and what the heads need in the package of the page object. -/
theorem imports_iff {c : PageClass} {name : String} : Imports c name ↔
    name ∈ baseImports c ∨ (name = collectorsType ∧ ∃ m ∈ c.allMethods, collects m = true) ∨
      ∃ t ∈ headTypes c, name ∈ typeImports c.package t := by
  have hheads : (∃ t ∈ headTypes c, name ∈ typeImports c.package t) ↔
      (∃ g ∈ classGetters c, name ∈ typeImports c.package g.returnType) ∨
        ∃ m ∈ c.allMethods, name ∈ signatureImports c.package m.signature := by
    simp only [headTypes, mem_signatureImports, List.mem_append, List.mem_map, List.mem_flatMap,
      or_and_right, exists_or, exists_exists_and_eq_and]
    refine or_congr Iff.rfl ⟨?_, ?_⟩
    · rintro ⟨t, ⟨m, hm, ht⟩, hname⟩
      exact ⟨m, hm, t, ht, hname⟩
    · rintro ⟨m, hm, t, ht, hname⟩
      exact ⟨t, ⟨m, hm, ht⟩, hname⟩
  have hmethod : ∀ m : ClassMethod, name ∈ (if collects m then [collectorsType] else []) ↔
      name = collectorsType ∧ collects m = true := by
    intro m
    cases collects m <;> simp
  rw [imports_iff_mem, hheads, classImports, List.mem_append, List.mem_append, List.mem_flatMap,
    List.mem_flatMap]
  simp only [List.mem_append, hmethod]
  constructor
  · rintro ((hbase | ⟨m, hm, hsignature | ⟨hname, hcollects⟩⟩) | hgetter)
    · exact Or.inl (List.mem_append.mpr hbase)
    · exact Or.inr (Or.inr (Or.inr ⟨m, hm, hsignature⟩))
    · exact Or.inr (Or.inl ⟨hname, m, hm, hcollects⟩)
    · exact Or.inr (Or.inr (Or.inl hgetter))
  · rintro (hbase | ⟨hname, m, hm, hcollects⟩ | hgetter | ⟨m, hm, hsignature⟩)
    · exact Or.inl (Or.inl (List.mem_append.mp hbase))
    · exact Or.inl (Or.inr ⟨m, hm, Or.inr ⟨hname, hcollects⟩⟩)
    · exact Or.inr hgetter
    · exact Or.inl (Or.inr ⟨m, hm, Or.inl hsignature⟩)

/-- The type is that of a page object in the package of this one. -/
def Owns (c : PageClass) (type : NamedType) : Prop :=
  type.isPageObject = true ∧ type.package = c.package

/-- The type needs a page object that occurs in it and is in the package of this one. -/
def NeedsOwn (c : PageClass) (t : ResultType) (full : String) : Prop :=
  ∃ type : NamedType, ResultType.OccursIn (.named type) t ∧ Owns c type ∧ full = type.fullName

/-- In the package of the class, a type needs what it needs in the package of the page object, and the
page objects of that package. -/
theorem needs_classPackage {c : PageClass} {full : String} {t : ResultType}
    (h : Needs (classPackage c) t full) : Needs c.package t full ∨ NeedsOwn c t full := by
  obtain hlist | @⟨type, htype, hpage, -⟩ := h
  · exact Or.inl (.list hlist)
  · by_cases hown : type.package = c.package
    · exact Or.inr ⟨type, htype, ⟨hpage, hown⟩, rfl⟩
    · exact Or.inl (.pageObject htype hpage hown)

/-- What types need in a package is kept by what a composition makes of types. -/
theorem typeImports_family (package : String) (names : String → Prop) :
    TypeFamily fun t => ∀ name ∈ typeImports package t, names name where
  valueless t ht := by
    cases t with
    | named type => exact absurd ht (by simp [ResultType.holdsValue])
    | list element all => exact absurd ht (by simp [ResultType.holdsValue])
    | _ => simp [typeImports]
  action t ht := by
    have hplain : ∀ t ∈ Action.returnTypes, t = .void ∨ ∃ name, t = .simple name := by
      intro t ht
      simp only [Action.returnTypes, List.mem_cons, List.not_mem_nil, or_false] at ht
      rcases ht with rfl | rfl | rfl | rfl
      · exact Or.inl rfl
      all_goals exact Or.inr ⟨_, rfl⟩
    obtain rfl | ⟨name, rfl⟩ := hplain t ht
    · simp [typeImports]
    · simp [typeImports, ResultType.simple, NamedType.isPageObject]
  map element all t hlist ht := by
    rw [typeImports, List.forall_mem_cons] at hlist ⊢
    exact ⟨hlist.1, ht⟩
  join element all hlist := hlist

end Java

/-! ## What statements declare -/

/-- A statement of a method, or of a predicate in it, declares the type. -/
def Frame.DeclaresWithin (frame : Frame) (ss : List Statement) (t : ResultType) : Prop :=
  ∃ s ∈ ss, ∃ s' ∈ s :: s.inner, frame.page.resolve s'.returnType s'.returnAll = .ok t

/-! ## Closure -/

open PageClass in
/-- The imports of a class are closed up to what is spared: the class imports all that is needed, in its
own package, by the types of its heads and of the variables in its methods, and the collectors where a
method collects a stream. -/
structure Java.ClosedUpTo (source : Source) (name package : String) (pc : PageClass)
    (sparedOfHeads : ResultType → String → Prop)
    (sparedOfBodies : Frame → List Statement → ResultType → String → Prop) : Prop where
  heads : ∀ t ∈ headTypes pc, ∀ needed, Needs (classPackage pc) t needed →
    Imports pc needed ∨ sparedOfHeads t needed
  bodies : ∀ m ∈ pc.allMethods, ∀ frame ss c, Composes source name package m frame ss c →
    ∀ t ∈ c.variableTypes, ∀ needed, Needs (classPackage pc) t needed →
      Imports pc needed ∨ sparedOfBodies frame ss t needed
  collectors : ∀ m ∈ pc.allMethods, ∀ frame ss c, Composes source name package m frame ss c →
    c.collects = true → Imports pc collectorsType

namespace PageClass

variable {source : Source} {name package : String} {pc : PageClass} {m : ClassMethod}
  {frame : Frame} {ss : List Statement} {c : Composition}

open Java in
/-- What a method is given needs nothing that the class does not import, but what its statements
declare. -/
theorem Composes.given (h : ofSource source name package = .ok pc) (hm : m ∈ pc.allMethods)
    (hcomposes : Composes source name package m frame ss c) :
    frame.Given (fun t => ∀ needed ∈ typeImports pc.package t, Imports pc needed ∨
      ∃ declared, frame.DeclaresWithin ss declared ∧ needed ∈ typeImports pc.package declared)
      ss := by
  obtain ⟨d, page, methods, beforeLoad, hload, hpage, -, hpc⟩ := ofSource_eq_ok h
  obtain ⟨d', hload', hpage', -, -, hreturn⟩ := hcomposes.made
  obtain rfl : d = d' := Except.ok.inj (hload.symm.trans hload')
  obtain rfl : page = frame.page := Except.ok.inj (hpage.symm.trans hpage')
  have hhead : ∀ t ∈ headTypes pc, ∀ needed ∈ typeImports pc.package t, Imports pc needed :=
    fun t ht needed hneeded => imports_iff.mpr (Or.inr (Or.inr ⟨t, ht, hneeded⟩))
  refine {
    family := typeImports_family pc.package _
    elements := ?_
    methodReturn := ?_
    declared := fun s hs s' hs' t ht needed hneeded =>
      Or.inr ⟨t, ⟨s, hs, s', hs', ht⟩, hneeded⟩ }
  · intro elementName element hfind needed hneeded
    by_cases hroot : elementName = "root"
    · -- the root is no page object, and no list
      subst hroot
      obtain rfl := root_of_find? hpage hfind
      exact absurd hneeded (by simp [PageElement.returnType, PageElement.root, typeImports,
        ResultType.ofElement, NamedType.isPageObject])
    · refine Or.inl (hhead element.returnType ?_ needed hneeded)
      refine List.mem_append_left _ (List.mem_map.mpr ⟨Getter.ofElement element, ?_, rfl⟩)
      refine List.mem_filter.mpr ⟨?_, ?_⟩
      · rw [hpc]
        exact List.mem_map_of_mem (List.mem_of_find?_eq_some hfind)
      · simpa [Getter.ofElement, Page.name_of_find? hfind] using hroot
  · intro needed hneeded
    rcases hreturn with hunset | hsignature
    · rw [hunset] at hneeded
      exact absurd hneeded (by simp [typeImports])
    · refine Or.inl (hhead frame.methodReturn ?_ needed hneeded)
      refine List.mem_append_right _ (List.mem_flatMap.mpr ⟨m, hm, ?_⟩)
      rw [hsignature]
      exact List.mem_cons_self

open Java in
/-- **What the class imports, and what it does not.** It imports all that the types of its heads and of
its variables need in its package, and the collectors where it collects a stream; spared are the page
objects in these types that are of the package of this one, and, for variables, what a declaration of a
statement needs. -/
theorem ofSource_imports (h : ofSource source name package = .ok pc) :
    ClosedUpTo source name package pc (NeedsOwn pc) fun frame ss t needed => NeedsOwn pc t needed ∨
      ∃ declared, frame.DeclaresWithin ss declared ∧ Needs pc.package declared needed where
  heads t ht needed hneeded :=
    (needs_classPackage hneeded).imp_left fun hown =>
      imports_iff.mpr (Or.inr (Or.inr ⟨t, ht, mem_typeImports_iff.mpr hown⟩))
  bodies m hm frame ss c hcomposes t ht needed hneeded := by
    obtain ⟨-, -, -, hcompose, -, -⟩ := hcomposes.made
    rcases needs_classPackage hneeded with hneeded | hown
    · rcases compose_family (hcomposes.given h hm) hcompose t ht needed
        (mem_typeImports_iff.mpr hneeded) with himports | ⟨declared, hdeclares, hdeclared⟩
      · exact Or.inl himports
      · exact Or.inr (Or.inr ⟨declared, hdeclares, mem_typeImports_iff.mp hdeclared⟩)
    · exact Or.inr (Or.inl hown)
  collectors m hm frame ss c hcomposes hcollects := by
    obtain ⟨-, -, -, -, ⟨methodName, description, isPublic, rfl⟩, -⟩ := hcomposes.made
    exact imports_iff.mpr (Or.inr (Or.inl
      ⟨rfl, _, hm, collects_of_composition hcollects methodName description isPublic⟩))

/-- A page object with a menu of its own package. Its method binds what the menu opens, a page object of
a type that stands in no head, and a list of a type that stands in none either. -/
def homeSource : Source :=
  .value (.object
    [("elements", .list [.object [("name", .text "menu"), ("type", .text "my-app/menu"),
      ("selector", .object [("css", .text "a")])]]),
    ("methods", .list [.object [("name", .text "openMenu"), ("compose", .list
      [.object [("element", .text "menu"), ("apply", .text "names"),
        ("returnType", .text "string"), ("returnAll", .bool true)],
      .object [("element", .text "menu"), ("apply", .text "open"),
        ("returnType", .text "your-app/dialog")],
      .object [("apply", .text "close"), ("chain", .bool true)]])]])])

/-- What the class of this page object imports, and what stands in it. -/
theorem homeSource_generated : ∃ pc m frame ss c, ofSource homeSource "Home" "my.app" = .ok pc ∧
    m ∈ pc.allMethods ∧ Composes homeSource "Home" "my.app" m frame ss c ∧
    Java.classImports pc = ["utam.core.framework.base.BasePageObject",
      "utam.core.framework.base.ElementMarker", "utam.core.element.ElementLocation",
      "my.app.Home"] ∧
    .named { name := "Menu", package := "my.app" } ∈ Java.headTypes pc ∧
    .named { name := "Dialog", package := "your.app" } ∈ c.variableTypes := by
  have hclass : (ofSource homeSource "Home" "my.app").toOption.any (fun pc =>
      !pc.allMethods.isEmpty && decide (Java.classImports pc =
        ["utam.core.framework.base.BasePageObject", "utam.core.framework.base.ElementMarker",
          "utam.core.element.ElementLocation", "my.app.Home"]) &&
      decide (.named { name := "Menu", package := "my.app" } ∈ Java.headTypes pc)) = true := by
    decide
  have hbodies : ((Document.load homeSource).toOption.all fun d =>
      (pageOf d "Home" "my.app").toOption.all fun page => d.beforeLoad.isEmpty && d.methods.all
        fun m => (frameOf page m).toOption.all fun frame => (compose frame m.compose).toOption.all
          fun c => decide (.named { name := "Dialog", package := "your.app" } ∈ c.variableTypes)) =
      true := by decide
  obtain ⟨pc, hpc, hclass⟩ := exists_eq_ok hclass
  simp only [Bool.and_eq_true, decide_eq_true_eq, Bool.not_eq_true',
    List.isEmpty_eq_false_iff_exists_mem] at hclass
  obtain ⟨⟨⟨m, hm⟩, himports⟩, hheads⟩ := hclass
  obtain ⟨frame, ss, c, hcomposes⟩ := ofSource_composes hpc m hm
  refine ⟨pc, m, frame, ss, c, hpc, hm, hcomposes, himports, hheads, ?_⟩
  cases hcomposes with
  | method hload hpage hmem hframe hcompose =>
    simp only [hload, hpage, Except.toOption, Option.all_some, Bool.and_eq_true] at hbodies
    have hbody := List.all_eq_true.mp hbodies.2 _ hmem
    simpa only [hframe, hcompose, Option.all_some, decide_eq_true_eq] using hbody
  | beforeLoad hload hpage hcompose =>
    simp only [hload, hpage, Except.toOption, Option.all_some, Bool.and_eq_true] at hbodies
    rw [List.isEmpty_iff.mp hbodies.1] at hcompose
    exact absurd hcompose (by simp [compose, Frame.composeSequence, bind, Except.bind])

open Java in
/-- **The imports are not closed**: the class does not import the type of the menu, which is in the package
of the page object and not in that of the class, and not the type of what the menu opens either. -/
theorem homeSource_not_closed : ∃ pc, ofSource homeSource "Home" "my.app" = .ok pc ∧
    ¬ ClosedUpTo homeSource "Home" "my.app" pc (fun _ _ => False) (fun _ _ _ _ => True) ∧
    ¬ ClosedUpTo homeSource "Home" "my.app" pc (fun _ _ => True) (fun _ _ => NeedsOwn pc) := by
  obtain ⟨pc, m, frame, ss, c, hpc, hm, hcomposes, himports, hhead, hbody⟩ := homeSource_generated
  obtain ⟨-, hpackage⟩ := ofSource_named hpc
  have hmissing : ∀ needed ∈ ["my.app.Menu", "your.app.Dialog"], ¬ Imports pc needed := by
    simp only [imports_iff_mem, himports]
    decide
  refine ⟨pc, hpc, ?_, ?_⟩
  · intro hclosed
    have hneeded : Needs (classPackage pc) (.named { name := "Menu", package := "my.app" })
        "my.app.Menu" := by
      refine .pageObject .self (by decide) ?_
      rw [classPackage, hpackage]
      decide
    rcases hclosed.heads _ hhead _ hneeded with himported | hspared
    · exact hmissing _ (by decide) himported
    · exact hspared
  · intro hclosed
    have hneeded : Needs (classPackage pc) (.named { name := "Dialog", package := "your.app" })
        "your.app.Dialog" := by
      refine .pageObject .self (by decide) ?_
      rw [classPackage, hpackage]
      decide
    rcases hclosed.bodies m hm frame ss c hcomposes _ hbody _ hneeded with himported | hspared
    · exact hmissing _ (by decide) himported
    · obtain ⟨type, hoccurs, ⟨-, htype⟩, -⟩ := hspared
      cases hoccurs
      rw [hpackage] at htype
      exact absurd htype (by decide)

open Java in
theorem homeSource_spared : ∃ pc, ofSource homeSource "Home" "my.app" = .ok pc ∧
    ClosedUpTo homeSource "Home" "my.app" pc (NeedsOwn pc) fun frame ss t needed =>
      NeedsOwn pc t needed ∨
        ∃ declared, frame.DeclaresWithin ss declared ∧ Needs pc.package declared needed := by
  obtain ⟨pc, -, -, -, -, hpc, -⟩ := homeSource_generated
  exact ⟨pc, hpc, ofSource_imports hpc⟩

end PageClass

end PageObjects
