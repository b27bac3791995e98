import Mathlib.Data.List.Nodup
import PageObjects.PageClass.Java
import PageObjects.Proofs.BeforeLoad
import PageObjects.Proofs.Elements

/-!
# Names of generated members

A page class names its members after the elements and methods of its document: the getter of an element is
`get` and its capitalized name, with `Element` behind it unless the element is another page object, and the
type of a basic element is named in the same way. The review compares the names in the document and not those
made of them, so different elements can come to have one getter, and a method can be called like a getter.
The names are given by the Translation Context (specification, 2).

* `Getter.stem`: what stands behind `get` in the name of a getter.
* `Getter.Meets`: the elements whose getters have one name.
* `PageClass.Apart`: the page classes in which no element meets another, and no method is called like a
  getter.
* `Getter.Ordinary`: elements with names in the usual style, which never meet.
* **`PageClass.ofSource_members`**: the names of the members of a page class are different exactly when it
  is one of these.
-/

namespace PageObjects

/-! ## Capitalized names -/

namespace Text

theorem toList_capitalize {text : String} {c : Char} {rest : List Char} (h : text.toList = c :: rest) :
    (capitalize text).toList = upperChar c ++ rest := by
  unfold capitalize
  rw [h]
  exact String.toList_ofList

/-- Different names that are equal when they are capitalized begin with different characters. -/
theorem head?_ne_of_capitalize_eq {a b : String} (hne : a ≠ b) (h : capitalize a = capitalize b) :
    a.toList.head? ≠ b.toList.head? := by
  intro hhead
  refine hne (String.toList_inj.mp ?_)
  cases ha : a.toList with
  | nil =>
    rw [ha, List.head?_nil, eq_comm, List.head?_eq_none_iff] at hhead
    exact hhead.symm
  | cons c rest =>
    rw [ha, List.head?_cons, eq_comm] at hhead
    obtain ⟨rest', hb⟩ := List.head?_eq_some_iff.mp hhead
    have hchars := congrArg String.toList h
    rw [toList_capitalize ha, toList_capitalize hb, List.append_cancel_left_eq] at hchars
    rw [hb, hchars]

/-- A small letter in upper case is one character, and a letter of its own. -/
theorem upperChar_of_isLower {c : Char} (h : c.isLower = true) :
    upperChar c = [c.toUpper] ∧ c.toUpper.toLower = c := by
  have hbound : c.toNat < 128 := by
    unfold Char.isLower at h
    rw [Bool.and_eq_true, decide_eq_true_eq, decide_eq_true_eq] at h
    exact Nat.lt_of_le_of_lt (UInt32.le_iff_toNat_le.mp h.2) (by decide)
  have hall : ∀ n : Fin 128, (Char.ofNat n).isLower = true →
      (Char.ofNat n).toUpper.toLower = Char.ofNat n := by decide
  have hback := hall ⟨c.toNat, hbound⟩
  rw [Char.ofNat_toNat] at hback
  exact ⟨if_pos (by simpa [isAscii] using hbound), hback h⟩

/-- The name begins with a small letter of the Latin alphabet. -/
def OpensSmall (name : String) : Prop := ∃ c ∈ name.toList.head?, c.isLower = true

/-- What follows the first letter of a name that begins with a small one stays as it is, whatever the
capitalized name is continued with. -/
theorem capitalize_append_inj {a b ending : String} (ha : OpensSmall a) (hb : OpensSmall b)
    (h : capitalize a = capitalize b ++ ending) : a = b ++ ending := by
  obtain ⟨c, hc, hlower⟩ := ha
  obtain ⟨c', hc', hlower'⟩ := hb
  obtain ⟨rest, hrest⟩ := List.head?_eq_some_iff.mp hc
  obtain ⟨rest', hrest'⟩ := List.head?_eq_some_iff.mp hc'
  obtain ⟨hupper, hback⟩ := upperChar_of_isLower hlower
  obtain ⟨hupper', hback'⟩ := upperChar_of_isLower hlower'
  have hchars := congrArg String.toList h
  rw [String.toList_append, toList_capitalize hrest, toList_capitalize hrest', hupper, hupper'] at hchars
  obtain ⟨hfirst, htail⟩ := List.cons.inj hchars
  rw [← String.toList_inj, String.toList_append, hrest, hrest', ← hback, ← hback', hfirst]
  exact congrArg _ htail

theorem capitalize_inj {a b : String} (ha : OpensSmall a) (hb : OpensSmall b)
    (h : capitalize a = capitalize b) : a = b := by
  rw [← String.append_empty (s := capitalize b)] at h
  rw [capitalize_append_inj ha hb h, String.append_empty]

end Text

/-! ## Getters -/

namespace Getter

/-- The getter is that of another page object. -/
def isPageObject (g : Getter) : Bool := Java.isPageObject (Java.elementType g)

/-- The name of the type of the element, or of the elements of its list. -/
def typeName (g : Getter) : String := (Java.elementType g).simpleName

/-- The capitalized name of the element, with `Element` behind it for a basic one. -/
def stem (g : Getter) : String :=
  Text.capitalize g.elementName ++ if g.isPageObject then "" else "Element"

/-- The getter, and the type of a basic element, are named after the element. -/
structure NamedAfter (g : Getter) : Prop where
  getter : g.getterName = "get" ++ g.stem
  type : g.isPageObject = false → g.typeName = g.stem

/-- Two elements of one kind whose names are equal when they are capitalized, or a page object that is called
like a basic element with `Element` behind its name. -/
inductive Meets (g g' : Getter) : Prop
  | alike (hkind : g.isPageObject = g'.isPageObject)
      (hname : Text.capitalize g.elementName = Text.capitalize g'.elementName)
  | longer (hpage : g.isPageObject = true) (hbasic : g'.isPageObject = false)
      (hname : Text.capitalize g.elementName = Text.capitalize g'.elementName ++ "Element")
  | shorter (hbasic : g.isPageObject = false) (hpage : g'.isPageObject = true)
      (hname : Text.capitalize g'.elementName = Text.capitalize g.elementName ++ "Element")

/-- The element's name begins with a small letter, and does not end like that of a basic element's type if the
element is another page object. -/
structure Ordinary (g : Getter) : Prop where
  small : Text.OpensSmall g.elementName
  ending : g.isPageObject = true → ¬ "Element".toList <:+ g.elementName.toList

theorem stem_eq_iff {g g' : Getter} : g.stem = g'.stem ↔ g.Meets g' := by
  have hmeets : g.Meets g' ↔
      (g.isPageObject = g'.isPageObject ∧
        Text.capitalize g.elementName = Text.capitalize g'.elementName) ∨
      (g.isPageObject = true ∧ g'.isPageObject = false ∧
        Text.capitalize g.elementName = Text.capitalize g'.elementName ++ "Element") ∨
      (g.isPageObject = false ∧ g'.isPageObject = true ∧
        Text.capitalize g'.elementName = Text.capitalize g.elementName ++ "Element") := by
    constructor
    · rintro (⟨hkind, hname⟩ | ⟨hpage, hbasic, hname⟩ | ⟨hbasic, hpage, hname⟩)
      · exact Or.inl ⟨hkind, hname⟩
      · exact Or.inr (Or.inl ⟨hpage, hbasic, hname⟩)
      · exact Or.inr (Or.inr ⟨hbasic, hpage, hname⟩)
    · rintro (⟨hkind, hname⟩ | ⟨hpage, hbasic, hname⟩ | ⟨hbasic, hpage, hname⟩)
      · exact .alike hkind hname
      · exact .longer hpage hbasic hname
      · exact .shorter hbasic hpage hname
  rw [hmeets, stem, stem]
  cases g.isPageObject <;> cases g'.isPageObject <;> simp [eq_comm]

variable {g g' : Getter}

theorem NamedAfter.getterName_eq_iff (h : g.NamedAfter) (h' : g'.NamedAfter) :
    g.getterName = g'.getterName ↔ g.Meets g' := by
  rw [h.getter, h'.getter, String.append_right_inj, stem_eq_iff]

theorem NamedAfter.typeName_eq_iff (h : g.NamedAfter) (h' : g'.NamedAfter) (hbasic : g.isPageObject = false)
    (hbasic' : g'.isPageObject = false) :
    g.typeName = g'.typeName ↔ Text.capitalize g.elementName = Text.capitalize g'.elementName := by
  rw [h.type hbasic, h'.type hbasic', stem, stem, hbasic, hbasic']
  simp

/-- Ordinary elements that meet have one name. -/
theorem Meets.elementName_eq (hg : g.Ordinary) (hg' : g'.Ordinary) (h : g.Meets g') :
    g.elementName = g'.elementName := by
  have hending : ∀ {a b : String}, a = b ++ "Element" → "Element".toList <:+ a.toList := by
    rintro a b rfl
    exact ⟨b.toList, String.toList_append.symm⟩
  cases h with
  | alike hkind hname => exact Text.capitalize_inj hg.small hg'.small hname
  | longer hpage hbasic hname =>
    exact absurd (hending (Text.capitalize_append_inj hg.small hg'.small hname)) (hg.ending hpage)
  | shorter hbasic hpage hname =>
    exact absurd (hending (Text.capitalize_append_inj hg'.small hg.small hname)) (hg'.ending hpage)

theorem elementType_ofElement {element : PageElement} :
    Java.elementType (ofElement element) = .named element.type := by
  unfold Java.elementType ofElement PageElement.returnType
  cases element.isList <;> rfl

theorem isPageObject_ofElement {element : PageElement} :
    (ofElement element).isPageObject = element.type.isPageObject := by
  rw [isPageObject, elementType_ofElement, Java.isPageObject]

end Getter

theorem ResultType.ofReference_isPageObject {reference : String} {t : NamedType}
    (h : ofReference reference = .ok t) : t.isPageObject = true := by
  unfold ofReference at h
  split at h
  · rename_i first second rest hparts
    dsimp only at h
    split at h
    · exact absurd h (by simp)
    · rename_i hparts
      obtain rfl := Except.ok.inj h
      have hmodule : (packageOfModule first).toList ≠ [] := by
        simp only [List.any_cons, Bool.or_eq_true, not_or] at hparts
        simpa [packageOfModule, String.isEmpty_iff] using hparts.1
      simp only [NamedType.isPageObject, Bool.not_eq_true', ← Bool.not_eq_true, String.isEmpty_iff]
      intro hpackage
      have hchars := congrArg String.toList hpackage
      cases hdirectories : (second :: rest).dropLast.map Text.lower with
      | nil =>
        rw [hdirectories, String.intercalate_singleton] at hchars
        exact hmodule hchars
      | cons directory directories =>
        rw [hdirectories, String.intercalate_cons_cons] at hchars
        simp only [String.toList_append, String.toList_empty, List.append_eq_nil_iff] at hchars
        exact hmodule hchars.1.1
  · exact absurd h (by simp)

theorem PageElement.ofDeclaration_namedAfter {e : Element} {element : PageElement}
    (h : ofDeclaration e = .ok element) : (Getter.ofElement element).NamedAfter := by
  have hkind : (Getter.ofElement element).isPageObject = element.type.isPageObject :=
    Getter.isPageObject_ofElement
  have htype : (Getter.ofElement element).typeName = element.type.name := by
    rw [Getter.typeName, Getter.elementType_ofElement, ResultType.simpleName]
  have hbasic : ∀ interfaces, (ResultType.ofElement e.name interfaces).isPageObject = false := by
    intro interfaces
    rfl
  cases ofDeclaration_declares h with
  | pageObject hreference href =>
    have hpage := ResultType.ofReference_isPageObject href
    refine ⟨?_, fun hnot => ?_⟩
    · rw [Getter.stem, hkind, hpage]
      simp [Getter.ofElement]
    · rw [hkind, hpage] at hnot
      exact absurd hnot (by simp)
  | basic hreference =>
    refine ⟨?_, fun _ => ?_⟩
    · rw [Getter.stem, hkind, hbasic]
      simp [Getter.ofElement, String.append_assoc]
    · rw [htype, Getter.stem, hkind, hbasic]
      rfl

theorem PageElement.root_namedAfter {interfaces : List String} {isPublic : Bool} :
    (Getter.ofElement (root interfaces isPublic)).NamedAfter where
  getter := (by decide : "getRootElement" = "get" ++ (Text.capitalize "root" ++ "Element"))
  type _ := rfl

/-! ## Page classes -/

namespace PageClass

/-- The names of the members without parameters: the getters of the elements and of an exposed root, and the
methods, that which runs before loading among them. -/
def memberNames (pc : PageClass) : List String :=
  pc.elements.map Getter.getterName ++ (if pc.exposeRootElement then ["getRoot"] else []) ++
    (pc.allMethods.filter fun m => m.signature.parameters.isEmpty).map fun m => m.signature.name

/-- The names of the types of basic elements. -/
def typeNames (pc : PageClass) : List String :=
  (pc.elements.filter fun g => !g.isPageObject).map Getter.typeName

/-- No element meets another, none meets an exposed root, and no method without parameters is called like the
getter of either. -/
structure Apart (pc : PageClass) : Prop where
  elements : ∀ g ∈ pc.elements, ∀ g' ∈ pc.elements, g.elementName ≠ g'.elementName → ¬ g.Meets g'
  root : pc.exposeRootElement = true →
    ∀ g ∈ pc.elements, ¬ (g.isPageObject = true ∧ Text.capitalize g.elementName = "Root")
  methods : ∀ m ∈ pc.methods, m.signature.parameters = [] →
    (∀ g ∈ pc.elements, m.signature.name ≠ "get" ++ g.stem) ∧
      (pc.exposeRootElement = true → m.signature.name ≠ "getRoot")

/-- How the members of a page class are named: elements and methods under names of their own, getters and
types after the elements. -/
structure NamesMembers (pc : PageClass) : Prop where
  elements : (pc.elements.map Getter.elementName).Nodup
  getters : ∀ g ∈ pc.elements, g.NamedAfter
  root : ∃ g ∈ pc.elements, g.elementName = "root" ∧ g.isPageObject = false
  methods : (pc.allMethods.map fun m => m.signature.name).Nodup
  beforeLoad : ∀ m ∈ pc.beforeLoad, m.signature.name = "load"

namespace NamesMembers

variable {pc : PageClass}

theorem eq_of_elementName_eq (h : pc.NamesMembers) {g g' : Getter} (hg : g ∈ pc.elements)
    (hg' : g' ∈ pc.elements) (hname : g.elementName = g'.elementName) : g = g' :=
  List.inj_on_of_nodup_map h.elements hg hg' hname

/-- What is read off the getters differs when it differs for elements of different names. -/
theorem nodup_map_iff (h : pc.NamesMembers) {f : Getter → String} {p : Getter → Bool} :
    ((pc.elements.filter p).map f).Nodup ↔ ∀ g ∈ pc.elements, p g = true → ∀ g' ∈ pc.elements, p g' = true →
      g.elementName ≠ g'.elementName → f g ≠ f g' := by
  rw [List.nodup_map_iff_inj_on (h.elements.of_map.filter p)]
  simp only [List.mem_filter, and_imp]
  constructor
  · intro hinj g hg hpg g' hg' hpg' hne hf
    exact hne (congrArg _ (hinj g hg hpg g' hg' hpg' hf))
  · intro hne g hg hpg g' hg' hpg' hf
    by_contra hdiffer
    exact hne g hg hpg g' hg' hpg' (fun hname => hdiffer (h.eq_of_elementName_eq hg hg' hname)) hf

theorem getters_nodup_iff (h : pc.NamesMembers) : (pc.elements.map Getter.getterName).Nodup ↔
    ∀ g ∈ pc.elements, ∀ g' ∈ pc.elements, g.elementName ≠ g'.elementName → ¬ g.Meets g' := by
  have hall := h.nodup_map_iff (f := Getter.getterName) (p := fun _ => true)
  rw [List.filter_true] at hall
  rw [hall]
  refine forall₂_congr fun g hg => ?_
  simp only [forall_const]
  refine forall₂_congr fun g' hg' => ?_
  rw [Ne, Ne, (h.getters g hg).getterName_eq_iff (h.getters g' hg')]

theorem typeNames_nodup_iff (h : pc.NamesMembers) : pc.typeNames.Nodup ↔
    ∀ g ∈ pc.elements, g.isPageObject = false → ∀ g' ∈ pc.elements, g'.isPageObject = false →
      g.elementName ≠ g'.elementName →
        Text.capitalize g.elementName ≠ Text.capitalize g'.elementName := by
  rw [typeNames, h.nodup_map_iff]
  simp only [Bool.not_eq_true']
  refine forall₂_congr fun g hg => forall_congr' fun hbasic => ?_
  refine forall₂_congr fun g' hg' => forall_congr' fun hbasic' => ?_
  rw [Ne, Ne, Ne, (h.getters g hg).typeName_eq_iff (h.getters g' hg') hbasic hbasic']

/-- Only another page object has the getter of an exposed root. -/
theorem getterName_eq_getRoot (h : pc.NamesMembers) {g : Getter} (hg : g ∈ pc.elements) :
    g.getterName = "getRoot" ↔ g.isPageObject = true ∧ Text.capitalize g.elementName = "Root" := by
  have hroot : "getRoot" = "get" ++ "Root" := by decide
  rw [(h.getters g hg).getter, hroot, String.append_right_inj, Getter.stem]
  cases g.isPageObject with
  | true => simp
  | false =>
    simp only [Bool.false_eq_true, if_false, false_and, iff_false]
    intro hlong
    have hlength := congrArg String.length hlong
    rw [String.length_append] at hlength
    have hending : "Root".length < "Element".length := by decide
    omega

theorem getterName_ne_load (h : pc.NamesMembers) {g : Getter} (hg : g ∈ pc.elements) :
    g.getterName ≠ "load" := by
  rw [(h.getters g hg).getter]
  intro hload
  have hchars : 'g' :: ("et".toList ++ g.stem.toList) = 'l' :: "oad".toList := by
    simpa using congrArg String.toList hload
  exact absurd (List.cons.inj hchars).1 (by decide)

/-- **The members have different names** exactly when the elements and methods are apart. -/
theorem memberNames_nodup_iff (h : pc.NamesMembers) : pc.memberNames.Nodup ↔ pc.Apart := by
  have hmethods : ((pc.allMethods.filter fun m => m.signature.parameters.isEmpty).map
      fun m => m.signature.name).Nodup :=
    h.methods.sublist (List.filter_sublist.map _)
  have hroot : (if pc.exposeRootElement then ["getRoot"] else []).Nodup := by split <;> simp
  rw [memberNames, List.nodup_append, List.nodup_append, h.getters_nodup_iff]
  constructor
  · rintro ⟨⟨helements, -, hexposed⟩, -, hcalled⟩
    refine ⟨helements, ?_, ?_⟩
    · intro hexpose g hg hmeets
      exact hexposed _ (List.mem_map_of_mem hg) "getRoot" (by simp [hexpose])
        ((h.getterName_eq_getRoot hg).mpr hmeets)
    · intro m hm hparameters
      have hmem : m.signature.name ∈ (pc.allMethods.filter fun m => m.signature.parameters.isEmpty).map
          fun m => m.signature.name :=
        List.mem_map_of_mem (List.mem_filter.mpr ⟨List.mem_append_left _ hm, by simp [hparameters]⟩)
      refine ⟨fun g hg hname => ?_, fun hexpose hname => ?_⟩
      · exact hcalled _ (List.mem_append_left _ (List.mem_map_of_mem hg)) _ hmem
          ((h.getters g hg).getter.trans hname.symm)
      · exact hcalled "getRoot" (List.mem_append_right _ (by simp [hexpose])) _ hmem hname.symm
  · intro happart
    refine ⟨⟨happart.elements, hroot, ?_⟩, hmethods, ?_⟩
    · intro name hname root hexposed hsame
      obtain ⟨g, hg, rfl⟩ := List.mem_map.mp hname
      split at hexposed
      · rename_i hexpose
        rw [List.mem_singleton.mp hexposed] at hsame
        exact happart.root hexpose g hg ((h.getterName_eq_getRoot hg).mp hsame)
      · exact absurd hexposed (by simp)
    · intro name hname called hcalled hsame
      obtain ⟨m, hm, rfl⟩ := List.mem_map.mp hcalled
      obtain ⟨hm, hparameters⟩ := List.mem_filter.mp hm
      rcases List.mem_append.mp hm with hm | hm
      · obtain ⟨hgetters, hgetRoot⟩ := happart.methods m hm (List.isEmpty_iff.mp hparameters)
        rcases List.mem_append.mp hname with hname | hname
        · obtain ⟨g, hg, rfl⟩ := List.mem_map.mp hname
          exact hgetters g hg (hsame.symm.trans (h.getters g hg).getter)
        · split at hname
          · rename_i hexpose
            exact hgetRoot hexpose (hsame.symm.trans (List.mem_singleton.mp hname))
          · exact absurd hname (by simp)
      · -- the method that runs before loading
        rw [h.beforeLoad m (by simpa using hm)] at hsame
        rcases List.mem_append.mp hname with hname | hname
        · obtain ⟨g, hg, rfl⟩ := List.mem_map.mp hname
          exact h.getterName_ne_load hg hsame
        · split at hname
          · exact absurd (hsame.symm.trans (List.mem_singleton.mp hname)) (by decide)
          · exact absurd hname (by simp)

/-- Ordinary elements, beside methods that are not called like getters, are apart. -/
theorem apart_of_ordinary (h : pc.NamesMembers) (hordinary : ∀ g ∈ pc.elements, g.Ordinary)
    (hmethods : ∀ m ∈ pc.methods, m.signature.parameters = [] →
      ¬ "get".toList <+: m.signature.name.toList) : pc.Apart where
  elements g hg g' hg' hne hmeets :=
    hne (hmeets.elementName_eq (hordinary g hg) (hordinary g' hg'))
  root := by
    rintro - g hg ⟨hpage, hname⟩
    -- the root is called `root`, and nothing else is
    obtain ⟨root, hroot, hrootName, hbasic⟩ := h.root
    have hcapital : Text.capitalize g.elementName = Text.capitalize root.elementName := by
      rw [hname, hrootName]
      decide
    have hsame := Text.capitalize_inj (hordinary g hg).small (hordinary root hroot).small hcapital
    rw [h.eq_of_elementName_eq hg hroot hsame, hbasic] at hpage
    exact absurd hpage (by simp)
  methods := by
    intro m hm hparameters
    have hget := hmethods m hm hparameters
    refine ⟨fun g _ hname => hget ?_, fun _ hname => hget ?_⟩
    · rw [hname, String.toList_append]
      exact List.prefix_append _ _
    · rw [hname]
      decide

end NamesMembers

/-- The members of a page class by their names. -/
structure Members (pc : PageClass) : Prop where
  /-- Elements have different names, and so have methods, that which runs before loading among them. -/
  elements : (pc.elements.map Getter.elementName).Nodup
  methods : (pc.allMethods.map fun m => m.signature.name).Nodup
  /-- The members without parameters have different names exactly when elements and methods are apart. -/
  members : pc.memberNames.Nodup ↔ pc.Apart
  getters : ∀ g ∈ pc.elements, ∀ g' ∈ pc.elements, g.getterName = g'.getterName ↔ g.Meets g'
  /-- The types of basic elements have different names exactly when the capitalized names of these differ. -/
  types : pc.typeNames.Nodup ↔
    ∀ g ∈ pc.elements, g.isPageObject = false → ∀ g' ∈ pc.elements, g'.isPageObject = false →
      g.elementName ≠ g'.elementName →
        Text.capitalize g.elementName ≠ Text.capitalize g'.elementName
  /-- Capitalized names are equal only if the names begin differently. -/
  heads : ∀ g ∈ pc.elements, ∀ g' ∈ pc.elements, g.elementName ≠ g'.elementName →
    Text.capitalize g.elementName = Text.capitalize g'.elementName →
      g.elementName.toList.head? ≠ g'.elementName.toList.head?
  /-- With names in the usual style all are different. -/
  ordinary : (∀ g ∈ pc.elements, g.Ordinary) →
    (∀ m ∈ pc.methods, m.signature.parameters = [] → ¬ "get".toList <+: m.signature.name.toList) →
      pc.memberNames.Nodup ∧ pc.typeNames.Nodup

variable {source : Source} {name package : String} {pc : PageClass}

/-- The methods have the names that the document gives them, and the one that runs before loading is there when
there are statements for it. -/
theorem composeAll_names {page : Page} {d : Document} {methods : List ClassMethod} {beforeLoad : Option ClassMethod}
    (h : composeAll page d = .ok (methods, beforeLoad)) :
    methods.map (fun m => m.signature.name) = d.methods.map Method.name ∧
      beforeLoad.map (fun m => m.signature.name) = if d.beforeLoad.isEmpty then none else some "load" := by
  simp only [composeAll, bind_eq_ok] at h
  obtain ⟨methods', hmethods, beforeLoad', hbeforeLoad, he⟩ := h
  obtain ⟨rfl, rfl⟩ := Prod.mk.inj (pure_eq_ok.mp he)
  refine ⟨map_of_mapM (fun m m' hm => ?_) hmethods, ?_⟩
  · simp only [composeMethod, bind_eq_ok] at hm
    obtain ⟨frame, -, c, -, hm⟩ := hm
    obtain rfl := pure_eq_ok.mp hm
    rfl
  · unfold composeBeforeLoad at hbeforeLoad
    split at hbeforeLoad
    · obtain rfl := Except.ok.inj hbeforeLoad
      rename_i hnone
      rw [if_pos hnone]
      rfl
    · rename_i hsome
      obtain ⟨c, -, rfl⟩ := map_eq_ok.mp hbeforeLoad
      rw [if_neg hsome]
      rfl

theorem ofSource_namesMembers (h : ofSource source name package = .ok pc) : pc.NamesMembers := by
  obtain ⟨d, page, methods, beforeLoad, hload, hreview, hpage, hall, rfl⟩ := ofSource_eq_ok_iff.mp h
  have hkept := Document.load_kept hload
  have haccepted := Document.findings_eq_nil.mp hreview
  have hnodup := pageOf_nodup hkept haccepted.toReviewed hpage
  obtain ⟨elements, hdeclared, rfl⟩ := pageOf_declaredAs hpage
  obtain ⟨hmethodNames, hbeforeLoad⟩ := composeAll_names hall
  have hload : ∀ m ∈ beforeLoad, m.signature.name = "load" ∧ d.beforeLoad ≠ [] := by
    rintro m hm
    rw [Option.mem_def.mp hm, Option.map_some] at hbeforeLoad
    split at hbeforeLoad
    · exact absurd hbeforeLoad (by simp)
    · rename_i hsome
      exact ⟨Option.some.inj hbeforeLoad, by simpa using hsome⟩
  refine {
    elements := ?_
    getters := ?_
    root := ⟨_, List.mem_cons_self, rfl, rfl⟩
    methods := ?_
    beforeLoad := fun m hm => (hload m hm).1 }
  · simp only [assemble, List.map_map]
    exact hnodup
  · simp only [assemble, List.map_cons, List.forall_mem_cons, List.forall_mem_map]
    refine ⟨PageElement.root_namedAfter, fun element helement => ?_⟩
    obtain ⟨e, -, he⟩ := exists_of_mem_forall₂ hdeclared element helement
    exact PageElement.ofDeclaration_namedAfter he
  · simp only [allMethods, assemble, List.map_append, hmethodNames, List.nodup_append]
    refine ⟨haccepted.methods, ?_, ?_⟩
    · cases beforeLoad <;> simp
    · intro called hcalled runs hruns hsame
      obtain ⟨m, hm, rfl⟩ := List.mem_map.mp hruns
      obtain ⟨hname, hne⟩ := hload m (by simpa using hm)
      obtain ⟨m', hm', rfl⟩ := List.mem_map.mp hcalled
      exact haccepted.unreserved hne m' hm' (hsame.trans hname)

/-- **The members of a page class have different names** exactly when its elements and methods are apart, as
they are when their names are in the usual style. -/
theorem ofSource_members (h : ofSource source name package = .ok pc) : Members pc := by
  have hnames := ofSource_namesMembers h
  refine {
    elements := hnames.elements
    methods := hnames.methods
    members := hnames.memberNames_nodup_iff
    getters := fun g hg g' hg' => (hnames.getters g hg).getterName_eq_iff (hnames.getters g' hg')
    types := hnames.typeNames_nodup_iff
    heads := fun g _ g' _ hne => Text.head?_ne_of_capitalize_eq hne
    ordinary := fun hordinary hmethods => ?_ }
  refine ⟨hnames.memberNames_nodup_iff.mpr (hnames.apart_of_ordinary hordinary hmethods), ?_⟩
  rw [hnames.typeNames_nodup_iff]
  intro g hg _ g' hg' _ hne hcapital
  exact hne (Text.capitalize_inj (hordinary g hg).small (hordinary g' hg').small hcapital)

/-- A page object with two elements whose names differ in their first letter alone, with a method that is called
like their getter, and with one that is called like the getter of its exposed root. -/
def itemsSource : Source :=
  .value (.object
    [("exposeRootElement", .bool true),
    ("elements", .list
      [.object [("name", .text "item"), ("selector", .object [("css", .text "a")])],
      .object [("name", .text "Item"), ("selector", .object [("css", .text "b")])]]),
    ("methods", .list
      [.object [("name", .text "getItemElement"),
        ("compose", .list [.object [("element", .text "item")]])],
      .object [("name", .text "getRoot"), ("compose", .list [.object [("element", .text "root")]])]])])

theorem itemsSource_members : ∃ pc, ofSource itemsSource "Page" "" = .ok pc ∧ Members pc := by
  have hok : (ofSource itemsSource "Page" "").toOption.any (fun _ => true) = true := by decide
  obtain ⟨pc, hpc, -⟩ := exists_eq_ok hok
  exact ⟨pc, hpc, ofSource_members hpc⟩

/-- **Members can have one name**: here two getters, two types of basic elements, and each of two methods with a
getter or with that of the exposed root. -/
theorem itemsSource_collides : ∃ pc, ofSource itemsSource "Page" "" = .ok pc ∧
    pc.elements.map Getter.getterName = ["getRootElement", "getItemElement", "getItemElement"] ∧
    pc.typeNames = ["RootElement", "ItemElement", "ItemElement"] ∧
    pc.methods.map (fun m => (m.signature.name, m.signature.parameters)) =
      [("getItemElement", []), ("getRoot", [])] ∧
    pc.exposeRootElement = true := by
  have hok : (ofSource itemsSource "Page" "").toOption.any (fun pc =>
      pc.elements.map Getter.getterName == ["getRootElement", "getItemElement", "getItemElement"] &&
      (pc.typeNames == ["RootElement", "ItemElement", "ItemElement"] &&
      (pc.methods.map (fun m => (m.signature.name, m.signature.parameters)) ==
        [("getItemElement", []), ("getRoot", [])] && pc.exposeRootElement))) = true := by decide
  obtain ⟨pc, hpc, hcollides⟩ := exists_eq_ok hok
  simp only [Bool.and_eq_true, beq_iff_eq] at hcollides
  exact ⟨pc, hpc, hcollides⟩

end PageClass

end PageObjects
