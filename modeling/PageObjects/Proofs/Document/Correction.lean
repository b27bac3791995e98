import Mathlib.Data.Nat.Find
import PageObjects.Proofs.Document.Report
import PageObjects.Proofs.Elements

/-!
# Correcting what the review reports

One run of the review (Page Object Validator, specification 2) reports what is wrong with a document, each
thing once and at its place. Whoever corrects the places that are reported, and no other, has a document
without findings. Two things stand apart from this.

* A type with several interfaces that are not supported is reported as a whole: its entry names one of them.
* References to page objects are not reviewed. They are left to the page, which refuses a malformed one when
  its element is declared.

Main results:
* `Document.Wrong.mem_findings`, `Document.exists_wrong`: what is wrong is what is reported.
* `Document.Corrects`: a document with other things at the places that are reported, and nothing wrong there.
* **`Document.findings_report`**: what a report holds, and what becomes of a document that is corrected by it.
-/

namespace PageObjects

/-! ## What a message names -/

/-- The value that an objection is about, if it is about one. -/
def Objection.value? : Objection → Option String
  | .interface (.unknownInterface name _) => some name
  | .interface (.unknownAction name _ _) => some name
  | .interface (.unknownDocumentAction name) => some name
  | .selector (.uiautomator (.unsupportedMethod method)) => some method
  | .selector (.uiautomator (.unsupportedContainer method)) => some method
  | .selector .blank => none
  | .duplicateElement name => some name
  | .duplicateMethod name => some name
  | .reservedMethod name => some name
  | .undefinedElement name _ => some name
  | .elementBeforeLoad name => some name
  | .emptyPredicate => none
  | .parameterBeforeLoad => none

/-- The message holds the value in quotes. -/
def Quotes (message value : String) : Prop :=
  ∃ front back, message = front ++ ("'" ++ value ++ "'") ++ back

namespace Quotes

variable {opening closing value message : String}

theorem between (front back : String) (hopening : opening = front ++ "'") (hclosing : closing = "'" ++ back) :
    Quotes (opening ++ value ++ closing) value :=
  ⟨front, back, by rw [hopening, hclosing]; simp only [String.append_assoc]⟩

theorem append (h : Quotes message value) (rest : String) : Quotes (message ++ rest) value := by
  obtain ⟨front, back, rfl⟩ := h
  exact ⟨front, back ++ rest, by simp only [String.append_assoc]⟩

end Quotes

/-- The message of an objection quotes the value that it is about. -/
theorem Objection.message_quotes {o : Objection} {value : String} (h : o.value? = some value) :
    Quotes o.message value := by
  cases o with
  | interface e =>
    cases e with
    | unknownAction action element interfaces =>
      obtain rfl := Option.some.inj h
      exact (((Quotes.between "unknown action " " for element '" (by decide) (by decide)).append _).append
        _).append _
    | unknownDocumentAction action =>
      obtain rfl := Option.some.inj h
      exact (Quotes.between "unknown action " " for document, supported are " (by decide) (by decide)).append _
    | unknownInterface interface element =>
      obtain rfl := Option.some.inj h
      exact (((Quotes.between "unknown interface " " for element '" (by decide) (by decide)).append _).append
        _).append _
  | selector e =>
    cases e with
    | blank => exact absurd h (by simp [value?])
    | uiautomator fault =>
      cases fault with
      | unsupportedMethod method =>
        obtain rfl := Option.some.inj h
        exact Quotes.between "unsupported UiSelector method " "" (by decide) (by decide)
      | unsupportedContainer method =>
        obtain rfl := Option.some.inj h
        exact Quotes.between "unsupported UiScrollable constructor method " "" (by decide) (by decide)
  | duplicateElement name =>
    obtain rfl := Option.some.inj h
    exact Quotes.between "Duplicate element " "" (by decide) (by decide)
  | duplicateMethod name =>
    obtain rfl := Option.some.inj h
    exact Quotes.between "Duplicate method " "" (by decide) (by decide)
  | reservedMethod name =>
    obtain rfl := Option.some.inj h
    exact Quotes.between "Method name " " is reserved for beforeLoad" (by decide) (by decide)
  | undefinedElement name declared =>
    obtain rfl := Option.some.inj h
    exact (Quotes.between "References undefined element " ". Defined elements: " (by decide) (by decide)).append _
  | emptyPredicate => exact absurd h (by simp [value?])
  | elementBeforeLoad name =>
    obtain rfl := Option.some.inj h
    exact Quotes.between "beforeLoad can only use 'root', 'document' or 'self', found " "" (by decide) (by decide)
  | parameterBeforeLoad => exact absurd h (by simp [value?])

/-! ## Corrections -/

namespace Document

variable {d d' : Document} {l : Location} {o : Objection}

/-- The review reports the place. -/
def Reports (d : Document) (l : Location) : Prop := ∃ f ∈ d.findings, f.path = l.path

theorem reports_iff : d.Reports l ↔ ∃ o, d.Wrong l o := by
  constructor
  · rintro ⟨f, hf, hpath⟩
    obtain ⟨l', hpath', hwrong⟩ := exists_wrong hf
    obtain rfl := Location.path_injective (hpath.symm.trans hpath')
    exact ⟨f.objection, hwrong⟩
  · rintro ⟨o, hwrong⟩
    rcases hwrong.mem_findings with hf | ⟨_, e', -, -, hf⟩
    · exact ⟨_, hf, rfl⟩
    · exact ⟨_, hf, rfl⟩

end Document

/-- The parts are alike in what the review sees at their place, apart from what has a place of its own. -/
inductive Part.Alike : Part → Part → Prop
  | type {kind : ElementKind} {owner owner' : String} : Alike (.type kind owner) (.type kind owner')
  | selector {s : Selector} : Alike (.selector s) (.selector s)
  | element {e e' : Element} (hname : e.name = e'.name) : Alike (.element e) (.element e')
  | method {m m' : Method} (hname : m.name = m'.name) : Alike (.method m) (.method m')
  | statement {s s' : Statement} (helement : s.element = s'.element) (haction : s.action = s'.action)
      (harguments : s.givenArguments = s'.givenArguments) (hinner : s.inner = [] ↔ s'.inner = []) :
      Alike (.statement s) (.statement s')

/-- What stands at a place is as it should be: nothing is wrong there, a name is the name of nothing else of
its kind, and a reference is one. -/
structure Document.Right (d : Document) (l : Location) : Prop where
  wrong : ∀ o, ¬ d.Wrong l o
  element : ∀ i j e e', l = .element i → d.elements[i]? = some e → d.elements[j]? = some e' →
    e.name = e'.name → i = j
  method : ∀ i j m m', l = .method i → d.methods[i]? = some m → d.methods[j]? = some m' →
    m.name = m'.name → i = j
  reference : ∀ kind owner, d.part? l = some (.type kind owner) →
    ∀ reference ∈ kind.reference?, ResultType.IsReference reference

/-- The second document is the first, corrected where the review reports a place. All other places stay as
they are, and what stands at a place that was reported, or at a new one, is as it should be. -/
structure Document.Corrects (d d' : Document) : Prop where
  stays : ∀ l part, d.part? l = some part → ¬ d.Reports l → ∃ part', d'.part? l = some part' ∧ part.Alike part'
  right : ∀ l, d.part? l = none ∨ d.Reports l → d'.Right l
  beforeLoad : d.beforeLoad = [] → d'.beforeLoad = []

namespace Document

variable {d d' : Document} {l : Location} {o : Objection}

theorem Corrects.alike_or_right (h : d.Corrects d') (l : Location) :
    (¬ d.Reports l ∧ ∃ part part', d.part? l = some part ∧ d'.part? l = some part' ∧ part.Alike part') ∨
      d'.Right l := by
  by_cases hreports : d.Reports l
  · exact Or.inr (h.right l (Or.inr hreports))
  · cases hpart : d.part? l with
    | none => exact Or.inr (h.right l (Or.inl hpart))
    | some part =>
      obtain ⟨part', hpart', halike⟩ := h.stays l part hpart hreports
      exact Or.inl ⟨hreports, part, part', rfl, hpart', halike⟩

theorem part?_element {i : Nat} {part : Part} : d.part? (.element i) = some part ↔
    ∃ e, d.elements[i]? = some e ∧ .element e = part := Option.map_eq_some_iff

theorem part?_method {i : Nat} {part : Part} : d.part? (.method i) = some part ↔
    ∃ m, d.methods[i]? = some m ∧ .method m = part := Option.map_eq_some_iff

/-- An element keeps its name, or is as it should be. -/
theorem Corrects.element_or_right (h : d.Corrects d') {i : Nat} {e' : Element}
    (he' : d'.elements[i]? = some e') :
    (∃ e, d.elements[i]? = some e ∧ e.name = e'.name) ∨ d'.Right (.element i) := by
  rcases h.alike_or_right (.element i) with ⟨-, part, part', hpart, hpart', halike⟩ | hright
  · obtain ⟨e, he, rfl⟩ := part?_element.mp hpart
    obtain rfl := Option.some.inj (hpart'.symm.trans (part?_element.mpr ⟨e', he', rfl⟩))
    cases halike with
    | element hname => exact Or.inl ⟨e, he, hname⟩
  · exact Or.inr hright

/-- A method keeps its name, or is as it should be. -/
theorem Corrects.method_or_right (h : d.Corrects d') {i : Nat} {m' : Method}
    (hm' : d'.methods[i]? = some m') :
    (∃ m, d.methods[i]? = some m ∧ m.name = m'.name) ∨ d'.Right (.method i) := by
  rcases h.alike_or_right (.method i) with ⟨-, part, part', hpart, hpart', halike⟩ | hright
  · obtain ⟨m, hm, rfl⟩ := part?_method.mp hpart
    obtain rfl := Option.some.inj (hpart'.symm.trans (part?_method.mpr ⟨m', hm', rfl⟩))
    cases halike with
    | method hname => exact Or.inl ⟨m, hm, hname⟩
  · exact Or.inr hright

/-- At the place of an element only its name is looked at, and only for one before it. -/
theorem Wrong.exists_first {i : Nat} (h : d.Wrong (.element i) o) : ∃ j e first, j < i ∧
    d.elements[i]? = some e ∧ d.elements[j]? = some first ∧ first.name = e.name := by
  cases h with
  | duplicateElement he hfirst hlt hname => exact ⟨_, _, _, hlt, he, hfirst, hname⟩
  | interface hpart => exact absurd hpart (by simp [part?])
  | selector hpart => exact absurd hpart (by simp [part?])
  | undefinedElement hpart => exact absurd hpart (by simp [part?])
  | emptyPredicate hpart => exact absurd hpart (by simp [part?])
  | elementBeforeLoad hpart => exact absurd hpart (by simp [part?])
  | parameterBeforeLoad hpart => exact absurd hpart (by simp [part?])

/-- The first element of a name is not reported, so a correction keeps the names that are declared. -/
theorem Corrects.declared (h : d.Corrects d') {name : String} (hname : name ∈ d.elements.map Element.name) :
    name ∈ d'.elements.map Element.name := by
  classical
  have hdeclared : ∃ i : Nat, ∃ e : Element, d.elements[i]? = some e ∧ e.name = name := by
    obtain ⟨e, he, rfl⟩ := List.mem_map.mp hname
    obtain ⟨i, hi⟩ := List.mem_iff_getElem?.mp he
    exact ⟨i, e, hi, rfl⟩
  obtain ⟨e, he, rfl⟩ := Nat.find_spec hdeclared
  have hfirst : ¬ d.Reports (.element (Nat.find hdeclared)) := by
    intro hreports
    obtain ⟨o, hwrong⟩ := reports_iff.mp hreports
    obtain ⟨j, e', first, hlt, he', hbefore, hsame⟩ := hwrong.exists_first
    obtain rfl := Option.some.inj (he.symm.trans he')
    exact Nat.find_min hdeclared hlt ⟨first, hbefore, hsame⟩
  obtain ⟨part', hpart', halike⟩ := h.stays _ _ (part?_element.mpr ⟨e, he, rfl⟩) hfirst
  obtain ⟨e', he', rfl⟩ := part?_element.mp hpart'
  cases halike with
  | element hname => exact hname ▸ List.mem_map_of_mem (List.mem_of_getElem? he')

/-- What is wrong at a place that stays is wrong there before the correction. -/
theorem Corrects.wrong (h : d.Corrects d') (hstays : ¬ d.Reports l) {part part' : Part}
    (hpart : d.part? l = some part) (hpart' : d'.part? l = some part') (halike : part.Alike part') :
    ¬ d'.Wrong l o := by
  have hsound : ∀ o, ¬ d.Wrong l o := fun o hwrong => hstays (reports_iff.mpr ⟨o, hwrong⟩)
  intro hwrong
  cases hwrong with
  | interface hpart'' hname hunsupported =>
    obtain rfl := Option.some.inj (hpart'.symm.trans hpart'')
    cases halike with
    | type => exact hsound _ (.interface hpart hname hunsupported)
  | selector hpart'' hrefused =>
    obtain rfl := Option.some.inj (hpart'.symm.trans hpart'')
    cases halike with
    | selector => exact hsound _ (.selector hpart hrefused)
  | @duplicateElement i j e' first' he' hfirst' hlt hname' =>
    obtain ⟨e, he, rfl⟩ := part?_element.mp hpart
    obtain rfl := Option.some.inj (hpart'.symm.trans (part?_element.mpr ⟨e', he', rfl⟩))
    cases halike with
    | element hname =>
      rcases h.element_or_right hfirst' with ⟨first, hfirst, hkept⟩ | hright
      · exact hsound _ (.duplicateElement he hfirst hlt (hkept.trans (hname'.trans hname.symm)))
      · exact absurd (hright.element j i _ _ rfl hfirst' he' hname') (Nat.ne_of_lt hlt)
  | @duplicateMethod i j m' first' hm' hfirst' hlt hname' =>
    obtain ⟨m, hm, rfl⟩ := part?_method.mp hpart
    obtain rfl := Option.some.inj (hpart'.symm.trans (part?_method.mpr ⟨m', hm', rfl⟩))
    cases halike with
    | method hname =>
      rcases h.method_or_right hfirst' with ⟨first, hfirst, hkept⟩ | hright
      · exact hsound _ (.duplicateMethod hm hfirst hlt (hkept.trans (hname'.trans hname.symm)))
      · exact absurd (hright.method j i _ _ rfl hfirst' hm' hname') (Nat.ne_of_lt hlt)
  | @reservedMethod i m' hm' hload hbeforeLoad =>
    obtain ⟨m, hm, rfl⟩ := part?_method.mp hpart
    obtain rfl := Option.some.inj (hpart'.symm.trans (part?_method.mpr ⟨m', hm', rfl⟩))
    cases halike with
    | method hname =>
      exact hsound _ (.reservedMethod hm (hname.trans hload) fun hnil => hbeforeLoad (h.beforeLoad hnil))
  | undefinedElement hpart'' hname hreserved hdeclared =>
    obtain rfl := Option.some.inj (hpart'.symm.trans hpart'')
    cases halike with
    | statement helement haction harguments hinner =>
      exact hsound _ (.undefinedElement hpart (helement.trans hname) hreserved fun hold =>
        hdeclared (h.declared hold))
  | emptyPredicate hpart'' hwait hempty =>
    obtain rfl := Option.some.inj (hpart'.symm.trans hpart'')
    cases halike with
    | statement helement haction harguments hinner =>
      exact hsound _ (.emptyPredicate hpart (haction.trans hwait) (hinner.mpr hempty))
  | elementBeforeLoad hpart'' hearly hname hreserved =>
    obtain rfl := Option.some.inj (hpart'.symm.trans hpart'')
    cases halike with
    | statement helement haction harguments hinner =>
      exact hsound _ (.elementBeforeLoad hpart hearly (helement.trans hname) hreserved)
  | parameterBeforeLoad hpart'' hearly ha hparameter =>
    obtain rfl := Option.some.inj (hpart'.symm.trans hpart'')
    cases halike with
    | statement helement haction harguments hinner =>
      exact hsound _ (.parameterBeforeLoad hpart hearly (harguments ▸ ha) hparameter)

/-- **A document that is corrected where the review reports it** has no findings. -/
theorem Corrects.findings_eq_nil (h : d.Corrects d') : d'.findings = [] := by
  refine List.eq_nil_iff_forall_not_mem.mpr fun f hf => ?_
  obtain ⟨l, -, hwrong⟩ := exists_wrong hf
  rcases h.alike_or_right l with ⟨hstays, part, part', hpart, hpart', halike⟩ | hright
  · exact h.wrong hstays hpart hpart' halike hwrong
  · exact hright.wrong _ hwrong

theorem malformedReference?_eq_none {e : Element} : e.malformedReference? = none ↔
    ∀ reference ∈ e.kind.reference?, ResultType.IsReference reference := by
  rw [Element.malformedReference?, Option.filter_eq_none_iff]
  simp

theorem part?_elementType {i : Nat} {e : Element} (he : d.elements[i]? = some e) :
    d.part? (.elementType i) = some (.type e.kind e.name) := by
  rw [part?, he]
  rfl

/-- The place of a reference is not reported, as a reference has no interfaces. -/
theorem not_reports_reference {i : Nat} {e : Element} {reference : String} (he : d.elements[i]? = some e)
    (hreference : e.kind.reference? = some reference) : ¬ d.Reports (.elementType i) := by
  intro hreports
  obtain ⟨o, hwrong⟩ := reports_iff.mp hreports
  have htype := part?_elementType he
  cases hwrong with
  | interface hpart hname =>
    obtain ⟨rfl, -⟩ := Part.type.inj (Option.some.inj (htype.symm.trans hpart))
    revert hname hreference
    cases e.kind <;> simp [ElementKind.reference?, ElementKind.interfaces]
  | selector hpart => exact absurd (htype.symm.trans hpart) (by simp)
  | undefinedElement hpart => exact absurd (htype.symm.trans hpart) (by simp)
  | emptyPredicate hpart => exact absurd (htype.symm.trans hpart) (by simp)
  | elementBeforeLoad hpart => exact absurd (htype.symm.trans hpart) (by simp)
  | parameterBeforeLoad hpart => exact absurd (htype.symm.trans hpart) (by simp)

/-- A correction keeps the references of a document, and adds none that is malformed. -/
theorem Corrects.malformedReference? (h : d.Corrects d') :
    (∀ e ∈ d'.elements, e.malformedReference? = none) ↔ ∀ e ∈ d.elements, e.malformedReference? = none := by
  constructor
  · intro hwell e he
    obtain ⟨i, hi⟩ := List.mem_iff_getElem?.mp he
    refine malformedReference?_eq_none.mpr fun reference hreference => ?_
    obtain ⟨part', hpart', halike⟩ :=
      h.stays _ _ (part?_elementType hi) (not_reports_reference hi hreference)
    cases halike with
    | type =>
      rcases part?_type hpart' with ⟨heq, -⟩ | ⟨_, e', heq, he', hkind, -⟩
      · exact absurd heq (by simp)
      · obtain rfl := Location.elementType.inj heq
        rw [hkind] at hreference
        exact malformedReference?_eq_none.mp (hwell e' (List.mem_of_getElem? he')) reference hreference
  · intro hwell e' he'
    obtain ⟨i, hi⟩ := List.mem_iff_getElem?.mp he'
    have htype := part?_elementType hi
    refine malformedReference?_eq_none.mpr fun reference hreference => ?_
    rcases h.alike_or_right (.elementType i) with ⟨-, part, part', hpart, hpart', halike⟩ | hright
    · obtain rfl := Option.some.inj (htype.symm.trans hpart')
      cases halike with
      | type =>
        rcases part?_type hpart with ⟨heq, -⟩ | ⟨_, e, heq, he, hkind, -⟩
        · exact absurd heq (by simp)
        · rw [hkind] at hreference
          exact malformedReference?_eq_none.mp (hwell e (List.mem_of_getElem? he)) reference hreference
    · exact hright.reference _ _ htype reference hreference

/-- **The elements of a corrected document are declared** exactly if no reference of the document is
malformed. -/
theorem Corrects.exists_pageOf (h : d.Corrects d') (hkept : d'.Kept) {name package : String} :
    (∃ page, PageClass.pageOf d' name package = .ok page) ↔
      ∀ e ∈ d.elements, e.malformedReference? = none := by
  have hreviewed := reviewed_of_findings h.findings_eq_nil
  rw [← h.malformedReference?]
  constructor
  · rintro ⟨page, hpage⟩ e he
    obtain ⟨elements, hdeclared, -⟩ := PageClass.pageOf_declaredAs hpage
    obtain ⟨element, -, helement⟩ := exists_of_mem_forall₂ hdeclared.flip e he
    exact PageElement.malformedReference?_of_ok helement
  · exact PageClass.exists_pageOf hkept hreviewed

/-- In a document without findings, and without a malformed reference, all is as it should be. -/
theorem right_of_findings (hnil : d.findings = [])
    (hwell : ∀ e ∈ d.elements, e.malformedReference? = none) : d.Right l := by
  have haccepted := findings_eq_nil.mp hnil
  refine ⟨?_, ?_, ?_, ?_⟩
  · intro o hwrong
    obtain ⟨f, hf, -⟩ := reports_iff.mpr ⟨o, hwrong⟩
    exact absurd (hnil ▸ hf) List.not_mem_nil
  · intro i j e e' _ he he' hname
    have hsame : (d.elements.map Element.name)[i]? = (d.elements.map Element.name)[j]? := by
      rw [List.getElem?_map, List.getElem?_map, he, he', Option.map_some, Option.map_some, hname]
    obtain ⟨hlt, -⟩ := List.getElem?_eq_some_iff.mp he
    exact (List.getElem?_inj (by rwa [List.length_map]) haccepted.elements).mp hsame
  · intro i j m m' _ hm hm' hname
    have hsame : (d.methods.map Method.name)[i]? = (d.methods.map Method.name)[j]? := by
      rw [List.getElem?_map, List.getElem?_map, hm, hm', Option.map_some, Option.map_some, hname]
    obtain ⟨hlt, -⟩ := List.getElem?_eq_some_iff.mp hm
    exact (List.getElem?_inj (by rwa [List.length_map]) haccepted.methods).mp hsame
  · intro kind owner hpart
    rcases part?_type hpart with ⟨-, rfl, -⟩ | ⟨i, e, -, he, rfl, -⟩
    · simp [ElementKind.reference?]
    · exact malformedReference?_eq_none.mp (hwell e (List.mem_of_getElem? he))

/-! ## The report -/

/-- What the review reports of a document, and what comes of it. -/
structure Report (d : Document) : Prop where
  /-- An entry is about something wrong, at the place of a node that its path leads to. -/
  sound : ∀ f ∈ d.findings, ∃ l part, f.path = l.path ∧ d.Wrong l f.objection ∧ d.part? l = some part ∧
    (d.toJson .camel).at? f.path = some (part.toJson .camel)
  /-- The words of a path tell the place. -/
  place : ∀ l l' : Location, l.place = l'.place → l = l'
  /-- No entry stands twice. -/
  once : d.findings.Nodup
  /-- What is wrong has an entry at its place, unsupported interfaces apart. -/
  complete : ∀ l o, d.Wrong l o → (∀ e, o ≠ .interface e) → ⟨l.path, o⟩ ∈ d.findings
  /-- A type with unsupported interfaces has an entry at its place that names one of them. -/
  interfaces : ∀ l e, d.Wrong l (.interface e) → ∃ e', d.Wrong l (.interface e') ∧
    ⟨l.path, .interface e'⟩ ∈ d.findings
  /-- A message quotes the value that it is about. -/
  named : ∀ f ∈ d.findings, ∀ value ∈ f.objection.value?, Quotes f.objection.message value
  /-- The document is valid once the places of the entries are corrected. -/
  corrected : ∀ d', d.Corrects d' → d'.findings = []
  /-- Its elements are declared then, if none of the references that it had is malformed. -/
  declared : ∀ d' source name package, load source = .ok d' → d.Corrects d' →
    ((∃ page, PageClass.pageOf d' name package = .ok page) ↔ ∀ e ∈ d.elements, e.malformedReference? = none)

/-- At the place of something wrong stands a node. -/
theorem Wrong.exists_part (h : d.Wrong l o) : ∃ part, d.part? l = some part := by
  cases h with
  | duplicateElement he => exact ⟨_, part?_element.mpr ⟨_, he, rfl⟩⟩
  | duplicateMethod hm => exact ⟨_, part?_method.mpr ⟨_, hm, rfl⟩⟩
  | reservedMethod hm => exact ⟨_, part?_method.mpr ⟨_, hm, rfl⟩⟩
  | interface hpart => exact ⟨_, hpart⟩
  | selector hpart => exact ⟨_, hpart⟩
  | undefinedElement hpart => exact ⟨_, hpart⟩
  | emptyPredicate hpart => exact ⟨_, hpart⟩
  | elementBeforeLoad hpart => exact ⟨_, hpart⟩
  | parameterBeforeLoad hpart => exact ⟨_, hpart⟩

/-- **One run of the review** reports what is wrong with a document, each thing once and at its place. -/
theorem findings_report (d : Document) : d.Report where
  sound := by
    intro f hf
    obtain ⟨l, hpath, hwrong⟩ := exists_wrong hf
    obtain ⟨part, hpart⟩ := hwrong.exists_part
    exact ⟨l, part, hpath, hwrong, hpart, hpath ▸ at?_path hpart⟩
  place := fun _ _ => Location.place_injective
  once := nodup_findings
  complete := by
    intro l o hwrong hother
    rcases hwrong.mem_findings with hf | ⟨e, -, rfl, -⟩
    · exact hf
    · exact absurd rfl (hother e)
  interfaces := by
    intro l e hwrong
    rcases hwrong.mem_findings with hf | ⟨-, e', -, hwrong', hf⟩
    · exact ⟨e, hwrong, hf⟩
    · exact ⟨e', hwrong', hf⟩
  named := fun _ _ _ => Objection.message_quotes
  corrected := fun _ h => h.findings_eq_nil
  declared := fun _ _ _ _ hload h => h.exists_pageOf (load_kept hload)

/-- A page object with two interfaces that are not supported, and an element whose reference is none. -/
def swipeFields : Fields :=
  [("type", .list [.text "swipeable", .text "draggable"]),
    ("elements", .list [.object [("name", .text "menu"), ("type", .text "menu"),
      ("selector", .object [("css", .text "a")])]])]

/-- Of the two interfaces only the first has an entry, and the reference has none. -/
theorem swipeFields_unreported : ∃ d, load (.value (.object swipeFields)) = .ok d ∧
    d.Wrong .rootType (.interface (.unknownInterface "draggable" "root")) ∧
    d.elements.map Element.malformedReference? = [some "menu"] ∧
    d.findings = [⟨[.key "type"], .interface (.unknownInterface "swipeable" "root")⟩] := by
  have hknown : (load (.value (.object swipeFields))).toOption.any (fun d =>
      d.interfaces == ["swipeable", "draggable"] &&
        d.elements.map Element.malformedReference? == [some "menu"] &&
        d.findings == [⟨[.key "type"], .interface (.unknownInterface "swipeable" "root")⟩]) = true := by
    decide
  obtain ⟨d, hload, hknown⟩ := exists_eq_ok hknown
  rw [Bool.and_eq_true, Bool.and_eq_true, beq_iff_eq, beq_iff_eq, beq_iff_eq] at hknown
  obtain ⟨⟨hinterfaces, hmalformed⟩, hfindings⟩ := hknown
  refine ⟨d, hload, ?_, hmalformed, hfindings⟩
  exact @Wrong.interface d .rootType (.basic d.interfaces) _ _ rfl (by rw [hinterfaces]; decide) (by decide)

/-- A page object whose elements have the given names, and a method that clicks an element. -/
def twinFields (second clicked : String) : Fields :=
  [("elements", .list [.object [("name", .text "link"), ("selector", .object [("css", .text "a")])],
      .object [("name", .text second), ("selector", .object [("css", .text "b")])]]),
    ("methods", .list [.object [("name", .text "go"),
      ("compose", .list [.object [("element", .text clicked), ("apply", .text "click")]])]])]

/-- What the fields describe. -/
def twins (second clicked : String) : Document :=
  { elements := [{ name := "link", selector := { css := some "a" } },
      { name := second, selector := { css := some "b" } }],
    methods := [{ name := "go", compose := [{ element := some clicked, action := some "click" }] }] }

theorem twins_corrected : ∃ d d', load (.value (.object (twinFields "link" "button"))) = .ok d ∧
    load (.value (.object (twinFields "other" "link"))) = .ok d' ∧
    d.findings.map Finding.place = ["elements[1]", "methods[0].compose[0]"] ∧ d.Corrects d' ∧
    d'.findings = [] ∧ ∃ page, PageClass.pageOf d' "Page" "" = .ok page := by
  have hplaces : (twins "link" "button").findings.map Finding.place =
      ["elements[1]", "methods[0].compose[0]"] := by decide
  have hvalid : (twins "other" "link").findings = [] := by decide
  have hcorrects : (twins "link" "button").Corrects (twins "other" "link") := {
    stays := by
      intro l part hpart hstays
      cases l with
      | rootType => exact ⟨_, rfl, Option.some.inj hpart ▸ .type⟩
      | rootSelector => exact absurd hpart (by simp [part?, twins])
      | element index =>
        rcases index with _ | _ | index
        · exact ⟨_, rfl, Option.some.inj hpart ▸ .element rfl⟩
        · have hwrong : (twins "link" "button").Wrong (.element 1) _ :=
            @Wrong.duplicateElement _ 1 0 _ _ rfl rfl (by decide) rfl
          exact absurd (reports_iff.mpr ⟨_, hwrong⟩) hstays
        · exact absurd hpart (by simp [part?, twins])
      | elementType index =>
        rcases index with _ | _ | index
        · exact ⟨_, rfl, Option.some.inj hpart ▸ .type⟩
        · exact ⟨_, rfl, Option.some.inj hpart ▸ .type⟩
        · exact absurd hpart (by simp [part?, twins])
      | elementSelector index =>
        rcases index with _ | _ | index
        · exact ⟨_, rfl, Option.some.inj hpart ▸ .selector⟩
        · exact ⟨_, rfl, Option.some.inj hpart ▸ .selector⟩
        · exact absurd hpart (by simp [part?, twins])
      | method index =>
        rcases index with _ | index
        · exact ⟨_, rfl, Option.some.inj hpart ▸ .method rfl⟩
        · exact absurd hpart (by simp [part?, twins])
      | composed owner index descent =>
        rcases owner with _ | owner
        · rcases index with _ | index
          · rcases descent with _ | ⟨inner, descent⟩
            · have hwrong : (twins "link" "button").Wrong (.composed 0 0 []) _ :=
                .undefinedElement rfl rfl (by decide) (by decide)
              exact absurd (reports_iff.mpr ⟨_, hwrong⟩) hstays
            · exact absurd hpart (by simp [part?, twins, Statement.at?, Statement.inner])
          · exact absurd hpart (by simp [part?, twins])
        · exact absurd hpart (by simp [part?, twins])
      | beforeLoad index descent => exact absurd hpart (by simp [part?, twins])
    right := fun l _ => right_of_findings hvalid (by decide)
    beforeLoad := fun _ => rfl }
  have hreport := (twins "link" "button").findings_report
  exact ⟨_, _, rfl, rfl, hplaces, hcorrects, hreport.corrected _ hcorrects,
    (hreport.declared _ (.value (.object (twinFields "other" "link"))) _ _ rfl hcorrects).mpr (by decide)⟩

end Document

end PageObjects
