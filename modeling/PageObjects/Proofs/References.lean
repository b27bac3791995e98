import PageObjects.Proofs.Compose.Failure
import PageObjects.Proofs.PageClass

/-!
# References of a reviewed document

The review and the translation of a document (Page Object Validator and Translation Context,
specification 2) resolve names apart from each other: the review with a list of names, the translation by
looking elements up in the page. They agree on what is declared. A document without findings is translated
without an element that is declared twice, without an element that is not known, and without a wait for
nothing, with two exceptions.

* The review does not read references to page objects. A malformed one is refused when its element is
  declared.
* To the review `self` and `document` are elements of every page object. A statement that is nothing
  but one of them has no element to evaluate to, and nothing is promised of it here.

Main results:
* `Page.declareAll_eq_error`: elements of different names are refused for a reference only.
* **`PageClass.ofSource_resolves`**: how a document without findings fails by its references.
-/

namespace PageObjects

/-! ## Declared elements -/

/-- The reference of an element, if it is malformed. -/
def Element.malformedReference? (e : Element) : Option String :=
  e.kind.reference?.filter fun reference => !decide (ResultType.IsReference reference)

namespace PageElement

theorem ofDeclaration_eq_error {e : Element} {error : TypeError} :
    ofDeclaration e = .error error ↔
      ∃ reference, e.malformedReference? = some reference ∧ error = .malformedReference reference := by
  unfold ofDeclaration Element.malformedReference?
  cases hkind : e.kind with
  | basic interfaces => simp [ElementKind.reference?]
  | untyped => simp [ElementKind.reference?]
  | pageObject reference =>
    simp only [ElementKind.reference?, Option.filter_some, Bool.not_eq_true',
      decide_eq_false_iff_not]
    split
    · rename_i error' htype
      obtain ⟨hmalformed, rfl⟩ := ResultType.ofReference_eq_error.mp htype
      simp [hmalformed, eq_comm]
    · rename_i type htype
      have hwell : ResultType.IsReference reference :=
        Decidable.of_not_not fun hmalformed => by
          have := ResultType.ofReference_eq_error.mpr ⟨hmalformed, rfl⟩
          exact absurd (htype.symm.trans this) (by simp)
      rw [if_neg (not_not_intro hwell)]
      simp

theorem malformedReference?_of_ok {e : Element} {element : PageElement}
    (h : ofDeclaration e = .ok element) : e.malformedReference? = none := by
  cases hmalformed : e.malformedReference? with
  | none => rfl
  | some reference =>
    have hrefused := ofDeclaration_eq_error.mpr ⟨reference, hmalformed, rfl⟩
    exact absurd (h.symm.trans hrefused) (by simp)

end PageElement

namespace Page

/-- The names of the elements of a page. -/
def names (p : Page) : List String := p.elements.map PageElement.name

theorem isSome_find?_iff {p : Page} {name : String} :
    (p.find? name).isSome = true ↔ name ∈ p.names := by
  simp [find?, names]

theorem add_names {p p' : Page} {element : PageElement} (h : p.add element = .ok p') :
    p'.names = p.names ++ [element.name] := by
  obtain ⟨-, rfl⟩ := add_eq_ok h
  simp [names]

theorem declareAll_names : ∀ {elements : List Element} {p p' : Page},
    p.declareAll elements = .ok p' → p'.names = p.names ++ elements.map Element.name
  | [], p, p', h => by
    obtain rfl := pure_eq_ok.mp h
    simp
  | e :: rest, p, p', h => by
    unfold declareAll at h
    rw [List.foldlM_cons, bind_eq_ok] at h
    obtain ⟨next, hnext, h⟩ := h
    obtain ⟨element, helement, hadd⟩ := declare_eq_ok hnext
    rw [declareAll_names h, add_names hadd, PageElement.ofDeclaration_named_as helement]
    simp

/-- **Elements of different names are refused for a reference only**, and for the first that is
malformed. -/
theorem declareAll_eq_error : ∀ {elements : List Element} {p : Page} {error : PageError},
    (elements.map Element.name).Nodup → (∀ e ∈ elements, e.name ∉ p.names) →
      (p.declareAll elements = .error error ↔
        ∃ reference, elements.findSome? Element.malformedReference? = some reference ∧
          error = .type (.malformedReference reference))
  | [], p, error, _, _ => by simp [declareAll, pure, Except.pure]
  | e :: rest, p, error, hnodup, hfresh => by
    rw [List.map_cons, List.nodup_cons] at hnodup
    rw [List.forall_mem_cons] at hfresh
    unfold declareAll
    rw [List.foldlM_cons, List.findSome?_cons]
    cases helement : PageElement.ofDeclaration e with
    | error error' =>
      obtain ⟨reference, hreference, rfl⟩ := PageElement.ofDeclaration_eq_error.mp helement
      simp [declare, helement, hreference, bind, Except.bind, eq_comm]
    | ok element =>
      have hname := PageElement.ofDeclaration_named_as helement
      have hwell := PageElement.malformedReference?_of_ok helement
      have hfree : p.find? element.name = none := by
        rw [← Option.not_isSome_iff_eq_none, isSome_find?_iff, hname]
        exact hfresh.1
      obtain ⟨next, hnext⟩ : ∃ next, p.add element = .ok next := by
        simp [add, hfree]
      have hnames := add_names hnext
      rw [hname] at hnames
      have hlater : ∀ e' ∈ rest, e'.name ∉ next.names := by
        intro e' he' hmem
        rw [hnames] at hmem
        rcases List.mem_append.mp hmem with hold | hnew
        · exact hfresh.2 e' he' hold
        · exact hnodup.1 (List.mem_singleton.mp hnew ▸ List.mem_map.mpr ⟨e', he', rfl⟩)
      simp only [declare, helement, hnext, hwell, ok_bind]
      exact declareAll_eq_error hnodup.2 hlater

end Page

/-- The first malformed reference of a document. -/
def Document.malformedReference? (d : Document) : Option String :=
  d.elements.findSome? Element.malformedReference?

namespace PageClass

variable {d : Document} {name package : String} {page : Page}

theorem pageOf_names (h : pageOf d name package = .ok page) :
    page.names = "root" :: d.elements.map Element.name := by
  simp only [pageOf, bind_eq_ok] at h
  obtain ⟨root, hroot, h⟩ := h
  rw [Page.declareAll_names h, Page.add_names hroot]
  rfl

/-- The page of a document without findings is refused for its first malformed reference only. -/
theorem pageOf_eq_error {e : PageError} (hkept : d.Kept) (hreviewed : d.Reviewed) :
    pageOf d name package = .error e ↔ ∃ reference,
      d.malformedReference? = some reference ∧ e = .type (.malformedReference reference) := by
  have hfresh : ∀ e ∈ d.elements,
      e.name ∉ ({ name, package, elements := [.root d.interfaces d.exposeRootElement] } : Page).names := by
    intro e he hroot
    have hreserved := Element.not_reserved (hkept.elements e he)
    rw [List.mem_singleton.mp hroot] at hreserved
    exact hreserved (by decide : PageElement.rootName ∈ reservedElements)
  exact Page.declareAll_eq_error hreviewed.elements hfresh

end PageClass

/-! ## Statements -/

/-- The statement is `s`, or stands in its predicate at any depth. -/
inductive Statement.Holds : Statement → Statement → Prop
  | itself (s : Statement) : Holds s s
  | inner {s s' s'' : Statement} (hs' : s' ∈ s.inner) (hholds : Holds s' s'') : Holds s s''

/-- The statement is one of the document, or stands in a predicate of one. -/
def Document.Holds (d : Document) (s : Statement) : Prop :=
  ∃ top, d.HasStatement top ∧ top.Holds s

/-- A statement of the document is nothing but the name of an element. -/
def Document.Names (d : Document) (element : String) : Prop :=
  ∃ s, d.Holds s ∧ s.action = none ∧ s.element = some element

variable {frame : Frame} {declared : List String} {P : String → Prop} {s : Statement}

/-- A frame knows the statements that refer to the elements of its page, unless they are nothing but
`self` or `document`. -/
theorem Frame.knows_of_reviewed (hpage : frame.page.names = "root" :: declared)
    (hdefault : ∀ name ∈ frame.defaultElement, name = "root") (hkept : s.Kept)
    (hreviewed : s.Reviewed declared)
    (hbare : s.action = none → ∀ name, s.element = some name →
      name = "self" ∨ name = "document" → P name) : frame.Knows P s := by
  have hfound : ∀ name, s.element = some name →
      name = "self" ∨ name = "document" ∨ (frame.page.find? name).isSome = true := by
    intro name hname
    have hrefers := hreviewed.refers
    simp only [Statement.refersTo, hname, reservedElements, Bool.or_eq_true,
      List.contains_iff_mem, List.mem_cons, List.not_mem_nil, or_false] at hrefers
    rw [Page.isSome_find?_iff, hpage, List.mem_cons]
    rcases hrefers with (hroot | hdocument | hself) | hdeclared
    · exact Or.inr (Or.inr (Or.inl hroot))
    · exact Or.inr (Or.inl hdocument)
    · exact Or.inl hself
    · exact Or.inr (Or.inr (Or.inr hdeclared))
  refine ⟨?_, ?_⟩
  · intro name hname
    cases helement : s.element with
    | some own =>
      rw [helement] at hname
      obtain rfl := Option.some.inj hname
      exact hfound _ helement
    | none =>
      rw [helement] at hname
      obtain rfl := hdefault name hname
      exact Or.inr (Or.inr (by rw [Page.isSome_find?_iff, hpage]; simp))
  · intro haction
    obtain ⟨-, name, hname⟩ := hkept.element_of_action haction
    rw [hname, Option.getD_some]
    rcases hfound name hname with hself | hdocument | hfind
    · exact Or.inr (hbare haction name hname (Or.inl hself))
    · exact Or.inr (hbare haction name hname (Or.inr hdocument))
    · exact Or.inl hfind

/-- A frame admits the statements that refer to the elements of its page, and whose waits wait for
something. -/
theorem Frame.admits_of_reviewed (hpage : frame.page.names = "root" :: declared)
    (hdefault : ∀ name ∈ frame.defaultElement, name = "root") (hkept : s.Kept)
    (hreviewed : s.Reviewed declared)
    (hbare : ∀ s', s.Holds s' → s'.action = none → ∀ name, s'.element = some name →
      name = "self" ∨ name = "document" → P name) : frame.Admits P s where
  own _ := Frame.knows_of_reviewed hpage hdefault hkept hreviewed (hbare s (.itself s))
  inner hwait := by
    refine ⟨hreviewed.waits hwait, ?_⟩
    intro s' hs'
    exact Frame.knows_of_reviewed hpage hdefault (hkept.of_inner hs') (hreviewed.of_inner hs')
      (hbare s' (.inner hs' (.itself s')))

/-! ## Documents -/

namespace PageClass

variable {d : Document} {name package : String} {page : Page}

/-- The methods of a document without findings fail by no reference but `self` and `document`. -/
theorem composeAll_faults (hkept : d.Kept) (hreviewed : d.Reviewed)
    (hpage : pageOf d name package = .ok page) :
    Faults (ComposeError.Spares fun element =>
      (element = "self" ∨ element = "document") ∧ d.Names element) (composeAll page d) := by
  have hnames := pageOf_names hpage
  have admits : ∀ (frame : Frame) (s : Statement), frame.page = page →
      (∀ name ∈ frame.defaultElement, name = "root") → d.HasStatement s → s.Kept →
      frame.Admits (fun element => (element = "self" ∨ element = "document") ∧ d.Names element)
        s := by
    intro frame s hframe hdefault hs hsKept
    refine Frame.admits_of_reviewed (hframe ▸ hnames) hdefault hsKept (hreviewed.statements s hs) ?_
    intro s' hholds haction element helement hbare
    exact ⟨hbare, s', ⟨s, hs, hholds⟩, haction, helement⟩
  refine Faults.bind (Faults.mapM ?_) fun methods _ => Faults.bind ?_ fun _ _ => Faults.ok
  · intro m hm
    unfold composeMethod
    refine Faults.bind ?_ fun frame hframe => ?_
    · unfold frameOf
      split
      · exact Faults.ok
      · exact Faults.error trivial
    · unfold frameOf at hframe
      split at hframe
      · obtain rfl := Except.ok.inj hframe
        refine (compose_faults fun s hs => ?_).bind fun _ _ => Faults.ok
        exact admits _ s rfl (by simp) (Or.inr ⟨m, hm, hs⟩) (hkept.methods m hm s hs)
      · exact absurd hframe (by simp)
  · unfold composeBeforeLoad
    split
    · exact Faults.ok
    · refine (compose_faults fun s hs => ?_).map
      exact admits _ s rfl (by simp [beforeLoadFrame]) (Or.inl hs) (hkept.beforeLoad s hs)

/-- How the translation of a document fails by its references, if it fails. -/
structure Resolves (d : Document) (outcome : Except CompileError PageClass) : Prop where
  /-- Its page is refused for the first malformed reference to a page object, and for nothing else: no
  element is declared twice. -/
  page : ∀ e : PageError, (∃ fullName, outcome = .error ⟨fullName, .page e⟩) ↔ ∃ reference,
    d.malformedReference? = some reference ∧ e = .type (.malformedReference reference)
  /-- An element that is not known is `self` or `document`, in a statement that is nothing else. -/
  element : ∀ fullName e, outcome = .error ⟨fullName, .compose (.page e)⟩ →
    ∃ element pageName known, e = .unknownElement element pageName known ∧
      (element = "self" ∨ element = "document") ∧ d.Names element
  /-- No wait is for nothing. -/
  predicate : ∀ fullName method index inPredicate,
    outcome ≠ .error ⟨fullName, .compose (.statement method index inPredicate .emptyPredicate)⟩

/-- **Review and translation agree on references.** A loaded document without findings is translated
without an element that is declared twice, a wait for nothing, and an element that is not known but
`self` or `document` on its own; a malformed reference to a page object is refused. -/
theorem ofSource_resolves {source : Source} (hload : Document.load source = .ok d)
    (hreview : d.findings = []) : Resolves d (ofSource source name package) := by
  have hkept := Document.load_kept hload
  have hreviewed := Document.reviewed_of_findings hreview
  -- what is not composed is spared, or one of the two names
  have hspared : ∀ fullName e, ofSource source name package = .error ⟨fullName, .compose e⟩ →
      ComposeError.Spares (fun element =>
        (element = "self" ∨ element = "document") ∧ d.Names element) e := by
    intro fullName e h
    obtain ⟨-, ⟨e', -, hcause⟩ | ⟨page, e', hpage, hall, hcause⟩⟩ :=
      (ofSource_eq_error hload hreview).mp h
    · exact absurd hcause (by simp)
    · obtain rfl := DocumentError.compose.inj hcause
      exact composeAll_faults hkept hreviewed hpage e hall
  refine ⟨?_, ?_, ?_⟩
  · intro e
    rw [← @pageOf_eq_error d name package e hkept hreviewed]
    constructor
    · rintro ⟨fullName, h⟩
      obtain ⟨-, ⟨e', hpage, hcause⟩ | ⟨page, e', -, -, hcause⟩⟩ :=
        (ofSource_eq_error hload hreview).mp h
      · obtain rfl := DocumentError.page.inj hcause
        exact hpage
      · exact absurd hcause (by simp)
    · intro h
      exact ⟨_, (ofSource_eq_error hload hreview).mpr ⟨rfl, Or.inl ⟨e, h, rfl⟩⟩⟩
  · intro fullName e h
    have he := hspared fullName _ h
    cases e with
    | unknownElement element pageName known => exact ⟨element, pageName, known, rfl, he⟩
    | type error => exact absurd he id
    | duplicateElement element pageName => exact absurd he id
  · intro fullName method index inPredicate h
    exact absurd (hspared fullName _ h) id

/-- A page object whose element `menu` is another page object, by a reference of one part. -/
def menuSource : Source :=
  .value (.object [("elements", .list
    [.object [("name", .text "menu"), ("type", .text "menu"),
      ("selector", .object [("css", .text "a")])]])])

/-- A page object whose method `itself` is nothing but `self`. -/
def itselfSource : Source :=
  .value (.object [("methods", .list
    [.object [("name", .text "itself"), ("compose", .list [.object [("element", .text "self")]])]])])

theorem menuSource_resolves : ∃ d, Document.load menuSource = .ok d ∧ d.findings = [] ∧
    Resolves d (ofSource menuSource "Page" "") :=
  ⟨_, rfl, by decide, ofSource_resolves rfl (by decide)⟩

/-- **The review lets references pass that the translation refuses**: a malformed one to a page
object, and `self` on its own. -/
theorem reviewed_refused :
    (∃ d, Document.load menuSource = .ok d ∧ d.findings = [] ∧
      ofSource menuSource "Page" "" =
        .error ⟨"Page", .page (.type (.malformedReference "menu"))⟩) ∧
    ∃ d, Document.load itselfSource = .ok d ∧ d.findings = [] ∧
      ofSource itselfSource "Page" "" =
        .error ⟨"Page", .compose (.page (.unknownElement "self" "Page" ["root"]))⟩ :=
  ⟨⟨_, rfl, by decide, rfl⟩, ⟨_, rfl, by decide, rfl⟩⟩

end PageClass
end PageObjects
