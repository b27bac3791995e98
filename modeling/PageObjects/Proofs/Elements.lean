import Mathlib.Data.List.Perm.Basic
import PageObjects.Proofs.Association
import PageObjects.Proofs.Compose.Extension
import PageObjects.Proofs.Methods
import PageObjects.Proofs.References

/-!
# Elements do not bear on each other

The statements of a document look its elements up in one table, and the review checks them against one list
of names. What is generated for a document depends on neither the order of that table nor on elements that no
statement names: with its elements in another order, and with further elements among them, a document is
translated to the same methods, and every element keeps its getter. Elements are looked up in the Translation
Context (specification, 2).

* `Fields.get?_set`: a field that is set in an object.
* `Document.read_set_elements`: a document read with other elements.
* `Element.Declarable`: what an element needs to be declared, but for a name of its own.
* `PageClass.pageOf_extends`: the page with the other elements finds what the page finds.
* **`PageClass.ofSource_elements`**: a page class depends on no order of its elements, and methods on no
  elements that they do not name.
-/

namespace PageObjects

/-! ## Setting a field -/

namespace Fields

variable {fields : Fields} {name : String} {v : Json}

theorem get?_set {key : String} :
    (fields.set name v).get? key = if key = name then some v else fields.get? key := by
  have hany : fields.any (·.1 == name) = (fields.lookup name).isSome := by
    rw [Bool.eq_iff_iff, List.lookup_isSome_iff, List.any_eq_true]
    exact exists_congr fun entry => and_congr Iff.rfl (by rw [beq_iff_eq, beq_iff_eq, eq_comm])
  unfold set get?
  rw [hany]
  exact lookup_put fields name key v

theorem find?_set_of_ne {key : Key} (hcamel : key.camel ≠ name) (hsnake : key.snake ≠ name) :
    (fields.set name v).find? key = fields.find? key := by
  simp only [find?, get?_set, if_neg hcamel, if_neg hsnake]

theorem find?_set_plain : (fields.set name v).find? (.plain name) = some (name, v) := by
  simp [find?, get?_set, Key.plain]

theorem name_of_find?_plain {given : String × Json} (h : fields.find? (.plain name) = some given) :
    given.1 = name := by
  unfold find? Key.plain at h
  split at h
  · exact Option.some.inj h ▸ rfl
  · obtain ⟨v, -, rfl⟩ := Option.map_eq_some_iff.mp h
    rfl

theorem optional_set_of_ne {key : Key} {default : α} {read : Reader α} (hcamel : key.camel ≠ name)
    (hsnake : key.snake ≠ name) :
    (fields.set name v).optional key default read = fields.optional key default read := by
  simp only [optional, find?_set_of_ne hcamel hsnake]

theorem mem_set {field : String × Json} (h : field ∈ fields.set name v) :
    field.1 = name ∨ field ∈ fields := by
  unfold set at h
  split at h
  · obtain ⟨old, hold, rfl⟩ := List.mem_map.mp h
    split
    · exact Or.inl rfl
    · exact Or.inr hold
  · rcases List.mem_append.mp h with hold | hnew
    · exact Or.inr hold
    · exact Or.inl (by rw [List.mem_singleton.mp hnew])

theorem onlyKeys_eq_done {keys : List Key} {u : Unit} :
    fields.onlyKeys keys = .done u ↔ ∀ field ∈ fields, field.1 ∈ fields.taken keys := by
  have hstrangers : fields.strangers keys = [] ↔ ∀ field ∈ fields, field.1 ∈ fields.taken keys := by
    simp [strangers, List.filter_eq_nil_iff]
  unfold onlyKeys
  rw [← hstrangers]
  cases fields.strangers keys <;> simp

/-- A field that is set under one of the keys is not left over. -/
theorem onlyKeys_set {keys : List Key} {u : Unit} (hname : .plain name ∈ keys)
    (hkeys : ∀ key ∈ keys, key = .plain name ∨ key.camel ≠ name ∧ key.snake ≠ name)
    (h : fields.onlyKeys keys = .done u) : (fields.set name v).onlyKeys keys = .done u := by
  rw [onlyKeys_eq_done] at h ⊢
  intro field hfield
  by_cases hset : field.1 = name
  · exact List.mem_filterMap.mpr ⟨.plain name, hname, by rw [find?_set_plain, hset]; rfl⟩
  · have hold := (mem_set hfield).resolve_left hset
    obtain ⟨key, hkey, hfind⟩ := List.mem_filterMap.mp (h field hold)
    refine List.mem_filterMap.mpr ⟨key, hkey, ?_⟩
    rcases hkeys key hkey with rfl | ⟨hcamel, hsnake⟩
    · obtain ⟨given, hgiven, hgiven'⟩ := Option.map_eq_some_iff.mp hfind
      exact absurd (hgiven' ▸ name_of_find?_plain hgiven) hset
    · rw [find?_set_of_ne hcamel hsnake, hfind]

end Fields

/-! ## Reading other elements -/

/-- The values are read as the elements. -/
def ReadAs (items : List Json) (es : List Element) : Prop :=
  List.Forall₂ (fun v e => Element.read v = .done e) items es

theorem ReadAs.kept {items : List Json} {es : List Element} (h : ReadAs items es) :
    ∀ e ∈ es, e.check = .ok e := by
  intro e he
  obtain ⟨v, -, hv⟩ := exists_of_mem_forall₂ h e he
  exact Element.read_kept hv

theorem Document.ReadFrom.readAs {fields : Fields} {d : Document} {items : List Json}
    (hitems : (fields.get? "elements").getD (.list []) = .list items) (h : d.ReadFrom fields) :
    ReadAs items d.elements := by
  have helements := h.elements
  have hfind : fields.find? (.plain "elements") = (fields.get? "elements").map ("elements", ·) := by
    unfold Fields.find? Key.plain
    cases fields.get? "elements" <;> rfl
  unfold Fields.optional at helements
  rw [hfind] at helements
  cases hget : fields.get? "elements" with
  | none =>
    rw [hget] at hitems helements
    obtain rfl : [] = items := Json.list.inj hitems
    obtain hnone : [] = d.elements := Reading.done.inj helements
    rw [← hnone]
    exact .nil
  | some v =>
    rw [hget] at hitems helements
    obtain rfl : v = .list items := hitems
    obtain ⟨items', hitems', hread⟩ := readList_eq_done.mp (Reading.within_eq_done.mp helements)
    exact Json.list.inj hitems' ▸ hread

theorem Document.check_with_elements {d : Document} {es : List Element} (h : d.check = .ok d) :
    ({ d with elements := es } : Document).check = .ok { d with elements := es } := by
  unfold check at h ⊢
  dsimp only
  cases hroot : d.isRoot <;> cases hselector : d.selector <;> rw [hroot, hselector] at h <;>
    first | rfl | exact absurd h (by simp)

/-- **A document with other elements** is read with them, and else in the same way. -/
theorem Document.read_set_elements {fields : Fields} {d : Document} {items : List Json}
    {es : List Element} (hread : ReadAs items es) (h : Document.read (.object fields) = .done d) :
    Document.read (.object (fields.set "elements" (.list items))) = .done { d with elements := es } := by
  obtain ⟨fields', hfields', hfrom, hcheck⟩ := read_eq_done.mp h
  obtain rfl := Json.object.inj hfields'
  refine read_eq_done.mpr ⟨_, rfl, ?_, check_with_elements hcheck⟩
  exact {
    description := by rw [Fields.optional_set_of_ne (by decide) (by decide)]; exact hfrom.description
    isRoot := by rw [Fields.optional_set_of_ne (by decide) (by decide)]; exact hfrom.isRoot
    selector := by rw [Fields.optional_set_of_ne (by decide) (by decide)]; exact hfrom.selector
    interfaces := by rw [Fields.optional_set_of_ne (by decide) (by decide)]; exact hfrom.interfaces
    exposeRootElement := by
      rw [Fields.optional_set_of_ne (by decide) (by decide)]
      exact hfrom.exposeRootElement
    elements := by
      rw [Fields.optional, Fields.find?_set_plain]
      exact Reading.within_eq_done.mpr (readList_eq_done.mpr ⟨items, rfl, hread⟩)
    beforeLoad := by rw [Fields.optional_set_of_ne (by decide) (by decide)]; exact hfrom.beforeLoad
    methods := by rw [Fields.optional_set_of_ne (by decide) (by decide)]; exact hfrom.methods
    keys := Fields.onlyKeys_set (by decide) (by decide) hfrom.keys }

/-! ## Declaring other elements -/

/-- The element is accepted by the review, and refers to a page object if to any. -/
structure Element.Declarable (e : Element) : Prop extends e.Accepted where
  reference : ∀ reference ∈ e.kind.reference?, ResultType.IsReference reference

theorem Element.Declarable.malformedReference? {e : Element} (h : e.Declarable) :
    e.malformedReference? = none := by
  unfold Element.malformedReference?
  rw [Option.filter_eq_none_iff]
  intro reference hreference
  simpa using h.reference reference hreference

/-- The elements of a document become those of a page, in order. -/
def DeclaredAs (es : List Element) (elements : List PageElement) : Prop :=
  List.Forall₂ (fun e element => PageElement.ofDeclaration e = .ok element) es elements

theorem DeclaredAs.names {es : List Element} {elements : List PageElement} (h : DeclaredAs es elements) :
    elements.map PageElement.name = es.map Element.name := by
  induction h with
  | nil => rfl
  | cons hfirst hrest ih => rw [List.map_cons, List.map_cons, ih, PageElement.ofDeclaration_named_as hfirst]

/-- Elements that are declared in another order, and among others, become the same. -/
theorem DeclaredAs.of_perm {es es' more : List Element} {elements elements' : List PageElement}
    (h : DeclaredAs es elements) (h' : DeclaredAs es' elements') (hperm : es'.Perm (es ++ more)) :
    ∃ added, DeclaredAs more added ∧ elements'.Perm (elements ++ added) := by
  obtain ⟨all, hall, hpermAll⟩ := List.perm_comp_forall₂ hperm.symm h'
  -- what the two parts become, by the length of the first
  have hfirst := (List.forall₂_take_append all es more hall.flip).flip
  have hmore := (List.forall₂_drop_append all es more hall.flip).flip
  have hunique : Relator.RightUnique
      (fun (e : Element) (element : PageElement) => PageElement.ofDeclaration e = .ok element) :=
    fun {e element element'} he he' => Except.ok.inj (he.symm.trans he')
  obtain rfl : all.take es.length = elements := List.right_unique_forall₂' hunique hfirst h
  refine ⟨all.drop es.length, hmore, ?_⟩
  rw [List.take_append_drop]
  exact hpermAll.symm

theorem Page.declareAll_declaredAs : ∀ {es : List Element} {p p' : Page}, p.declareAll es = .ok p' →
    ∃ elements, DeclaredAs es elements ∧ p' = { p with elements := p.elements ++ elements }
  | [], p, p', h => by
    obtain rfl := pure_eq_ok.mp h
    exact ⟨[], .nil, by simp⟩
  | e :: rest, p, p', h => by
    unfold declareAll at h
    rw [List.foldlM_cons, bind_eq_ok] at h
    obtain ⟨next, hnext, h⟩ := h
    obtain ⟨element, helement, hadd⟩ := declare_eq_ok hnext
    obtain ⟨-, rfl⟩ := add_eq_ok hadd
    obtain ⟨elements, hdeclared, rfl⟩ := declareAll_declaredAs h
    exact ⟨element :: elements, .cons helement hdeclared, by simp⟩

/-- In a page without two elements of one name, an element is found by its name. -/
theorem Page.find?_of_mem {p : Page} {element : PageElement} (hnodup : p.names.Nodup)
    (h : element ∈ p.elements) : p.find? element.name = some element :=
  (find?_key_eq_some_iff hnodup).mpr ⟨h, rfl⟩

namespace PageClass

variable {d : Document} {name package : String} {page : Page}

theorem pageOf_declaredAs (h : pageOf d name package = .ok page) : ∃ elements,
    DeclaredAs d.elements elements ∧
      page = { name, package, elements := .root d.interfaces d.exposeRootElement :: elements } := by
  simp only [pageOf, bind_eq_ok] at h
  obtain ⟨rooted, hroot, h⟩ := h
  obtain ⟨-, rfl⟩ := Page.add_eq_ok hroot
  obtain ⟨elements, hdeclared, rfl⟩ := Page.declareAll_declaredAs h
  exact ⟨elements, hdeclared, rfl⟩

/-- The names of a page are different. -/
theorem pageOf_nodup (hkept : d.Kept) (hreviewed : d.Reviewed) (h : pageOf d name package = .ok page) :
    page.names.Nodup := by
  rw [pageOf_names h, List.nodup_cons]
  refine ⟨?_, hreviewed.elements⟩
  intro hroot
  obtain ⟨e, he, hname⟩ := List.mem_map.mp hroot
  exact Element.not_reserved (hkept.elements e he) (by rw [hname]; decide)

/-- The page of a document is made if its references are references. -/
theorem exists_pageOf (hkept : d.Kept) (hreviewed : d.Reviewed)
    (hreferences : ∀ e ∈ d.elements, e.malformedReference? = none) :
    ∃ page, pageOf d name package = .ok page := by
  cases hpage : pageOf d name package with
  | ok page => exact ⟨page, rfl⟩
  | error e =>
    obtain ⟨reference, hreference, -⟩ := (pageOf_eq_error hkept hreviewed).mp hpage
    obtain ⟨e, he, hmalformed⟩ := List.exists_of_findSome?_eq_some hreference
    exact absurd (hreferences e he ▸ hmalformed) (by simp)

/-- **With other elements** among its own, in any order, a document is accepted, and its page finds what the
page of the document finds. -/
theorem extended_with_elements {es more : List Element} (hkept : d.Kept) (haccepted : d.Accepted)
    (hpage : pageOf d name package = .ok page) (hperm : es.Perm (d.elements ++ more))
    (hchecked : ∀ e ∈ more, e.check = .ok e) (hdeclarable : ∀ e ∈ more, e.Declarable)
    (hnames : (more.map Element.name).Nodup)
    (hfresh : ∀ e ∈ more, e.name ∉ d.elements.map Element.name) :
    ({ d with elements := es } : Document).Accepted ∧ ∃ page' added,
      pageOf { d with elements := es } name package = .ok page' ∧ page.Extends page' ∧
      page'.elements.Perm (page.elements ++ added) ∧
      added.map PageElement.name = more.map Element.name ∧
      page'.elements.map PageElement.name = "root" :: es.map Element.name := by
  have hmem : ∀ {e}, e ∈ es ↔ e ∈ d.elements ∨ e ∈ more := by
    intro e
    rw [hperm.mem_iff, List.mem_append]
  have hnodup : (es.map Element.name).Nodup := by
    rw [(hperm.map Element.name).nodup_iff, List.map_append, List.nodup_append]
    refine ⟨haccepted.elements, hnames, ?_⟩
    rintro n hn _ hn' rfl
    obtain ⟨e, he, rfl⟩ := List.mem_map.mp hn'
    exact hfresh e he hn
  have haccepted' : ({ d with elements := es } : Document).Accepted := {
    elements := hnodup
    statements := fun s hs => (haccepted.statements s hs).mono fun n hn => by
      obtain ⟨e, he, rfl⟩ := List.mem_map.mp hn
      exact List.mem_map_of_mem (hmem.mpr (Or.inl he))
    interfaces := haccepted.interfaces
    selector := haccepted.selector
    accepted := fun e he => (hmem.mp he).elim (haccepted.accepted e) fun he =>
      (hdeclarable e he).toAccepted
    methods := haccepted.methods
    unreserved := haccepted.unreserved
    early := haccepted.early }
  have hkept' : ({ d with elements := es } : Document).Kept := {
    elements := fun e he => (hmem.mp he).elim (hkept.elements e) (hchecked e)
    beforeLoad := hkept.beforeLoad
    methods := hkept.methods }
  obtain ⟨elements, hdeclared, rfl⟩ := pageOf_declaredAs hpage
  have hreferences : ∀ e ∈ es, e.malformedReference? = none := by
    intro e he
    rcases hmem.mp he with he | he
    · obtain ⟨element, -, helement⟩ := exists_of_mem_forall₂ hdeclared.flip e he
      exact PageElement.malformedReference?_of_ok helement
    · exact (hdeclarable e he).malformedReference?
  obtain ⟨page', hpage'⟩ := exists_pageOf hkept' haccepted'.toReviewed hreferences
  have hnames' := pageOf_names hpage'
  have hnodup' := pageOf_nodup hkept' haccepted'.toReviewed hpage'
  obtain ⟨elements', hdeclared', rfl⟩ := pageOf_declaredAs hpage'
  obtain ⟨added, hadded, hpermed⟩ := hdeclared.of_perm hdeclared' hperm
  refine ⟨haccepted', _, added, hpage', ⟨rfl, ?_⟩, hpermed.cons _, hadded.names, hnames'⟩
  intro n element hfind
  rw [← Page.name_of_find? hfind]
  refine Page.find?_of_mem hnodup' ?_
  rcases List.mem_cons.mp (List.mem_of_find?_eq_some hfind) with rfl | hold
  · exact List.mem_cons_self
  · exact List.mem_cons_of_mem _ (hpermed.mem_iff.mpr (List.mem_append_left _ hold))

/-- The methods that are composed on a page are composed on one that extends it. -/
theorem composeAll_extends {page' : Page} {es : List Element} (h : page.Extends page') :
    Persists (composeAll page d) (composeAll page' { d with elements := es }) := by
  have hresolve : ∀ keyword? all, page'.resolve keyword? all = page.resolve keyword? all := by
    intro keyword? all
    simp only [Page.resolve, Page.ownType, h.name]
  refine (Persists.mapM fun m hm => ?_).bind fun methods => Persists.bind ?_ fun _ => .refl _
  · unfold composeMethod frameOf
    rw [hresolve]
    cases page.resolve m.returnType m.returnAll with
    | error e => exact .error
    | ok methodReturn =>
      have hcompose : Persists (compose { page, method := m.name, methodReturn } m.compose)
          (compose { page := page', method := m.name, methodReturn } m.compose) := compose_onto h
      exact hcompose.bind fun _ => .refl _
  · unfold composeBeforeLoad
    split
    · exact .refl _
    · have hcompose : Persists (compose (beforeLoadFrame page) d.beforeLoad)
          (compose (beforeLoadFrame page') d.beforeLoad) := compose_onto h
      exact hcompose.map

/-- **Elements do not bear on each other.** A document that translates does so with its elements in another
order, and with further ones among them that can be declared under names of their own. The methods and the
rest of the page class stay the same, and so do the getters of its elements; the getters stand in the order of
the declarations. -/
theorem ofSource_elements {source source' : Source} {fields : Fields} {items items' more : List Json}
    {es : List Element} {pc : PageClass} (hsource : source.Decodes (.object fields))
    (hitems : (fields.get? "elements").getD (.list []) = .list items)
    (hsource' : source'.Decodes (.object (fields.set "elements" (.list items'))))
    (hperm : items'.Perm (items ++ more)) (hmore : ReadAs more es) (hdeclarable : ∀ e ∈ es, e.Declarable)
    (hnames : (es.map Element.name).Nodup)
    (hfresh : ∀ e ∈ es, e.name ∉ pc.elements.map Getter.elementName)
    (h : ofSource source name package = .ok pc) :
    ∃ getters added es', ofSource source' name package = .ok { pc with elements := getters } ∧
      getters.Perm (pc.elements ++ added) ∧ added.map Getter.elementName = es.map Element.name ∧
      ReadAs items' es' ∧ getters.map Getter.elementName = "root" :: es'.map Element.name := by
  obtain ⟨d, page, methods, beforeLoad, hload, hreview, hpage, hall, rfl⟩ := ofSource_eq_ok_iff.mp h
  have hread := Document.ofValue_eq_ok.mp (hsource.load.symm.trans hload)
  obtain ⟨fields', hfields', hfrom, -⟩ := Document.read_eq_done.mp hread
  obtain rfl := Json.object.inj hfields'
  obtain ⟨es', hread', hpermed⟩ :=
    List.perm_comp_forall₂ hperm (List.rel_append (hfrom.readAs hitems) hmore)
  -- a getter has the name of its element
  have hgetters : ∀ elements : List PageElement,
      (elements.map Getter.ofElement).map Getter.elementName = elements.map PageElement.name := by
    intro elements
    rw [List.map_map]
    rfl
  have hfresh' : ∀ e ∈ es, e.name ∉ d.elements.map Element.name := by
    intro e he hdeclared
    refine hfresh e he ?_
    have hknown : e.name ∈ page.names := pageOf_names hpage ▸ List.mem_cons_of_mem _ hdeclared
    rw [assemble, hgetters]
    exact hknown
  obtain ⟨haccepted', page', added, hpage', hextends, hpermAdded, hadded, hnames'⟩ :=
    extended_with_elements (Document.load_kept hload) (Document.findings_eq_nil.mp hreview) hpage hpermed
      hmore.kept hdeclarable hnames hfresh'
  have hload' : Document.load source' = .ok { d with elements := es' } := by
    rw [hsource'.load, Document.ofValue_eq_ok]
    exact Document.read_set_elements hread' hread
  refine ⟨page'.elements.map Getter.ofElement, added.map Getter.ofElement, es', ?_, ?_, ?_, hread', ?_⟩
  · refine ofSource_eq_ok_iff.mpr ⟨_, page', methods, beforeLoad, hload',
      Document.findings_eq_nil.mpr haccepted', hpage', composeAll_extends hextends _ hall, ?_⟩
    obtain ⟨hname, hpackage⟩ := pageOf_named hpage
    obtain ⟨hname', hpackage'⟩ := pageOf_named hpage'
    rw [assemble, assemble, hname, hpackage, hname', hpackage']
  · rw [assemble, ← List.map_append]
    exact hpermAdded.map _
  · rw [hgetters, hadded]
  · rw [hgetters, hnames']

/-- The fields of a page object with the given elements, and a method that clicks its links. -/
def linksFields (items : List Json) : Fields :=
  [("elements", .list items), ("methods", .list [.object [("name", .text "clickAll"),
    ("compose", .list [.object [("element", .text "links"), ("apply", .text "click")]])]])]

/-- A list of links. -/
def linksItem : Json :=
  .object [("name", .text "links"), ("type", .list [.text "clickable"]),
    ("selector", .object [("css", .text "a"), ("returnAll", .bool true)])]

/-- An element that is another page object. -/
def menuItem : Json :=
  .object [("name", .text "menu"), ("type", .text "my-app/pageObjects/menu"),
    ("selector", .object [("css", .text "nav")])]

/-- The menu stands in front of the links, and the method clicks them in the same way. -/
theorem linksFields_elements : ∃ pc getters added es',
    ofSource (.value (.object (linksFields [linksItem]))) "Page" "" = .ok pc ∧
    ofSource (.value (.object (linksFields [menuItem, linksItem]))) "Page" "" =
      .ok { pc with elements := getters } ∧
    getters.Perm (pc.elements ++ added) ∧ added.map Getter.elementName = ["menu"] ∧
    ReadAs [menuItem, linksItem] es' ∧ getters.map Getter.elementName = "root" :: es'.map Element.name := by
  have hok : (ofSource (.value (.object (linksFields [linksItem]))) "Page" "").toOption.any
      (fun pc => pc.elements.map Getter.elementName == ["root", "links"]) = true := by decide
  obtain ⟨pc, hpc, hknown⟩ := exists_eq_ok hok
  let menu : Element :=
    { name := "menu", kind := .pageObject "my-app/pageObjects/menu", selector := { css := some "nav" } }
  have hmenu : menu.Declarable :=
    { interfaces := by simp [menu, ElementKind.reference?], selector := by decide,
      reference := by simp only [menu, ElementKind.reference?]; decide }
  obtain ⟨getters, added, es', h⟩ := @ofSource_elements "Page" "" (.value (.object (linksFields [linksItem])))
    (.value (.object (linksFields [menuItem, linksItem]))) (linksFields [linksItem]) [linksItem]
    [menuItem, linksItem] [menuItem] [menu] pc (.value _) rfl (.value _) (.swap _ _ _) (.cons rfl .nil)
    (by simpa using hmenu) (by simp) (by simp [beq_iff_eq.mp hknown, menu]) hpc
  exact ⟨pc, getters, added, es', hpc, h⟩

end PageClass

end PageObjects
