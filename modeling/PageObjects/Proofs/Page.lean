import PageObjects.Page
import PageObjects.Proofs.Except
import PageObjects.Proofs.Text.Name

/-!
# Pages as they are made

A page starts empty and takes its root and declared elements one at a time. Names are checked when a
declaration is read, so a page that is made in this way holds only identifiers.

* `Page.Made`: the pages that are made by adding elements.
* `PageElement.ofDeclaration_declares`: what an element is declared as.
* `Page.Made.isIdentifier_name`: every element of a made page has an identifier as its name.
* `ResultType.IsReference`: the texts that name a page object.
-/

namespace PageObjects

/-- A made page: elements are added to an empty one. -/
inductive Page.Made : Page → Prop
  | empty (name package : String) : Made { name, package }
  | root {p p' : Page} {interfaces : List String} {isPublic : Bool} (hmade : Made p)
      (hadd : p.add (.root interfaces isPublic) = .ok p') : Made p'
  | declare {p p' : Page} {e : Element} (hmade : Made p) (hchecked : e.check = .ok e)
      (hdeclare : p.declare e = .ok p') : Made p'

/-! ## References -/

namespace ResultType

/-- A reference to a page object: at least a module and a name, none of its parts empty. -/
def IsReference (text : String) : Prop := 2 ≤ (parts '/' text).length ∧ "" ∉ parts '/' text

instance (text : String) : Decidable (IsReference text) :=
  inferInstanceAs (Decidable (2 ≤ (parts '/' text).length ∧ "" ∉ parts '/' text))

/-- A text that is no reference is refused as one. -/
theorem ofReference_eq_error {text : String} {e : TypeError} :
    ofReference text = .error e ↔ ¬ IsReference text ∧ e = .malformedReference text := by
  unfold ofReference IsReference
  split
  · rename_i first second rest hparts
    have hempty : (first :: second :: rest).any String.isEmpty = true ↔
        "" ∈ first :: second :: rest := by
      simp only [List.any_eq_true, String.isEmpty_iff, exists_eq_right]
    dsimp only
    rw [hparts]
    by_cases hmem : "" ∈ first :: second :: rest
    · rw [if_pos (hempty.mpr hmem)]
      simp [hmem, eq_comm]
    · rw [if_neg (mt hempty.mp hmem)]
      simp [hmem]
  · rename_i hparts
    have hshort : ¬ 2 ≤ (parts '/' text).length := by
      intro hlength
      match h : parts '/' text with
      | [] | [_] => simp [h] at hlength
      | first :: second :: rest => exact hparts first second rest h
    simp [hshort, eq_comm]

end ResultType

/-! ## Elements -/

theorem Element.isIdentifier_of_check {e : Element} (h : e.check = .ok e) :
    Text.isIdentifier e.name = true := by
  unfold Element.check at h
  split at h
  · exact absurd h (by simp)
  · rename_i hname
    simpa using hname

/-- What an element is declared as: of the page object that it refers to, or of an interface that is
named after it. -/
inductive PageElement.Declares (e : Element) : PageElement → Prop
  | pageObject {reference : String} {type : NamedType} (hkind : e.kind = .pageObject reference)
      (htype : ResultType.ofReference reference = .ok type) :
      Declares e { name := e.name, type, getter := "get" ++ Text.capitalize e.name,
                   isList := e.selector.returnAll, isPublic := e.isPublic,
                   selector := some e.selector, capitalized := ResultType.ofReference_capitalized htype }
  | basic (hkind : ∀ reference, e.kind ≠ .pageObject reference) :
      Declares e { name := e.name, type := ResultType.ofElement e.name e.kind.interfaces,
                   getter := "get" ++ Text.capitalize e.name ++ "Element",
                   isList := e.selector.returnAll, isPublic := e.isPublic,
                   selector := some e.selector, capitalized := ResultType.ofElement_capitalized }

theorem PageElement.ofDeclaration_declares {e : Element} {element : PageElement}
    (h : PageElement.ofDeclaration e = .ok element) : PageElement.Declares e element := by
  unfold PageElement.ofDeclaration at h
  split at h
  · rename_i reference hkind
    split at h
    · exact absurd h (by simp)
    · rename_i type htype
      exact Except.ok.inj h ▸ .pageObject hkind htype
  · rename_i hkind
    exact Except.ok.inj h ▸ .basic hkind

/-- An element with a malformed reference is not declared. -/
theorem PageElement.ofDeclaration_of_error {e : Element} {reference : String} {error : TypeError}
    (hkind : e.kind = .pageObject reference) (htype : ResultType.ofReference reference = .error error) :
    PageElement.ofDeclaration e = .error error := by
  unfold PageElement.ofDeclaration
  rw [hkind]
  dsimp only
  split
  · rename_i error' htype'
    rw [Except.error.inj (htype'.symm.trans htype)]
  · rename_i type htype'
    exact absurd (htype'.symm.trans htype) (by simp)

theorem PageElement.ofDeclaration_named_as {e : Element} {element : PageElement}
    (h : PageElement.ofDeclaration e = .ok element) : element.name = e.name := by
  cases PageElement.ofDeclaration_declares h <;> rfl

/-- The name of a declared element was checked. -/
theorem PageElement.ofDeclaration_isIdentifier {e : Element} {element : PageElement}
    (hchecked : e.check = .ok e) (h : PageElement.ofDeclaration e = .ok element) :
    Text.isIdentifier element.name = true := by
  rw [PageElement.ofDeclaration_named_as h]
  exact Element.isIdentifier_of_check hchecked

theorem Page.add_eq_ok {p p' : Page} {element : PageElement} (h : p.add element = .ok p') :
    p.find? element.name = none ∧ p' = { p with elements := p.elements ++ [element] } := by
  unfold Page.add at h
  split at h
  · exact absurd h (by simp)
  · rename_i hfree
    exact ⟨by simpa using hfree, (Except.ok.inj h).symm⟩

theorem Page.declare_eq_ok {p p' : Page} {e : Element} (h : p.declare e = .ok p') :
    ∃ element, PageElement.ofDeclaration e = .ok element ∧ p.add element = .ok p' := by
  unfold Page.declare at h
  split at h
  · rename_i element helement
    exact ⟨element, helement, h⟩
  · exact absurd h (by simp)

/-- What holds of the root and of every element that is declared holds of the elements of a made page. -/
theorem Page.Made.forall_mem {P : PageElement → Prop} {p : Page} (h : p.Made)
    (hroot : ∀ interfaces isPublic, P (.root interfaces isPublic))
    (hdeclared : ∀ e element, e.check = .ok e → PageElement.ofDeclaration e = .ok element → P element) :
    ∀ element ∈ p.elements, P element := by
  induction h with
  | empty name package => intro element helement; exact absurd helement (by simp)
  | root hmade hadd ih =>
    obtain ⟨-, rfl⟩ := Page.add_eq_ok hadd
    intro element helement
    rcases List.mem_append.mp helement with hold | hnew
    · exact ih element hold
    · obtain rfl := List.mem_singleton.mp hnew
      exact hroot _ _
  | declare hmade hchecked hdeclare ih =>
    obtain ⟨new, hdeclaration, hadd⟩ := Page.declare_eq_ok hdeclare
    obtain ⟨-, rfl⟩ := Page.add_eq_ok hadd
    intro element helement
    rcases List.mem_append.mp helement with hold | hnew
    · exact ih element hold
    · obtain rfl := List.mem_singleton.mp hnew
      exact hdeclared _ _ hchecked hdeclaration

/-- **The elements of a made page** have identifiers as names. -/
theorem Page.Made.isIdentifier_name {p : Page} (h : p.Made) :
    ∀ element ∈ p.elements, Text.isIdentifier element.name = true :=
  h.forall_mem (fun _ _ => (by decide : Text.isIdentifier PageElement.rootName = true))
    fun _ _ => PageElement.ofDeclaration_isIdentifier

theorem Page.name_of_find? {p : Page} {name : String} {element : PageElement}
    (h : p.find? name = some element) : element.name = name := by
  simpa using List.find?_some h

end PageObjects
