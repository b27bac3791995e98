import PageObjects.Proofs.References

/-!
# Well-formed documents

What the review asks of a document, without its walk: no lists of findings, no names seen so far, no paths.
Each condition speaks of all interfaces, selectors, names or statements at once, and of statements at every
depth. The review walks the predicates of statements twice, once for the elements they name and once for
what is there before loading; neither walk passes over a statement. This is about the Page Object Validator
(specification, 2).

* `Selector.Passes`: the selectors that the check of their dialect accepts.
* `Statement.forall_holds_iff`: what is asked of a statement and, again, of those in its predicate, is asked
  of all statements that it holds.
* `Document.WellFormed`: the conditions.
* **`Document.review_accepts`**: a loaded document has no findings exactly when it is well formed.
-/

namespace PageObjects

/-! ## Interfaces and selectors -/

theorem Action.checkInterfaces_eq_ok {interfaces : List String} {element : String} :
    checkInterfaces interfaces element = .ok () ↔ ∀ i ∈ interfaces, i ∈ supportedInterfaces := by
  have hnone : interfaces.find? (fun i => !supportedInterfaces.contains i) = none ↔
      ∀ i ∈ interfaces, i ∈ supportedInterfaces := by
    simp [List.find?_eq_none]
  rw [← hnone, checkInterfaces]
  cases interfaces.find? fun i => !supportedInterfaces.contains i <;> simp

/-- The check of the selector's dialect accepts its text: a UiAutomator selector is supported, any other is
not blank. -/
def Selector.Passes (s : Selector) : Prop :=
  match s.dialect with
  | .uiautomator => UiAutomator.check s.value = .ok ()
  | _ => ∃ c ∈ s.value.toList, Text.isBlank c = false

theorem Selector.checkText_eq_ok {s : Selector} : s.checkText = .ok () ↔ s.Passes := by
  unfold checkText Passes
  cases s.dialect with
  | uiautomator => cases UiAutomator.check s.value <;> simp
  | _ =>
    have hblank : (s.value.toList.all Text.isBlank = false) ↔
        ∃ c ∈ s.value.toList, Text.isBlank c = false := by
      simp [List.all_eq_false]
    rw [← hblank]
    cases s.value.toList.all Text.isBlank <;> simp

/-! ## Statements at every depth -/

namespace Statement

mutual

/-- What holds of a statement when it holds of those in its predicate holds of every statement. -/
theorem inner_induction {P : Statement → Prop} (hinner : ∀ s, (∀ s' ∈ s.inner, P s') → P s) :
    ∀ s, P s
  | ⟨element, action, args, keyword, all, chain, matcher, none⟩ => hinner _ (by simp [inner])
  | ⟨element, action, args, keyword, all, chain, matcher, some ss⟩ => hinner _ (inner_induction_list hinner ss)

theorem inner_induction_list {P : Statement → Prop} (hinner : ∀ s, (∀ s' ∈ s.inner, P s') → P s) :
    ∀ ss : List Statement, ∀ s ∈ ss, P s
  | [] => by simp
  | first :: rest =>
    List.forall_mem_cons.mpr ⟨inner_induction hinner first, inner_induction_list hinner rest⟩

end

/-- What is asked of a statement, and again of those in its predicate, is asked of all that it holds. -/
theorem forall_holds_iff {P Q : Statement → Prop} (hiff : ∀ s, Q s ↔ P s ∧ ∀ s' ∈ s.inner, Q s')
    (s : Statement) : Q s ↔ ∀ s', s.Holds s' → P s' := by
  constructor
  · intro hs s' hholds
    induction hholds with
    | itself s => exact ((hiff s).mp hs).1
    | inner hs' hholds ih => exact ih (((hiff _).mp hs).2 _ hs')
  · refine inner_induction (P := fun s => (∀ s', s.Holds s' → P s') → Q s) ?_ s
    intro s ih hs
    exact (hiff s).mpr ⟨hs s (.itself s), fun s' hs' => ih s' hs' fun s'' h => hs s'' (.inner hs' h)⟩

variable {declared : List String} {s : Statement}

theorem refersTo_iff {element : Option String} : refersTo declared element = true ↔
    ∀ name ∈ element, name ∈ reservedElements ∨ name ∈ declared := by
  cases element <;> simp [refersTo]

theorem reviewed_iff_holds : s.Reviewed declared ↔ ∀ s', s.Holds s' →
    (∀ name ∈ s'.element, name ∈ reservedElements ∨ name ∈ declared) ∧
      (s'.isWait = true → s'.inner ≠ []) := by
  refine forall_holds_iff (fun s => ?_) s
  rw [reviewed_iff, refersTo_iff, and_assoc]

/-- The arguments that a statement gives, those of its matcher among them. -/
def givenArguments (s : Statement) : List Argument := s.args ++ (s.matcher.map Matcher.args).getD []

theorem early_iff_holds : s.Early ↔ ∀ s', s.Holds s' →
    (∀ name ∈ s'.element, name ∈ reservedElements) ∧ ∀ a ∈ s'.givenArguments, a.isLiteral = true := by
  refine forall_holds_iff (fun s => ?_) s
  rw [early_iff, refersTo_iff, usesLiterals, List.all_eq_true, and_assoc]
  simp [givenArguments]

theorem waits_for_some : (s.isWait = true → s.inner ≠ []) ↔
    (s.action = some waitAction → ∃ first rest, s.predicate = some (first :: rest)) := by
  have hinner : s.inner ≠ [] ↔ ∃ first rest, s.predicate = some (first :: rest) := by
    unfold inner
    rcases s.predicate with _ | _ | ⟨first, rest⟩ <;> simp
  rw [hinner, isWait, beq_iff_eq]

end Statement

/-! ## Documents -/

/-- The statement runs before loading, or stands in a predicate of one that does. -/
def Document.HoldsBeforeLoad (d : Document) (s : Statement) : Prop :=
  ∃ top ∈ d.beforeLoad, top.Holds s

/-- The conditions on a document that the shapes of its parts do not bring with them. -/
structure Document.WellFormed (d : Document) : Prop where
  interfaces : ∀ i ∈ d.interfaces, i ∈ Action.supportedInterfaces
  selector : ∀ s ∈ d.selector, s.Passes
  elements : (d.elements.map Element.name).Nodup
  elementInterfaces : ∀ e ∈ d.elements, e.kind.reference? = none →
    ∀ i ∈ e.kind.interfaces, i ∈ Action.supportedInterfaces
  elementSelectors : ∀ e ∈ d.elements, e.selector.Passes
  methods : (d.methods.map Method.name).Nodup
  unreserved : d.beforeLoad ≠ [] → "load" ∉ d.methods.map Method.name
  references : ∀ s, d.Holds s → ∀ name ∈ s.element,
    name ∈ reservedElements ∨ name ∈ d.elements.map Element.name
  predicates : ∀ s, d.Holds s → s.action = some Statement.waitAction →
    ∃ first rest, s.predicate = some (first :: rest)
  early : ∀ s, d.HoldsBeforeLoad s → ∀ name ∈ s.element, name ∉ d.elements.map Element.name
  literals : ∀ s, d.HoldsBeforeLoad s → ∀ a ∈ s.givenArguments, a.isLiteral = true

namespace Document

variable {d : Document}

theorem Holds.of_beforeLoad {s : Statement} (h : d.HoldsBeforeLoad s) : d.Holds s := by
  obtain ⟨top, htop, hholds⟩ := h
  exact ⟨top, Or.inl htop, hholds⟩

theorem Accepted.wellFormed (hkept : d.Kept) (h : d.Accepted) : d.WellFormed := by
  have hreviewed : ∀ s, d.Holds s →
      (∀ name ∈ s.element, name ∈ reservedElements ∨ name ∈ d.elements.map Element.name) ∧
        (s.isWait = true → s.inner ≠ []) := by
    rintro s ⟨top, htop, hholds⟩
    exact Statement.reviewed_iff_holds.mp (h.statements top htop) s hholds
  have hearly : ∀ s, d.HoldsBeforeLoad s →
      (∀ name ∈ s.element, name ∈ reservedElements) ∧
        ∀ a ∈ s.givenArguments, a.isLiteral = true := by
    rintro s ⟨top, htop, hholds⟩
    exact Statement.early_iff_holds.mp (h.early top htop) s hholds
  exact {
    interfaces := Action.checkInterfaces_eq_ok.mp h.interfaces
    selector := fun s hs => Selector.checkText_eq_ok.mp (h.selector s hs)
    elements := h.elements
    elementInterfaces := fun e he hbasic =>
      Action.checkInterfaces_eq_ok.mp ((h.accepted e he).interfaces hbasic)
    elementSelectors := fun e he => Selector.checkText_eq_ok.mp (h.accepted e he).selector
    methods := h.methods
    unreserved := by
      intro hne hload
      obtain ⟨m, hm, hname⟩ := List.mem_map.mp hload
      exact h.unreserved hne m hm hname
    references := fun s hs => (hreviewed s hs).1
    predicates := fun s hs => Statement.waits_for_some.mp (hreviewed s hs).2
    early := by
      -- an element has none of the reserved names
      intro s hs name hname hdeclared
      obtain ⟨e, he, rfl⟩ := List.mem_map.mp hdeclared
      exact Element.not_reserved (hkept.elements e he) ((hearly s hs).1 _ hname)
    literals := fun s hs => (hearly s hs).2 }

theorem WellFormed.accepted (h : d.WellFormed) : d.Accepted where
  elements := h.elements
  statements := fun top htop => Statement.reviewed_iff_holds.mpr fun s hholds =>
    have hs : d.Holds s := ⟨top, htop, hholds⟩
    ⟨h.references s hs, Statement.waits_for_some.mpr (h.predicates s hs)⟩
  interfaces := Action.checkInterfaces_eq_ok.mpr h.interfaces
  selector := fun s hs => Selector.checkText_eq_ok.mpr (h.selector s hs)
  accepted := fun e he =>
    { interfaces := fun hbasic => Action.checkInterfaces_eq_ok.mpr (h.elementInterfaces e he hbasic)
      selector := Selector.checkText_eq_ok.mpr (h.elementSelectors e he) }
  methods := h.methods
  unreserved := fun hne _ hm hname => h.unreserved hne (hname ▸ List.mem_map_of_mem hm)
  early := fun top htop => Statement.early_iff_holds.mpr fun s hholds =>
    have hs : d.HoldsBeforeLoad s := ⟨top, htop, hholds⟩
    ⟨fun name hname => (h.references s (.of_beforeLoad hs) name hname).resolve_right
      (h.early s hs name hname), h.literals s hs⟩

/-- **The review accepts exactly the well-formed documents.** -/
theorem review_accepts {source : Source} (hload : load source = .ok d) :
    d.findings = [] ↔ d.WellFormed :=
  findings_eq_nil.trans ⟨Accepted.wellFormed (load_kept hload), WellFormed.accepted⟩

/-- A page object that waits for its page before it counts as loaded, with a link that a method clicks. -/
def homeFields : Fields :=
  [("type", .list [.text "actionable"]),
    ("elements", .list [.object [("name", .text "link"), ("type", .list [.text "clickable"]),
      ("selector", .object [("uiautomator", .text "new UiSelector().text(\"Go\")")])]]),
    ("beforeLoad", .list [.object [("apply", .text "waitFor"), ("predicate", .list
      [.object [("element", .text "document"), ("apply", .text "getUrl"),
        ("matcher", .object [("type", .text "stringContains"),
          ("args", .list [.object [("value", .text "home")]])])]])]]),
    ("methods", .list [.object [("name", .text "go"),
      ("compose", .list [.object [("element", .text "link"), ("apply", .text "click")]])]])]

theorem homeFields_accepted : ∃ d, load (.value (.object homeFields)) = .ok d ∧ d.findings = [] ∧
    d.WellFormed := by
  have hfindings : (load (.value (.object homeFields))).toOption.any (·.findings.isEmpty) = true := by decide
  obtain ⟨d, hload, hnil⟩ := exists_eq_ok hfindings
  have hnil : d.findings = [] := List.isEmpty_iff.mp hnil
  exact ⟨d, hload, hnil, (review_accepts hload).mp hnil⟩

end Document

end PageObjects
