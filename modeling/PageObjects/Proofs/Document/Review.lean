import Mathlib.Logic.Basic
import PageObjects.Document.Review

/-!
# What a review without findings means

The review walks a document with lists of its own: the names of the elements that are declared, and
the names that stand for an element in every page object. A document without findings refers to
nothing else, and every wait in it waits for something.

* `Statement.Reviewed`: a statement that refers to known elements, with those in its predicate.
* `Statement.Early`: a statement that uses only what is there before loading, with those in its predicate.
* **`Statement.findings_eq_nil`**, **`Statement.findingsBeforeLoad_eq_nil`**: a statement has no findings
  exactly when it is such a statement.
* **`Document.findings_eq_nil`**: the documents without findings.
* **`Document.reviewed_of_findings`**: in a document without findings every statement refers to known
  elements, and no two elements have the same name.
-/

namespace PageObjects

/-! ## Statements -/

/-- The statement refers to an element that is reserved or declared, if to any, it waits for something
if it waits, and so do the statements of its predicate. -/
inductive Statement.Reviewed (declared : List String) : Statement → Prop
  | mk {s : Statement} (hrefers : refersTo declared s.element = true)
      (hwaits : s.isWait = true → s.inner ≠ []) (hinner : ∀ s' ∈ s.inner, Reviewed declared s') :
      Reviewed declared s

namespace Statement

variable {declared : List String}

theorem Reviewed.refers {s : Statement} (h : s.Reviewed declared) :
    refersTo declared s.element = true := by
  cases h with
  | mk hrefers hwaits hinner => exact hrefers

theorem Reviewed.waits {s : Statement} (h : s.Reviewed declared) (hwait : s.isWait = true) :
    s.inner ≠ [] := by
  cases h with
  | mk hrefers hwaits hinner => exact hwaits hwait

theorem Reviewed.of_inner {s s' : Statement} (h : s.Reviewed declared) (hs' : s' ∈ s.inner) :
    s'.Reviewed declared := by
  cases h with
  | mk hrefers hwaits hinner => exact hinner s' hs'

theorem reviewed_iff {s : Statement} : s.Reviewed declared ↔
    refersTo declared s.element = true ∧ (s.isWait = true → s.inner ≠ []) ∧
      ∀ s' ∈ s.inner, s'.Reviewed declared :=
  ⟨fun h => ⟨h.refers, h.waits, fun _ => h.of_inner⟩, fun ⟨hrefers, hwaits, hinner⟩ =>
    .mk hrefers hwaits hinner⟩

theorem when_eq_nil {condition : Bool} {path : List Step} {objection : Objection} :
    Finding.when condition path objection = [] ↔ condition = false := by
  cases condition <;> simp [Finding.when]

mutual

/-- **A statement without findings** refers to known elements only, and waits for something if it
waits; so do the statements of its predicate. -/
theorem findings_eq_nil : ∀ {path : List Step} {s : Statement},
    s.findings declared path = [] ↔ s.Reviewed declared
  | path, ⟨element, action, args, keyword, all, chain, matcher, none⟩ => by
    rw [reviewed_iff]
    simp only [findings, List.append_eq_nil_iff, when_eq_nil, Bool.not_eq_false', isWait, inner,
      Option.getD_none]
    cases action == some waitAction <;> simp
  | path, ⟨element, action, args, keyword, all, chain, matcher, some ss⟩ => by
    rw [reviewed_iff]
    simp only [findings, List.append_eq_nil_iff, when_eq_nil, Bool.not_eq_false', isWait, inner,
      Option.getD_some, findingsIn_eq_nil]
    cases action == some waitAction <;> simp

theorem findingsIn_eq_nil : ∀ {path : List Step} {index : Nat} {ss : List Statement},
    findingsIn declared path index ss = [] ↔ ∀ s ∈ ss, s.Reviewed declared
  | path, index, [] => by simp [findingsIn]
  | path, index, s :: rest => by
    rw [findingsIn, List.append_eq_nil_iff, findings_eq_nil, findingsIn_eq_nil,
      List.forall_mem_cons]

end

/-- The statement uses only what is there before loading: no element but those of every page object, and
literals for arguments. So do the statements of its predicate. -/
inductive Early : Statement → Prop
  | mk {s : Statement} (hrefers : refersTo [] s.element = true)
      (hliterals : usesLiterals s.args s.matcher = true) (hinner : ∀ s' ∈ s.inner, Early s') : Early s

theorem Early.refers {s : Statement} (h : s.Early) : refersTo [] s.element = true := by
  cases h with
  | mk hrefers hliterals hinner => exact hrefers

theorem Early.literals {s : Statement} (h : s.Early) : usesLiterals s.args s.matcher = true := by
  cases h with
  | mk hrefers hliterals hinner => exact hliterals

theorem Early.of_inner {s s' : Statement} (h : s.Early) (hs' : s' ∈ s.inner) : s'.Early := by
  cases h with
  | mk hrefers hliterals hinner => exact hinner s' hs'

theorem early_iff {s : Statement} : s.Early ↔ refersTo [] s.element = true ∧
    usesLiterals s.args s.matcher = true ∧ ∀ s' ∈ s.inner, s'.Early :=
  ⟨fun h => ⟨h.refers, h.literals, fun _ => h.of_inner⟩, fun ⟨hrefers, hliterals, hinner⟩ =>
    .mk hrefers hliterals hinner⟩

mutual

/-- **A statement without findings before loading** uses only what is there by then, and so do the
statements of its predicate. -/
theorem findingsBeforeLoad_eq_nil : ∀ {path : List Step} {s : Statement},
    s.findingsBeforeLoad path = [] ↔ s.Early
  | path, ⟨element, action, args, keyword, all, chain, matcher, none⟩ => by
    rw [early_iff]
    simp [findingsBeforeLoad, when_eq_nil, inner]
  | path, ⟨element, action, args, keyword, all, chain, matcher, some ss⟩ => by
    rw [early_iff]
    simp [findingsBeforeLoad, when_eq_nil, inner, findingsBeforeLoadIn_eq_nil]

theorem findingsBeforeLoadIn_eq_nil : ∀ {path : List Step} {index : Nat} {ss : List Statement},
    findingsBeforeLoadIn path index ss = [] ↔ ∀ s ∈ ss, s.Early
  | path, index, [] => by simp [findingsBeforeLoadIn]
  | path, index, s :: rest => by
    rw [findingsBeforeLoadIn, List.append_eq_nil_iff, findingsBeforeLoad_eq_nil,
      findingsBeforeLoadIn_eq_nil, List.forall_mem_cons]

end

end Statement

/-! ## Documents -/

theorem forall_mem_indexedFrom {α : Type} {P : α → Prop} : ∀ {index : Nat} {items : List α},
    (∀ entry ∈ indexedFrom index items, P entry.2) ↔ ∀ a ∈ items, P a
  | index, [] => by simp [indexedFrom]
  | index, first :: rest => by
    rw [indexedFrom, List.forall_mem_cons, List.forall_mem_cons, forall_mem_indexedFrom]

theorem forall_mem_afterNames {α : Type} {name : α → String} {P : α → Prop} :
    ∀ {index : Nat} {seen : List String} {items : List α},
      (∀ entry ∈ afterNames name seen (indexedFrom index items), P entry.2.1) ↔ ∀ a ∈ items, P a
  | index, seen, [] => by simp [indexedFrom, afterNames]
  | index, seen, first :: rest => by
    rw [indexedFrom, afterNames, List.forall_mem_cons, List.forall_mem_cons, forall_mem_afterNames]

/-- Items have different names when none has the name of one before it. -/
theorem forall_afterNames_notMem {α : Type} {name : α → String} : ∀ {index : Nat} {seen : List String}
    {items : List α},
    (∀ entry ∈ afterNames name seen (indexedFrom index items), name entry.2.1 ∉ entry.2.2) ↔
      (items.map name).Nodup ∧ ∀ a ∈ items, name a ∉ seen
  | index, seen, [] => by simp [indexedFrom, afterNames]
  | index, seen, first :: rest => by
    have hrest : (∀ a ∈ rest, name a ∉ name first :: seen) ↔
        name first ∉ rest.map name ∧ ∀ a ∈ rest, name a ∉ seen := by
      simp only [List.mem_cons, not_or, List.mem_map, not_exists, not_and]
      exact forall₂_and
    rw [indexedFrom, afterNames, List.forall_mem_cons, forall_afterNames_notMem, hrest, List.map_cons,
      List.nodup_cons, List.forall_mem_cons]
    constructor
    · rintro ⟨hfirst, hnodup, hnew, hseen⟩
      exact ⟨⟨hnew, hnodup⟩, hfirst, hseen⟩
    · rintro ⟨⟨hnew, hnodup⟩, hfirst, hseen⟩
      exact ⟨hfirst, hnodup, hnew, hseen⟩

/-- A statement of the document: one that runs before loading, or one of a method. -/
def Document.HasStatement (d : Document) (s : Statement) : Prop :=
  s ∈ d.beforeLoad ∨ ∃ m ∈ d.methods, s ∈ m.compose

/-- The document declares no two elements of one name, and its statements refer to known elements. -/
structure Document.Reviewed (d : Document) : Prop where
  elements : (d.elements.map Element.name).Nodup
  statements : ∀ s, d.HasStatement s → s.Reviewed (d.elements.map Element.name)

theorem Statement.Reviewed.mono {declared declared' : List String} {s : Statement}
    (hsub : ∀ name ∈ declared, name ∈ declared') (h : s.Reviewed declared) :
    s.Reviewed declared' := by
  induction h with
  | mk hrefers hwaits hinner ih =>
    refine .mk ?_ hwaits ih
    unfold Statement.refersTo at *
    split
    · rfl
    · rename_i name hname
      simp only [hname, Bool.or_eq_true, List.contains_iff_mem] at hrefers ⊢
      exact hrefers.imp_right (hsub name)

/-- The element has an accepted selector and, if it is a basic one, supported interfaces. -/
structure Element.Accepted (e : Element) : Prop where
  interfaces : e.kind.reference? = none → Action.checkInterfaces e.kind.interfaces e.name = .ok ()
  selector : e.selector.checkText = .ok ()

/-- The document has no findings: its root and its elements are accepted, its elements and its methods have
different names, its statements refer to known elements, and those before loading use only what is there
by then. -/
structure Document.Accepted (d : Document) : Prop extends d.Reviewed where
  interfaces : Action.checkInterfaces d.interfaces "root" = .ok ()
  selector : ∀ s ∈ d.selector, s.checkText = .ok ()
  accepted : ∀ e ∈ d.elements, e.Accepted
  methods : (d.methods.map Method.name).Nodup
  unreserved : d.beforeLoad ≠ [] → ∀ m ∈ d.methods, m.name ≠ "load"
  early : ∀ s ∈ d.beforeLoad, s.Early

namespace Document

variable {d : Document}

theorem ofCheck_eq_nil {ε : Type} {path : List Step} {objection : ε → Objection} {check : Except ε Unit} :
    Finding.ofCheck path objection check = [] ↔ check = .ok () := by
  cases check <;> simp [Finding.ofCheck]

theorem rootFindings_eq_nil : d.rootFindings = [] ↔
    Action.checkInterfaces d.interfaces "root" = .ok () ∧ ∀ s ∈ d.selector, s.checkText = .ok () := by
  unfold rootFindings
  cases d.selector <;> simp [ofCheck_eq_nil]

theorem elementFindings_eq_nil {path : List Step} {e : Element} {seen : List String} :
    elementFindings path e seen = [] ↔ e.name ∉ seen ∧ e.Accepted := by
  have haccepted : e.Accepted ↔ (e.kind.reference? = none →
      Action.checkInterfaces e.kind.interfaces e.name = .ok ()) ∧ e.selector.checkText = .ok () :=
    ⟨fun h => ⟨h.interfaces, h.selector⟩, fun h => ⟨h.1, h.2⟩⟩
  rw [haccepted]
  unfold elementFindings
  cases e.kind <;>
    simp [ofCheck_eq_nil, Statement.when_eq_nil, ElementKind.reference?]

theorem methodFindings_eq_nil {path : List Step} {m : Method} {seen : List String} :
    d.methodFindings path m seen = [] ↔ m.name ∉ seen ∧ (d.beforeLoad ≠ [] → m.name ≠ "load") ∧
      ∀ s ∈ m.compose, s.Reviewed d.elementNames := by
  have hstatements : (∀ entry ∈ indexedFrom 0 m.compose,
      entry.2.findings d.elementNames (path ++ [.key "compose", .index entry.1]) = []) ↔
      ∀ s ∈ m.compose, s.Reviewed d.elementNames := by
    simp only [Statement.findings_eq_nil]
    exact forall_mem_indexedFrom
  simp only [methodFindings, List.append_eq_nil_iff, List.flatMap_eq_nil_iff, hstatements,
    Statement.when_eq_nil, List.contains_eq_mem, decide_eq_false_iff_not, and_assoc]
  refine and_congr Iff.rfl (and_congr ?_ Iff.rfl)
  rw [Bool.and_eq_false_iff, beq_eq_false_iff_ne, Bool.not_eq_false', List.isEmpty_iff, or_comm,
    or_iff_not_imp_left]

theorem reviewed_elementNames {s : Statement} :
    s.Reviewed d.elementNames ↔ s.Reviewed (d.elements.map Element.name) :=
  ⟨.mono fun _ => List.mem_eraseDups.mp, .mono fun _ => List.mem_eraseDups.mpr⟩

/-- **The documents without findings** are the accepted ones. -/
theorem findings_eq_nil : d.findings = [] ↔ d.Accepted := by
  have helements : (∀ entry ∈ afterNames Element.name [] (indexedFrom 0 d.elements),
      elementFindings [.key "elements", .index entry.1] entry.2.1 entry.2.2 = []) ↔
      (d.elements.map Element.name).Nodup ∧ ∀ e ∈ d.elements, e.Accepted := by
    simp only [elementFindings_eq_nil, forall₂_and]
    rw [forall_afterNames_notMem, forall_mem_afterNames]
    simp
  have hmethods : (∀ entry ∈ afterNames Method.name [] (indexedFrom 0 d.methods),
      d.methodFindings [.key "methods", .index entry.1] entry.2.1 entry.2.2 = []) ↔
      (d.methods.map Method.name).Nodup ∧ ∀ m ∈ d.methods, (d.beforeLoad ≠ [] → m.name ≠ "load") ∧
        ∀ s ∈ m.compose, s.Reviewed (d.elements.map Element.name) := by
    simp only [methodFindings_eq_nil, reviewed_elementNames]
    rw [forall₂_and, forall_afterNames_notMem, forall_mem_afterNames (P := fun m : Method =>
      (d.beforeLoad ≠ [] → m.name ≠ "load") ∧
        ∀ s ∈ m.compose, s.Reviewed (d.elements.map Element.name))]
    simp
  have hbeforeLoad : (∀ entry ∈ indexedFrom 0 d.beforeLoad,
      entry.2.findingsBeforeLoad [.key "beforeLoad", .index entry.1] = [] ∧
        entry.2.findings d.elementNames [.key "beforeLoad", .index entry.1] = []) ↔
      ∀ s ∈ d.beforeLoad, s.Early ∧ s.Reviewed (d.elements.map Element.name) := by
    simp only [Statement.findingsBeforeLoad_eq_nil, Statement.findings_eq_nil, reviewed_elementNames]
    exact forall_mem_indexedFrom (P := fun s : Statement =>
      s.Early ∧ s.Reviewed (d.elements.map Element.name))
  simp only [findings, List.append_eq_nil_iff, List.flatMap_eq_nil_iff, rootFindings_eq_nil, helements,
    hmethods, hbeforeLoad]
  constructor
  · rintro ⟨⟨⟨⟨hinterfaces, hselector⟩, hnodup, haccepted⟩, hnames, hmethods⟩, hbeforeLoad⟩
    exact {
      elements := hnodup
      statements := fun s hs => hs.elim (fun hs => (hbeforeLoad s hs).2)
        fun ⟨m, hm, hs⟩ => (hmethods m hm).2 s hs
      interfaces := hinterfaces
      selector := hselector
      accepted := haccepted
      methods := hnames
      unreserved := fun hne m hm => (hmethods m hm).1 hne
      early := fun s hs => (hbeforeLoad s hs).1 }
  · intro h
    exact ⟨⟨⟨⟨h.interfaces, h.selector⟩, h.elements, h.accepted⟩, h.methods, fun m hm =>
      ⟨fun hne => h.unreserved hne m hm, fun s hs => h.statements s (Or.inr ⟨m, hm, hs⟩)⟩⟩,
      fun s hs => ⟨h.early s hs, h.statements s (Or.inl hs)⟩⟩

/-- **A document without findings** has elements of different names, and its statements refer to them
and to the elements of every page object only. -/
theorem reviewed_of_findings (h : d.findings = []) : d.Reviewed :=
  (findings_eq_nil.mp h).toReviewed

end Document

end PageObjects
