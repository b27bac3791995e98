import Mathlib.Data.List.Nodup
import PageObjects.Proofs.Document.Location

/-!
# What the review reports

What is wrong with a document, without the walk that finds it: no names seen so far, no predicates entered one
by one. The review finds all of it, and nothing else. It walks the statements before loading twice, so the two
walks are taken apart into what they find in a statement by itself.

* `Document.Wrong`: what is wrong, and at which place.
* `Statement.mem_findings`, `Statement.mem_findingsBeforeLoad`: what the two walks find in a statement and in its
  predicate.
* **`Document.exists_wrong`**: everything that is found is wrong, at the place that its path leads to.
* **`Document.Wrong.mem_findings`**: everything that is wrong is found, but of the interfaces of one type only one
  is named.
* **`Document.nodup_findings`**: nothing is found twice.
-/

namespace PageObjects

/-! ## What is wrong -/

/-- Something is wrong at a place of the document. -/
inductive Document.Wrong (d : Document) : Location → Objection → Prop
  | interface {l : Location} {kind : ElementKind} {owner name : String}
      (hpart : d.part? l = some (.type kind owner)) (hname : name ∈ kind.interfaces)
      (hunsupported : name ∉ Action.supportedInterfaces) :
      d.Wrong l (.interface (.unknownInterface name owner))
  | selector {l : Location} {s : Selector} {e : SelectorError}
      (hpart : d.part? l = some (.selector s)) (hrefused : s.checkText = .error e) :
      d.Wrong l (.selector e)
  | duplicateElement {i j : Nat} {e first : Element} (he : d.elements[i]? = some e)
      (hfirst : d.elements[j]? = some first) (hlt : j < i) (hname : first.name = e.name) :
      d.Wrong (.element i) (.duplicateElement e.name)
  | duplicateMethod {i j : Nat} {m first : Method} (hm : d.methods[i]? = some m)
      (hfirst : d.methods[j]? = some first) (hlt : j < i) (hname : first.name = m.name) :
      d.Wrong (.method i) (.duplicateMethod m.name)
  | reservedMethod {i : Nat} {m : Method} (hm : d.methods[i]? = some m) (hname : m.name = "load")
      (hbeforeLoad : d.beforeLoad ≠ []) : d.Wrong (.method i) (.reservedMethod m.name)
  | undefinedElement {l : Location} {s : Statement} {name : String}
      (hpart : d.part? l = some (.statement s)) (hname : s.element = some name)
      (hreserved : name ∉ reservedElements) (hdeclared : name ∉ d.elements.map Element.name) :
      d.Wrong l (.undefinedElement name (Text.sorted d.elementNames))
  | emptyPredicate {l : Location} {s : Statement} (hpart : d.part? l = some (.statement s))
      (hwait : s.action = some Statement.waitAction) (hempty : s.inner = []) :
      d.Wrong l .emptyPredicate
  | elementBeforeLoad {l : Location} {s : Statement} {name : String}
      (hpart : d.part? l = some (.statement s)) (hearly : l.IsEarly) (hname : s.element = some name)
      (hreserved : name ∉ reservedElements) : d.Wrong l (.elementBeforeLoad name)
  | parameterBeforeLoad {l : Location} {s : Statement} {a : Argument}
      (hpart : d.part? l = some (.statement s)) (hearly : l.IsEarly) (ha : a ∈ s.givenArguments)
      (hparameter : a.isLiteral = false) : d.Wrong l .parameterBeforeLoad

/-! ## The walk over statements -/

namespace Statement

/-- The findings in a statement apart from its predicate. -/
def ownFindings (declared : List String) (path : List Step) (s : Statement) : List Finding :=
  Finding.when (!refersTo declared s.element) path
      (.undefinedElement (s.element.getD "") (Text.sorted declared)) ++
    Finding.when (s.isWait && s.inner.isEmpty) path .emptyPredicate

/-- The findings in a statement that runs before loading, apart from its predicate. -/
def ownFindingsBeforeLoad (path : List Step) (s : Statement) : List Finding :=
  Finding.when (!refersTo [] s.element) path (.elementBeforeLoad (s.element.getD "")) ++
    Finding.when (!usesLiterals s.args s.matcher) path .parameterBeforeLoad

/-- What is found in a statement and again in those of its predicate is found in all statements there. -/
theorem walk_eq_flatMap (own walk : List Step → Statement → List Finding)
    (walkFrom : List Step → Nat → List Statement → List Finding)
    (hwalk : ∀ path s, walk path s = own path s ++ walkFrom path 0 s.inner)
    (hnil : ∀ path index, walkFrom path index [] = [])
    (hcons : ∀ path index s rest, walkFrom path index (s :: rest) =
      walk (path ++ [.key "predicate", .index index]) s ++ walkFrom path (index + 1) rest)
    (path : List Step) (s : Statement) : ∀ descent : Descent, walk (path ++ descent.path) s =
      (s.placed descent).flatMap fun entry => own (path ++ entry.1.path) entry.2 := by
  refine inner_induction (P := fun s => ∀ descent : Descent, walk (path ++ descent.path) s =
    (s.placed descent).flatMap fun entry => own (path ++ entry.1.path) entry.2) ?_ s
  intro s ih descent
  have hfrom : ∀ {ss : List Statement} {index : Nat}, (∀ s' ∈ ss, s' ∈ s.inner) →
      walkFrom (path ++ descent.path) index ss =
        (placedFrom descent index ss).flatMap fun entry => own (path ++ entry.1.path) entry.2 := by
    intro ss
    induction ss with
    | nil => intro index _; rw [hnil, placedFrom, List.flatMap_nil]
    | cons first rest ihRest =>
      intro index hmem
      rw [List.forall_mem_cons] at hmem
      have hfirst := ih first hmem.1 (descent ++ [index])
      rw [Descent.path_append, ← List.append_assoc] at hfirst
      rw [hcons, placedFrom, List.flatMap_append, ihRest hmem.2, ← hfirst]
      rfl
  rw [hwalk, placed_eq, List.flatMap_cons, hfrom fun _ => id]

variable {declared : List String} {path : List Step} {s : Statement} {f : Finding}

theorem findings_eq_flatMap : s.findings declared path =
    (s.placed []).flatMap fun entry => entry.2.ownFindings declared (path ++ entry.1.path) := by
  have h := walk_eq_flatMap (ownFindings declared) (findings declared) (findingsIn declared) ?_
    (fun _ _ => rfl) (fun _ _ _ _ => rfl) path s []
  · rwa [Descent.path_nil, List.append_nil] at h
  · rintro path ⟨element, action, args, returnType, returnAll, chain, matcher, _ | inner⟩
    · simp [findings, ownFindings, isWait, Statement.inner, findingsIn]
    · simp [findings, ownFindings, isWait, Statement.inner]

theorem findingsBeforeLoad_eq_flatMap : s.findingsBeforeLoad path =
    (s.placed []).flatMap fun entry => entry.2.ownFindingsBeforeLoad (path ++ entry.1.path) := by
  have h := walk_eq_flatMap ownFindingsBeforeLoad findingsBeforeLoad findingsBeforeLoadIn ?_
    (fun _ _ => rfl) (fun _ _ _ _ => rfl) path s []
  · rwa [Descent.path_nil, List.append_nil] at h
  · rintro path ⟨element, action, args, returnType, returnAll, chain, matcher, _ | inner⟩
    · simp [findingsBeforeLoad, ownFindingsBeforeLoad, Statement.inner, findingsBeforeLoadIn]
    · simp [findingsBeforeLoad, ownFindingsBeforeLoad, Statement.inner]

theorem mem_flatMap_placed {g : Descent → Statement → List Finding} :
    (f ∈ (s.placed []).flatMap fun entry => g entry.1 entry.2) ↔
      ∃ descent s', s.at? descent = some s' ∧ f ∈ g descent s' := by
  rw [List.mem_flatMap]
  constructor
  · rintro ⟨⟨descent, s'⟩, hplaced, hf⟩
    obtain ⟨way, rfl, hat⟩ := (mem_placed s).mp hplaced
    exact ⟨_, s', hat, hf⟩
  · rintro ⟨descent, s', hat, hf⟩
    exact ⟨(descent, s'), (mem_placed s).mpr ⟨descent, rfl, hat⟩, hf⟩

theorem mem_when {condition : Bool} {objection : Objection} :
    f ∈ Finding.when condition path objection ↔ condition = true ∧ f = ⟨path, objection⟩ := by
  cases condition <;> simp [Finding.when]

theorem not_refersTo {element : Option String} : (!refersTo declared element) = true ↔
    ∃ name, element = some name ∧ name ∉ reservedElements ∧ name ∉ declared := by
  rw [Bool.not_eq_true', ← Bool.not_eq_true, refersTo_iff]
  cases element <;> simp

/-- What is found in a statement and its predicate. -/
theorem mem_findings : f ∈ s.findings declared path ↔ ∃ descent s', s.at? descent = some s' ∧
    f.path = path ++ descent.path ∧
    ((∃ name, s'.element = some name ∧ name ∉ reservedElements ∧ name ∉ declared ∧
        f.objection = .undefinedElement name (Text.sorted declared)) ∨
      (s'.action = some waitAction ∧ s'.inner = [] ∧ f.objection = .emptyPredicate)) := by
  rw [findings_eq_flatMap, mem_flatMap_placed (g := fun descent s' =>
    s'.ownFindings declared (path ++ descent.path))]
  refine exists_congr fun descent => exists_congr fun s' => and_congr_right fun hat => ?_
  obtain ⟨fpath, objection⟩ := f
  rw [ownFindings, List.mem_append, mem_when, mem_when, not_refersTo, isWait, Bool.and_eq_true, beq_iff_eq,
    List.isEmpty_iff, Finding.mk.injEq, Finding.mk.injEq]
  constructor
  · rintro (⟨⟨name, hname, hreserved, hdeclared⟩, rfl, rfl⟩ | ⟨⟨hwait, hempty⟩, rfl, rfl⟩)
    · exact ⟨rfl, Or.inl ⟨name, hname, hreserved, hdeclared, by rw [hname, Option.getD_some]⟩⟩
    · exact ⟨rfl, Or.inr ⟨hwait, hempty, rfl⟩⟩
  · rintro ⟨rfl, ⟨name, hname, hreserved, hdeclared, rfl⟩ | ⟨hwait, hempty, rfl⟩⟩
    · exact Or.inl ⟨⟨name, hname, hreserved, hdeclared⟩, rfl, by rw [hname, Option.getD_some]⟩
    · exact Or.inr ⟨⟨hwait, hempty⟩, rfl, rfl⟩

/-- What is found in a statement that runs before loading and in its predicate. -/
theorem mem_findingsBeforeLoad : f ∈ s.findingsBeforeLoad path ↔ ∃ descent s', s.at? descent = some s' ∧
    f.path = path ++ descent.path ∧
    ((∃ name, s'.element = some name ∧ name ∉ reservedElements ∧
        f.objection = .elementBeforeLoad name) ∨
      (∃ a ∈ s'.givenArguments, a.isLiteral = false) ∧ f.objection = .parameterBeforeLoad) := by
  rw [findingsBeforeLoad_eq_flatMap, mem_flatMap_placed (g := fun descent s' =>
    s'.ownFindingsBeforeLoad (path ++ descent.path))]
  refine exists_congr fun descent => exists_congr fun s' => and_congr_right fun hat => ?_
  have hliterals : (!usesLiterals s'.args s'.matcher) = true ↔
      ∃ a ∈ s'.givenArguments, a.isLiteral = false := by
    rw [Bool.not_eq_true', usesLiterals, List.all_eq_false]
    simp only [givenArguments, Bool.not_eq_true]
  obtain ⟨fpath, objection⟩ := f
  rw [ownFindingsBeforeLoad, List.mem_append, mem_when, mem_when, not_refersTo, hliterals,
    Finding.mk.injEq, Finding.mk.injEq]
  constructor
  · rintro (⟨⟨name, hname, hreserved, -⟩, rfl, rfl⟩ | ⟨hparameter, rfl, rfl⟩)
    · exact ⟨rfl, Or.inl ⟨name, hname, hreserved, by rw [hname, Option.getD_some]⟩⟩
    · exact ⟨rfl, Or.inr ⟨hparameter, rfl⟩⟩
  · rintro ⟨rfl, ⟨name, hname, hreserved, rfl⟩ | ⟨hparameter, rfl⟩⟩
    · exact Or.inl ⟨⟨name, hname, hreserved, List.not_mem_nil⟩, rfl, by rw [hname, Option.getD_some]⟩
    · exact Or.inr ⟨hparameter, rfl, rfl⟩

end Statement

/-! ## The walk over the document -/

section Lists

variable {α : Type} {name : α → String}

theorem mem_indexedFrom {entry : Nat × α} : ∀ {index : Nat} {items : List α},
    entry ∈ indexedFrom index items ↔ ∃ i a, items[i]? = some a ∧ entry = (index + i, a)
  | index, [] => by simp [indexedFrom]
  | index, first :: rest => by
    rw [indexedFrom, List.mem_cons, mem_indexedFrom]
    constructor
    · rintro (rfl | ⟨i, a, ha, rfl⟩)
      · exact ⟨0, first, rfl, rfl⟩
      · exact ⟨i + 1, a, ha, by rw [Nat.add_right_comm, Nat.add_assoc]⟩
    · rintro ⟨_ | i, a, ha, rfl⟩
      · obtain rfl := Option.some.inj ha
        exact Or.inl rfl
      · exact Or.inr ⟨i, a, ha, by rw [Nat.add_right_comm, Nat.add_assoc]⟩

/-- Each item stands with its index and the names of the items before it. -/
theorem mem_afterNames {entry : Nat × α × List String} : ∀ {index : Nat} {seen : List String}
    {items : List α}, entry ∈ afterNames name seen (indexedFrom index items) ↔ ∃ i a,
      items[i]? = some a ∧ entry = (index + i, a, ((items.take i).map name).reverse ++ seen)
  | index, seen, [] => by simp [indexedFrom, afterNames]
  | index, seen, first :: rest => by
    rw [indexedFrom, afterNames, List.mem_cons, mem_afterNames]
    constructor
    · rintro (rfl | ⟨i, a, ha, rfl⟩)
      · exact ⟨0, first, rfl, rfl⟩
      · refine ⟨i + 1, a, ha, ?_⟩
        rw [Nat.add_right_comm, Nat.add_assoc, List.take_succ_cons, List.map_cons, List.reverse_cons,
          List.append_assoc, List.singleton_append]
    · rintro ⟨_ | i, a, ha, rfl⟩
      · obtain rfl := Option.some.inj ha
        exact Or.inl rfl
      · refine Or.inr ⟨i, a, ha, ?_⟩
        rw [Nat.add_right_comm, Nat.add_assoc, List.take_succ_cons, List.map_cons, List.reverse_cons,
          List.append_assoc, List.singleton_append]

/-- A name stands before an index if an item there has it. -/
theorem mem_names_take {items : List α} {i : Nat} {own : String} :
    own ∈ ((items.take i).map name).reverse ↔ ∃ j first, items[j]? = some first ∧ j < i ∧ name first = own := by
  rw [List.mem_reverse, List.mem_map]
  constructor
  · rintro ⟨first, hfirst, rfl⟩
    obtain ⟨j, hj⟩ := List.mem_iff_getElem?.mp hfirst
    rw [List.getElem?_take] at hj
    split at hj
    · rename_i hlt
      exact ⟨j, first, hj, hlt, rfl⟩
    · exact absurd hj (by simp)
  · rintro ⟨j, first, hfirst, hlt, rfl⟩
    exact ⟨first, List.mem_iff_getElem?.mpr ⟨j, by rw [List.getElem?_take, if_pos hlt, hfirst]⟩, rfl⟩

end Lists

theorem Action.checkInterfaces_eq_error {names : List String} {owner : String} {e : ActionError} :
    checkInterfaces names owner = .error e ↔ ∃ name,
      names.find? (fun i => !supportedInterfaces.contains i) = some name ∧ e = .unknownInterface name owner := by
  unfold checkInterfaces
  cases names.find? fun i => !supportedInterfaces.contains i <;> simp [eq_comm]

namespace Document

variable {d : Document} {f : Finding} {l : Location} {o : Objection}

theorem mem_ofCheck {ε : Type} {path : List Step} {objection : ε → Objection} {check : Except ε Unit} :
    f ∈ Finding.ofCheck path objection check ↔ ∃ e, check = .error e ∧ f = ⟨path, objection e⟩ := by
  cases check <;> simp [Finding.ofCheck]

theorem mem_rootFindings : f ∈ d.rootFindings ↔
    (∃ e, Action.checkInterfaces d.interfaces "root" = .error e ∧ f = ⟨[.key "type"], .interface e⟩) ∨
      ∃ s e, d.selector = some s ∧ s.checkText = .error e ∧ f = ⟨[.key "selector"], .selector e⟩ := by
  rw [rootFindings, List.mem_append, mem_ofCheck]
  refine or_congr Iff.rfl ?_
  cases d.selector with
  | none => simp
  | some s => simp [mem_ofCheck]

/-- A reference has no interfaces, so the types of all elements are checked alike. -/
theorem elementFindings_eq {path : List Step} {e : Element} {seen : List String} :
    elementFindings path e seen =
      Finding.when (seen.contains e.name) path (.duplicateElement e.name) ++
        Finding.ofCheck (path ++ [.key "type"]) .interface
          (Action.checkInterfaces e.kind.interfaces e.name) ++
        Finding.ofCheck (path ++ [.key "selector"]) .selector e.selector.checkText := by
  unfold elementFindings
  cases e.kind <;> rfl

theorem mem_elementFindings {path : List Step} {e : Element} {seen : List String} :
    f ∈ elementFindings path e seen ↔
      (e.name ∈ seen ∧ f = ⟨path, .duplicateElement e.name⟩) ∨
      (∃ error, Action.checkInterfaces e.kind.interfaces e.name = .error error ∧
        f = ⟨path ++ [.key "type"], .interface error⟩) ∨
      ∃ error, e.selector.checkText = .error error ∧
        f = ⟨path ++ [.key "selector"], .selector error⟩ := by
  rw [elementFindings_eq, List.mem_append, List.mem_append, Statement.mem_when, List.contains_iff_mem,
    mem_ofCheck, mem_ofCheck, or_assoc]

theorem mem_methodFindings {path : List Step} {m : Method} {seen : List String} :
    f ∈ d.methodFindings path m seen ↔
      (m.name ∈ seen ∧ f = ⟨path, .duplicateMethod m.name⟩) ∨
      ((m.name = "load" ∧ d.beforeLoad ≠ []) ∧ f = ⟨path, .reservedMethod m.name⟩) ∨
      ∃ (j : Nat) (s : Statement), m.compose[j]? = some s ∧
        f ∈ s.findings d.elementNames (path ++ [.key "compose", .index j]) := by
  rw [methodFindings, List.mem_append, List.mem_append, Statement.mem_when, Statement.mem_when,
    List.contains_iff_mem, Bool.and_eq_true, beq_iff_eq, Bool.not_eq_true', ← Bool.not_eq_true,
    List.isEmpty_iff, List.mem_flatMap, or_assoc]
  refine or_congr Iff.rfl (or_congr Iff.rfl ?_)
  constructor
  · rintro ⟨⟨index, s⟩, hentry, hf⟩
    obtain ⟨j, s, hs, hentry⟩ := mem_indexedFrom.mp hentry
    rw [Nat.zero_add] at hentry
    obtain ⟨rfl, rfl⟩ := Prod.mk.inj hentry
    exact ⟨_, _, hs, hf⟩
  · rintro ⟨j, s, hs, hf⟩
    exact ⟨(j, s), mem_indexedFrom.mpr ⟨j, s, hs, by rw [Nat.zero_add]⟩, hf⟩

/-- The findings of a document are those of its root, its elements, its methods and what runs before
loading. -/
theorem mem_findings : f ∈ d.findings ↔ f ∈ d.rootFindings ∨
    (∃ (i : Nat) (e : Element), d.elements[i]? = some e ∧ f ∈ elementFindings [.key "elements", .index i] e
      ((d.elements.take i).map Element.name).reverse) ∨
    (∃ (i : Nat) (m : Method), d.methods[i]? = some m ∧ f ∈ d.methodFindings [.key "methods", .index i] m
      ((d.methods.take i).map Method.name).reverse) ∨
    ∃ (i : Nat) (s : Statement), d.beforeLoad[i]? = some s ∧
      (f ∈ s.findingsBeforeLoad [.key "beforeLoad", .index i] ∨
        f ∈ s.findings d.elementNames [.key "beforeLoad", .index i]) := by
  rw [findings, List.mem_append, List.mem_append, List.mem_append, or_assoc, or_assoc]
  refine or_congr Iff.rfl (or_congr ?_ (or_congr ?_ ?_))
  · simp only [List.mem_flatMap, mem_afterNames, List.append_nil, Nat.zero_add]
    constructor
    · rintro ⟨-, ⟨i, e, he, rfl⟩, hf⟩
      exact ⟨i, e, he, hf⟩
    · rintro ⟨i, e, he, hf⟩
      exact ⟨_, ⟨i, e, he, rfl⟩, hf⟩
  · simp only [List.mem_flatMap, mem_afterNames, List.append_nil, Nat.zero_add]
    constructor
    · rintro ⟨-, ⟨i, m, hm, rfl⟩, hf⟩
      exact ⟨i, m, hm, hf⟩
    · rintro ⟨i, m, hm, hf⟩
      exact ⟨_, ⟨i, m, hm, rfl⟩, hf⟩
  · simp only [List.mem_flatMap, mem_indexedFrom, Nat.zero_add]
    constructor
    · rintro ⟨-, ⟨i, s, hs, rfl⟩, hf⟩
      exact ⟨i, s, hs, List.mem_append.mp hf⟩
    · rintro ⟨i, s, hs, hf⟩
      exact ⟨_, ⟨i, s, hs, rfl⟩, List.mem_append.mpr hf⟩

/-! ## Everything that is found is wrong -/

theorem part?_type {kind : ElementKind} {owner : String} (h : d.part? l = some (.type kind owner)) :
    (l = .rootType ∧ kind = .basic d.interfaces ∧ owner = "root") ∨
      ∃ (i : Nat) (e : Element), l = .elementType i ∧ d.elements[i]? = some e ∧ kind = e.kind ∧
        owner = e.name := by
  cases l <;> simp [part?, Option.bind_eq_some_iff, -Option.map_bind] at h
  case rootType => exact Or.inl ⟨rfl, h.1.symm, h.2.symm⟩
  case elementType i =>
    obtain ⟨e, he, rfl, rfl⟩ := h
    exact Or.inr ⟨i, e, rfl, he, rfl, rfl⟩

theorem part?_selector {s : Selector} (h : d.part? l = some (.selector s)) :
    (l = .rootSelector ∧ d.selector = some s) ∨
      ∃ (i : Nat) (e : Element), l = .elementSelector i ∧ d.elements[i]? = some e ∧ s = e.selector := by
  cases l <;> simp [part?, Option.bind_eq_some_iff, -Option.map_bind] at h
  case rootSelector => exact Or.inl ⟨rfl, h⟩
  case elementSelector i =>
    obtain ⟨e, he, rfl⟩ := h
    exact Or.inr ⟨i, e, rfl, he, rfl⟩

theorem part?_statement {s : Statement} (h : d.part? l = some (.statement s)) :
    (∃ (i j : Nat) (descent : Descent) (m : Method) (top : Statement), l = .composed i j descent ∧
        d.methods[i]? = some m ∧ m.compose[j]? = some top ∧ top.at? descent = some s) ∨
      ∃ (i : Nat) (descent : Descent) (top : Statement), l = .beforeLoad i descent ∧
        d.beforeLoad[i]? = some top ∧ top.at? descent = some s := by
  cases l <;> simp [part?, Option.bind_eq_some_iff, -Option.map_bind] at h
  case composed i j descent =>
    obtain ⟨top, ⟨m, hm, htop⟩, hat⟩ := h
    exact Or.inl ⟨i, j, descent, m, top, rfl, hm, htop, hat⟩
  case beforeLoad i descent =>
    obtain ⟨top, htop, hat⟩ := h
    exact Or.inr ⟨i, descent, top, rfl, htop, hat⟩

theorem mem_elementNames {name : String} : name ∈ d.elementNames ↔ name ∈ d.elements.map Element.name :=
  List.mem_eraseDups

theorem Wrong.of_checkInterfaces {kind : ElementKind} {owner : String} {e : ActionError}
    (hpart : d.part? l = some (.type kind owner))
    (h : Action.checkInterfaces kind.interfaces owner = .error e) : d.Wrong l (.interface e) := by
  obtain ⟨name, hfind, rfl⟩ := Action.checkInterfaces_eq_error.mp h
  have hunsupported : name ∉ Action.supportedInterfaces := by simpa using List.find?_some hfind
  exact .interface hpart (List.mem_of_find?_eq_some hfind) hunsupported

/-- What is found in a statement is wrong at the place of the statement or of one in its predicate. -/
theorem Wrong.of_findings {path : List Step} {top : Statement} (place : Descent → Location)
    (hpath : ∀ descent, (place descent).path = path ++ descent.path)
    (hpart : ∀ descent s, top.at? descent = some s → d.part? (place descent) = some (.statement s))
    (h : f ∈ top.findings d.elementNames path) : ∃ l, f.path = l.path ∧ d.Wrong l f.objection := by
  obtain ⟨descent, s, hat, hf, hwrong⟩ := Statement.mem_findings.mp h
  refine ⟨place descent, hf.trans (hpath descent).symm, ?_⟩
  rcases hwrong with ⟨name, hname, hreserved, hdeclared, hobjection⟩ | ⟨hwait, hempty, hobjection⟩
  · rw [mem_elementNames] at hdeclared
    rw [hobjection]
    exact .undefinedElement (hpart descent s hat) hname hreserved hdeclared
  · rw [hobjection]
    exact .emptyPredicate (hpart descent s hat) hwait hempty

/-- **What the review finds is wrong** at the place that the path leads to. -/
theorem exists_wrong (h : f ∈ d.findings) : ∃ l, f.path = l.path ∧ d.Wrong l f.objection := by
  rcases mem_findings.mp h with hroot | ⟨i, e, he, hf⟩ | ⟨i, m, hm, hf⟩ | ⟨i, top, htop, hf⟩
  · rcases mem_rootFindings.mp hroot with ⟨error, herror, rfl⟩ | ⟨s, error, hs, herror, rfl⟩
    · exact ⟨.rootType, rfl, @Wrong.of_checkInterfaces d .rootType (.basic d.interfaces) _ _ rfl herror⟩
    · exact ⟨.rootSelector, rfl, .selector (by rw [part?, hs]; rfl) herror⟩
  · rcases mem_elementFindings.mp hf with ⟨hseen, rfl⟩ | ⟨error, herror, rfl⟩ | ⟨error, herror, rfl⟩
    · obtain ⟨j, first, hfirst, hlt, hname⟩ := mem_names_take.mp hseen
      exact ⟨.element i, rfl, .duplicateElement he hfirst hlt hname⟩
    · exact ⟨.elementType i, rfl, .of_checkInterfaces (by rw [part?, he]; rfl) herror⟩
    · exact ⟨.elementSelector i, rfl, .selector (by rw [part?, he]; rfl) herror⟩
  · rcases mem_methodFindings.mp hf with ⟨hseen, rfl⟩ | ⟨⟨hname, hearly⟩, rfl⟩ | ⟨j, top, htop, hf⟩
    · obtain ⟨j, first, hfirst, hlt, hname⟩ := mem_names_take.mp hseen
      exact ⟨.method i, rfl, .duplicateMethod hm hfirst hlt hname⟩
    · exact ⟨.method i, rfl, .reservedMethod hm hname hearly⟩
    · refine Wrong.of_findings (.composed i j) (fun descent => rfl) ?_ hf
      intro descent s hat
      rw [part?, hm, Option.bind_some, htop, Option.bind_some, hat]
      rfl
  · have hpart : ∀ descent s, top.at? descent = some s →
        d.part? (.beforeLoad i descent) = some (.statement s) := by
      intro descent s hat
      rw [part?, htop, Option.bind_some, hat]
      rfl
    rcases hf with hf | hf
    · obtain ⟨descent, s, hat, hpath, hwrong⟩ := Statement.mem_findingsBeforeLoad.mp hf
      refine ⟨.beforeLoad i descent, hpath, ?_⟩
      rcases hwrong with ⟨name, hname, hreserved, hobjection⟩ | ⟨⟨a, ha, hparameter⟩, hobjection⟩
      · rw [hobjection]
        exact .elementBeforeLoad (hpart descent s hat) trivial hname hreserved
      · rw [hobjection]
        exact .parameterBeforeLoad (hpart descent s hat) trivial ha hparameter
    · exact Wrong.of_findings (.beforeLoad i) (fun descent => rfl) hpart hf

/-! ## Everything that is wrong is found -/

/-- A type with an unsupported interface is reported for its first. -/
theorem mem_findings_of_type {kind : ElementKind} {owner name : String}
    (hpart : d.part? l = some (.type kind owner)) (hname : name ∈ kind.interfaces)
    (hunsupported : name ∉ Action.supportedInterfaces) : ∃ e,
      Action.checkInterfaces kind.interfaces owner = .error e ∧ ⟨l.path, .interface e⟩ ∈ d.findings := by
  obtain ⟨e, he⟩ : ∃ e, Action.checkInterfaces kind.interfaces owner = .error e := by
    cases hcheck : Action.checkInterfaces kind.interfaces owner with
    | error e => exact ⟨e, rfl⟩
    | ok _ => exact absurd (Action.checkInterfaces_eq_ok.mp hcheck name hname) hunsupported
  refine ⟨e, he, ?_⟩
  rcases part?_type hpart with ⟨rfl, rfl, rfl⟩ | ⟨i, element, rfl, helement, rfl, rfl⟩
  · exact mem_findings.mpr (Or.inl (mem_rootFindings.mpr (Or.inl ⟨e, he, rfl⟩)))
  · exact mem_findings.mpr (Or.inr (Or.inl ⟨i, element, helement,
      mem_elementFindings.mpr (Or.inr (Or.inl ⟨e, he, rfl⟩))⟩))

/-- What is wrong with a statement in a method or before loading is found. -/
theorem mem_findings_of_statement {s : Statement} (hpart : d.part? l = some (.statement s))
    (hwrong : (∃ name, s.element = some name ∧ name ∉ reservedElements ∧ name ∉ d.elementNames ∧
        o = .undefinedElement name (Text.sorted d.elementNames)) ∨
      (s.action = some Statement.waitAction ∧ s.inner = [] ∧ o = .emptyPredicate)) :
    ⟨l.path, o⟩ ∈ d.findings := by
  rcases part?_statement hpart with ⟨i, j, descent, m, top, rfl, hm, htop, hat⟩ |
    ⟨i, descent, top, rfl, htop, hat⟩
  · exact mem_findings.mpr (Or.inr (Or.inr (Or.inl ⟨i, m, hm, mem_methodFindings.mpr (Or.inr (Or.inr
      ⟨j, top, htop, Statement.mem_findings.mpr ⟨descent, s, hat, rfl, hwrong⟩⟩))⟩)))
  · exact mem_findings.mpr (Or.inr (Or.inr (Or.inr ⟨i, top, htop, Or.inr
      (Statement.mem_findings.mpr ⟨descent, s, hat, rfl, hwrong⟩)⟩)))

/-- What is wrong with a statement because it runs before loading is found. -/
theorem mem_findings_of_early {s : Statement} (hpart : d.part? l = some (.statement s)) (hearly : l.IsEarly)
    (hwrong : (∃ name, s.element = some name ∧ name ∉ reservedElements ∧ o = .elementBeforeLoad name) ∨
      (∃ a ∈ s.givenArguments, a.isLiteral = false) ∧ o = .parameterBeforeLoad) :
    ⟨l.path, o⟩ ∈ d.findings := by
  rcases part?_statement hpart with ⟨i, j, descent, m, top, rfl, hm, htop, hat⟩ |
    ⟨i, descent, top, rfl, htop, hat⟩
  · exact hearly.elim
  · exact mem_findings.mpr (Or.inr (Or.inr (Or.inr ⟨i, top, htop, Or.inl
      (Statement.mem_findingsBeforeLoad.mpr ⟨descent, s, hat, rfl, hwrong⟩)⟩)))

/-- **What is wrong is found**, at its place. Of the interfaces of a type one is named, if any is
unsupported. -/
theorem Wrong.mem_findings (h : d.Wrong l o) :
    ⟨l.path, o⟩ ∈ d.findings ∨ ∃ e e', o = .interface e ∧ d.Wrong l (.interface e') ∧
      ⟨l.path, .interface e'⟩ ∈ d.findings := by
  cases h with
  | interface hpart hname hunsupported =>
    obtain ⟨e, he, hf⟩ := mem_findings_of_type hpart hname hunsupported
    exact Or.inr ⟨_, e, rfl, .of_checkInterfaces hpart he, hf⟩
  | selector hpart hrefused =>
    left
    rcases part?_selector hpart with ⟨rfl, hs⟩ | ⟨i, e, rfl, he, rfl⟩
    · exact Document.mem_findings.mpr (Or.inl (mem_rootFindings.mpr (Or.inr ⟨_, _, hs, hrefused, rfl⟩)))
    · exact Document.mem_findings.mpr (Or.inr (Or.inl ⟨i, e, he,
        mem_elementFindings.mpr (Or.inr (Or.inr ⟨_, hrefused, rfl⟩))⟩))
  | @duplicateElement i j e first he hfirst hlt hname =>
    have hseen := mem_names_take.mpr ⟨j, first, hfirst, hlt, hname⟩
    exact Or.inl (Document.mem_findings.mpr (Or.inr (Or.inl ⟨i, e, he,
      mem_elementFindings.mpr (Or.inl ⟨hseen, rfl⟩)⟩)))
  | @duplicateMethod i j m first hm hfirst hlt hname =>
    have hseen := mem_names_take.mpr ⟨j, first, hfirst, hlt, hname⟩
    exact Or.inl (Document.mem_findings.mpr (Or.inr (Or.inr (Or.inl ⟨i, m, hm,
      mem_methodFindings.mpr (Or.inl ⟨hseen, rfl⟩)⟩))))
  | @reservedMethod i m hm hname hbeforeLoad =>
    exact Or.inl (Document.mem_findings.mpr (Or.inr (Or.inr (Or.inl ⟨i, m, hm,
      mem_methodFindings.mpr (Or.inr (Or.inl ⟨⟨hname, hbeforeLoad⟩, rfl⟩))⟩))))
  | undefinedElement hpart hname hreserved hdeclared =>
    rw [← mem_elementNames] at hdeclared
    exact Or.inl (mem_findings_of_statement hpart (Or.inl ⟨_, hname, hreserved, hdeclared, rfl⟩))
  | emptyPredicate hpart hwait hempty =>
    exact Or.inl (mem_findings_of_statement hpart (Or.inr ⟨hwait, hempty, rfl⟩))
  | elementBeforeLoad hpart hearly hname hreserved =>
    exact Or.inl (mem_findings_of_early hpart hearly (Or.inl ⟨_, hname, hreserved, rfl⟩))
  | parameterBeforeLoad hpart hearly ha hparameter =>
    exact Or.inl (mem_findings_of_early hpart hearly (Or.inr ⟨⟨_, ha, hparameter⟩, rfl⟩))

end Document

/-! ## Nothing is found twice -/

/-- Lists that are joined have nothing twice if none of them has, and a key tells whose item one is. -/
theorem nodup_flatMap_of_key {α β κ : Type} {f : α → List β} {items : List α} (key : β → κ) (tag : α → κ)
    (hnodup : ∀ a ∈ items, (f a).Nodup) (hkey : ∀ a ∈ items, ∀ b ∈ f a, key b = tag a)
    (htags : (items.map tag).Nodup) : (items.flatMap f).Nodup := by
  rw [List.nodup_flatMap]
  refine ⟨hnodup, ?_⟩
  refine (List.pairwise_map.mp htags).imp_of_mem ?_
  intro a a' ha ha' hne b hb hb'
  exact hne ((hkey a ha b hb).symm.trans (hkey a' ha' b hb'))

theorem nodup_indexedFrom {α : Type} : ∀ {index : Nat} {items : List α},
    ((indexedFrom index items).map Prod.fst).Nodup
  | index, [] => List.nodup_nil
  | index, first :: rest => by
    rw [indexedFrom, List.map_cons, List.nodup_cons]
    refine ⟨?_, nodup_indexedFrom⟩
    intro hmem
    obtain ⟨entry, hentry, hindex⟩ := List.mem_map.mp hmem
    obtain ⟨i, a, -, rfl⟩ := mem_indexedFrom.mp hentry
    simp only at hindex
    omega

theorem map_fst_afterNames {α : Type} {name : α → String} : ∀ {seen : List String} {entries : List (Nat × α)},
    (afterNames name seen entries).map Prod.fst = entries.map Prod.fst
  | seen, [] => rfl
  | seen, (index, a) :: rest => by rw [afterNames, List.map_cons, List.map_cons, map_fst_afterNames]

theorem nodup_when_append {path : List Step} {o o' : Objection} {condition condition' : Bool} (hne : o ≠ o') :
    (Finding.when condition path o ++ Finding.when condition' path o').Nodup := by
  cases condition <;> cases condition' <;> simp [Finding.when, hne]

namespace Statement

variable {declared : List String} {path : List Step} {s : Statement}

/-- What is found once in each statement by itself is found once in a statement and its predicate. -/
theorem nodup_flatMap_placed (own : List Step → Statement → List Finding)
    (hnodup : ∀ path s, (own path s).Nodup) (hpath : ∀ path s, ∀ f ∈ own path s, f.path = path) :
    ((s.placed []).flatMap fun entry => own (path ++ entry.1.path) entry.2).Nodup := by
  refine nodup_flatMap_of_key Finding.path (fun entry => path ++ entry.1.path) (fun _ _ => hnodup _ _)
    (fun _ _ => hpath _ _) ?_
  have hinjective : Function.Injective fun descent : Descent => path ++ descent.path :=
    fun _ _ h => Descent.path_injective (List.append_cancel_left h)
  have htags := (@nodup_placed s []).map hinjective
  rwa [List.map_map] at htags

theorem path_of_mem_when_append {o o' : Objection} {condition condition' : Bool} {f : Finding}
    (h : f ∈ Finding.when condition path o ++ Finding.when condition' path o') : f.path = path := by
  rcases List.mem_append.mp h with h | h <;>
  · obtain ⟨-, rfl⟩ := mem_when.mp h
    rfl

theorem isPrefix_of_mem_findings {f : Finding} (h : f ∈ s.findings declared path) : path <+: f.path := by
  obtain ⟨descent, -, -, hpath, -⟩ := mem_findings.mp h
  exact hpath ▸ List.prefix_append _ _

theorem isPrefix_of_mem_findingsBeforeLoad {f : Finding} (h : f ∈ s.findingsBeforeLoad path) :
    path <+: f.path := by
  obtain ⟨descent, -, -, hpath, -⟩ := mem_findingsBeforeLoad.mp h
  exact hpath ▸ List.prefix_append _ _

theorem nodup_findings : (s.findings declared path).Nodup := by
  rw [findings_eq_flatMap]
  exact nodup_flatMap_placed (ownFindings declared) (fun _ _ => nodup_when_append (by simp))
    (fun _ _ _ => path_of_mem_when_append)

theorem nodup_findingsBeforeLoad : (s.findingsBeforeLoad path).Nodup := by
  rw [findingsBeforeLoad_eq_flatMap]
  exact nodup_flatMap_placed ownFindingsBeforeLoad (fun _ _ => nodup_when_append (by simp))
    (fun _ _ _ => path_of_mem_when_append)

end Statement

namespace Document

variable {d : Document} {f : Finding} {path : List Step}

theorem nodup_ofCheck {ε : Type} {objection : ε → Objection} {check : Except ε Unit} :
    (Finding.ofCheck path objection check).Nodup := by
  cases check <;> simp [Finding.ofCheck]

theorem nodup_rootFindings : d.rootFindings.Nodup := by
  rw [rootFindings, List.nodup_append]
  refine ⟨nodup_ofCheck, ?_, ?_⟩
  · cases d.selector with
    | none => exact List.nodup_nil
    | some s => exact nodup_ofCheck
  · rintro f htype g hselector rfl
    obtain ⟨_, -, rfl⟩ := mem_ofCheck.mp htype
    cases hs : d.selector with
    | none => rw [hs] at hselector; exact absurd hselector List.not_mem_nil
    | some s =>
      rw [hs] at hselector
      obtain ⟨_, -, h⟩ := mem_ofCheck.mp hselector
      exact absurd h (by simp)

theorem nodup_when {condition : Bool} {objection : Objection} :
    (Finding.when condition path objection).Nodup := by
  cases condition <;> simp [Finding.when]

theorem nodup_elementFindings {e : Element} {seen : List String} :
    (elementFindings path e seen).Nodup := by
  rw [elementFindings_eq, List.nodup_append, List.nodup_append]
  refine ⟨⟨nodup_when, nodup_ofCheck, ?_⟩, nodup_ofCheck, ?_⟩
  · rintro f hname g htype rfl
    obtain ⟨-, rfl⟩ := Statement.mem_when.mp hname
    obtain ⟨_, -, h⟩ := mem_ofCheck.mp htype
    exact absurd h (by simp)
  · rintro f hleft g hselector rfl
    obtain ⟨_, -, rfl⟩ := mem_ofCheck.mp hselector
    rcases List.mem_append.mp hleft with hname | htype
    · exact absurd (Statement.mem_when.mp hname).2 (by simp)
    · obtain ⟨_, -, h⟩ := mem_ofCheck.mp htype
      exact absurd h (by simp)

theorem isPrefix_of_mem_elementFindings {e : Element} {seen : List String}
    (h : f ∈ elementFindings path e seen) : path <+: f.path := by
  rcases mem_elementFindings.mp h with ⟨-, rfl⟩ | ⟨_, -, rfl⟩ | ⟨_, -, rfl⟩
  · exact List.prefix_rfl
  · exact List.prefix_append _ _
  · exact List.prefix_append _ _

theorem isPrefix_of_mem_methodFindings {m : Method} {seen : List String}
    (h : f ∈ d.methodFindings path m seen) : path <+: f.path := by
  rcases mem_methodFindings.mp h with ⟨-, rfl⟩ | ⟨-, rfl⟩ | ⟨j, s, -, hf⟩
  · exact List.prefix_rfl
  · exact List.prefix_rfl
  · exact (List.prefix_append _ _).trans (Statement.isPrefix_of_mem_findings hf)

section Indexed

variable {α : Type} {entries : List (Nat × α)} {g : Nat × α → List Finding} {name : String}

/-- What is found at the indices of a list is found once if it is found once at each of them. -/
theorem nodup_flatMap_indexed (path : List Step) (hindices : (entries.map Prod.fst).Nodup)
    (hnodup : ∀ entry ∈ entries, (g entry).Nodup)
    (hstarts : ∀ entry ∈ entries, ∀ f ∈ g entry, path ++ [.key name, .index entry.1] <+: f.path) :
    (entries.flatMap g).Nodup := by
  refine nodup_flatMap_of_key (fun f => f.path.take (path.length + 2))
    (fun entry => path ++ [.key name, .index entry.1]) hnodup ?_ ?_
  · intro entry hentry f hf
    have htake := List.prefix_iff_eq_take.mp (hstarts entry hentry f hf)
    rw [List.length_append] at htake
    exact htake.symm
  · have hinjective : Function.Injective fun i => path ++ [.key name, .index i] := by
      intro i j h
      simpa using h
    have htags := hindices.map hinjective
    rwa [List.map_map] at htags

theorem head?_of_mem_flatMap_indexed
    (hstarts : ∀ entry ∈ entries, ∀ f ∈ g entry, [.key name, .index entry.1] <+: f.path) :
    ∀ f ∈ entries.flatMap g, f.path.head? = some (.key name) := by
  intro f hf
  obtain ⟨entry, hentry, hf⟩ := List.mem_flatMap.mp hf
  obtain ⟨rest, hrest⟩ := hstarts entry hentry f hf
  rw [← hrest]
  rfl

end Indexed

theorem nodup_methodFindings {m : Method} {seen : List String} :
    (d.methodFindings path m seen).Nodup := by
  rw [methodFindings, List.nodup_append]
  refine ⟨nodup_when_append (by simp), ?_, ?_⟩
  · exact nodup_flatMap_indexed path nodup_indexedFrom (fun _ _ => Statement.nodup_findings)
      (fun _ _ _ => Statement.isPrefix_of_mem_findings)
  · rintro f hname g hstatement rfl
    obtain ⟨⟨j, s⟩, -, hf⟩ := List.mem_flatMap.mp hstatement
    have hlonger := (Statement.isPrefix_of_mem_findings hf).length_le
    rw [Statement.path_of_mem_when_append hname, List.length_append, List.length_cons] at hlonger
    omega

/-- What is found in a statement before loading is about what is there by then, or about any statement. -/
theorem nodup_earlyFindings {s : Statement} :
    (s.findingsBeforeLoad path ++ s.findings d.elementNames path).Nodup := by
  rw [List.nodup_append]
  refine ⟨Statement.nodup_findingsBeforeLoad, Statement.nodup_findings, ?_⟩
  rintro f hearly g hf rfl
  obtain ⟨_, _, -, -, hobjection⟩ := Statement.mem_findingsBeforeLoad.mp hearly
  obtain ⟨_, _, -, -, hobjection'⟩ := Statement.mem_findings.mp hf
  rcases hobjection with ⟨_, -, -, h⟩ | ⟨-, h⟩ <;>
  · rw [h] at hobjection'
    simp at hobjection'

theorem isPrefix_of_mem_earlyFindings {s : Statement}
    (h : f ∈ s.findingsBeforeLoad path ++ s.findings d.elementNames path) : path <+: f.path :=
  (List.mem_append.mp h).elim Statement.isPrefix_of_mem_findingsBeforeLoad
    Statement.isPrefix_of_mem_findings

theorem head?_of_mem_rootFindings (h : f ∈ d.rootFindings) :
    f.path.head? = some (.key "type") ∨ f.path.head? = some (.key "selector") := by
  rcases mem_rootFindings.mp h with ⟨_, -, rfl⟩ | ⟨_, _, -, -, rfl⟩
  · exact Or.inl rfl
  · exact Or.inr rfl

/-- **Nothing is found twice.** -/
theorem nodup_findings : d.findings.Nodup := by
  -- the first key of a path tells the root, the elements, the methods and what runs before loading apart
  have helements : ∀ f ∈ (afterNames Element.name [] (indexedFrom 0 d.elements)).flatMap
      fun entry => elementFindings [.key "elements", .index entry.1] entry.2.1 entry.2.2,
      f.path.head? = some (.key "elements") :=
    head?_of_mem_flatMap_indexed fun _ _ _ => isPrefix_of_mem_elementFindings
  have hmethods : ∀ f ∈ (afterNames Method.name [] (indexedFrom 0 d.methods)).flatMap
      fun entry => d.methodFindings [.key "methods", .index entry.1] entry.2.1 entry.2.2,
      f.path.head? = some (.key "methods") :=
    head?_of_mem_flatMap_indexed fun _ _ _ => isPrefix_of_mem_methodFindings
  have hearly : ∀ f ∈ (indexedFrom 0 d.beforeLoad).flatMap fun entry =>
      entry.2.findingsBeforeLoad [.key "beforeLoad", .index entry.1] ++
        entry.2.findings d.elementNames [.key "beforeLoad", .index entry.1],
      f.path.head? = some (.key "beforeLoad") :=
    head?_of_mem_flatMap_indexed fun _ _ _ => isPrefix_of_mem_earlyFindings
  rw [findings, List.nodup_append, List.nodup_append, List.nodup_append]
  refine ⟨⟨⟨nodup_rootFindings, ?_, ?_⟩, ?_, ?_⟩, ?_, ?_⟩
  · exact nodup_flatMap_indexed [] (by rw [map_fst_afterNames]; exact nodup_indexedFrom)
      (fun _ _ => nodup_elementFindings) (fun _ _ _ => isPrefix_of_mem_elementFindings)
  · rintro f hf g hg rfl
    rcases head?_of_mem_rootFindings hf with h | h <;>
      exact absurd (h.symm.trans (helements f hg)) (by simp)
  · exact nodup_flatMap_indexed [] (by rw [map_fst_afterNames]; exact nodup_indexedFrom)
      (fun _ _ => nodup_methodFindings) (fun _ _ _ => isPrefix_of_mem_methodFindings)
  · rintro f hf g hg rfl
    rcases List.mem_append.mp hf with hf | hf
    · rcases head?_of_mem_rootFindings hf with h | h <;>
        exact absurd (h.symm.trans (hmethods f hg)) (by simp)
    · exact absurd ((helements f hf).symm.trans (hmethods f hg)) (by simp)
  · exact nodup_flatMap_indexed [] nodup_indexedFrom (fun _ _ => nodup_earlyFindings)
      (fun _ _ _ => isPrefix_of_mem_earlyFindings)
  · rintro f hf g hg rfl
    rcases List.mem_append.mp hf with hf | hf
    · rcases List.mem_append.mp hf with hf | hf
      · rcases head?_of_mem_rootFindings hf with h | h <;>
          exact absurd (h.symm.trans (hearly f hg)) (by simp)
      · exact absurd ((helements f hf).symm.trans (hearly f hg)) (by simp)
    · exact absurd ((hmethods f hf).symm.trans (hearly f hg)) (by simp)

end Document

end PageObjects
