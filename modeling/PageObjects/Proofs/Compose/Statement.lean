import Mathlib.Tactic.SplitIfs
import PageObjects.Compose.Build
import PageObjects.Proofs.Association
import PageObjects.Proofs.Except

/-!
# What a statement becomes

Inversion lemmas for the composition of one statement: each says everything that a successful step
has done, so that later proofs take a step apart by cases and never unfold it.

* `Frame.Addresses`: the receiver of a statement, the line that looks it up, and the look-ups after.
* `Frame.receiver_addresses`: every receiver is an element that was found, the page object itself, or
  the value of the statement before.
* `Frame.Evaluates`: the expression of a statement and the type that its value has.
* `Frame.expression_evaluates`: every expression is one of those.
-/

namespace PageObjects

/-- A refused statement yields nothing. -/
theorem Frame.fail_ne_ok {frame : Frame} {site : Site} {fault : StatementFault} {a : α} :
    frame.fail site fault ≠ .ok a := by
  simp [Frame.fail]

/-! ## Types of values -/

namespace ResultType

/-- A type that values have: a named type or a list. -/
def holdsValue : ResultType → Bool
  | .named _ | .list _ _ => true
  | _ => false

/-- A type that a statement can chain on: that of an element or of a page object, or a list of
one. -/
def chainable : ResultType → Bool
  | .named t => t.isBasicElement || t.isPageObject
  | .list (.named t) _ => t.isBasicElement || t.isPageObject
  | _ => false

theorem holdsValue_iff {t : ResultType} :
    t.holdsValue = true ↔ t.isVoid = false ∧ t.isSelf = false ∧ t.isUnset = false := by
  cases t <;> simp [holdsValue, isVoid, isSelf, isUnset]

/-- A type that is required and not dropped is one of values. -/
theorem holdsValue_of_required {t : ResultType} (hset : t.isUnset = false)
    (hkept : t.discards = false) : t.holdsValue = true := by
  cases t <;> simp_all [discards, holdsValue, isUnset, isVoid, isSelf]

theorem isVoid_iff {t : ResultType} : t.isVoid = true ↔ t = .void := by
  cases t <;> simp [isVoid]

end ResultType

/-- What an invocation can yield: nothing, or a value. -/
def ResultType.Yieldable (t : ResultType) : Prop := t = .void ∨ t.holdsValue = true

/-! ## Actions of the catalog -/

namespace Action

/-- The types that actions return. -/
def returnTypes : List ResultType := [.void, .string, .boolean, .number]

theorem catalog_returns :
    ∀ entry ∈ catalog, ∀ action ∈ entry.2, action.returns ∈ returnTypes := by decide

theorem documentActions_returns : ∀ action ∈ documentActions, action.returns ∈ returnTypes := by
  decide

theorem declaredBy_returns {interface : String} {action : Action}
    (h : action ∈ declaredBy interface) : action.returns ∈ returnTypes := by
  unfold declaredBy at h
  cases hl : catalog.lookup interface with
  | none => rw [hl] at h; exact absurd h (by simp)
  | some actions =>
    rw [hl] at h
    exact catalog_returns (interface, actions) (mem_of_lookup hl) action h

theorem find?_returns {name : String} {interfaces : List String} {action : Action}
    (h : find? name interfaces = some action) : action.returns ∈ returnTypes := by
  obtain ⟨interface, -, hfind⟩ := List.exists_of_findSome?_eq_some h
  exact declaredBy_returns (List.mem_of_find?_eq_some hfind)

theorem ofDocument_returns {name : String} {action : Action} (h : ofDocument name = .ok action) :
    action.returns ∈ returnTypes := by
  unfold ofDocument at h
  split at h
  · rename_i found hfind
    obtain rfl := Except.ok.inj h
    exact documentActions_returns _ (List.mem_of_find?_eq_some hfind)
  · exact absurd h (by simp)

end Action

variable {frame : Frame} {site : Site} {lookups : Lookups} {s : Statement}

/-- The action that a statement calls yields nothing or a primitive value. -/
theorem Frame.actionOf_returns {name : String} {r : Receiver} {action : Action}
    (h : frame.actionOf site name r = .ok (some action)) :
    action.returns ∈ Action.returnTypes := by
  unfold Frame.actionOf at h
  simp only at h
  split at h
  · rename_i found hfound
    obtain rfl := Except.ok.inj h
    cases r with
    | page => exact absurd hfound (by simp)
    | document =>
      obtain ⟨action', hof, he⟩ := map_eq_ok.mp hfound
      obtain rfl := Option.some.inj he
      exact Action.ofDocument_returns hof
    | value variableName element type isList isChain =>
      simp only at hfound
      split at hfound
      · obtain ⟨action', hfind, he⟩ := map_eq_ok.mp hfound
        obtain rfl := Option.some.inj he
        unfold Action.find at hfind
        split at hfind
        · rename_i hfind?
          obtain rfl := Except.ok.inj hfind
          exact Action.find?_returns hfind?
        · exact absurd hfind (by simp)
      · exact absurd hfound (by simp)
  · exact absurd h Frame.fail_ne_ok

/-! ## Receivers -/

/-- What a statement finds by its element: its receiver, the line that looks it up, and the look-ups
after it. -/
inductive Frame.Finds (frame : Frame) (site : Site) (lookups : Lookups) (s : Statement) :
    Receiver → List (Line Simple) → Lookups → Prop
  | page (hname : s.element.or frame.defaultElement ∈ [none, some "self"]) :
      Finds frame site lookups s .page [] lookups
  | document (hname : s.element.or frame.defaultElement = some "document") :
      Finds frame site lookups s .document [] lookups
  | known {name variableName : String} {element : PageElement}
      (hname : s.element.or frame.defaultElement = some name)
      (helement : frame.page.find? name = some element)
      (hbound : lookups.lookup name = some variableName) :
      Finds frame site lookups s (.value variableName name element.type element.isList false) []
        lookups
  | fresh {name : String} {element : PageElement}
      (hname : s.element.or frame.defaultElement = some name)
      (helement : frame.page.find? name = some element)
      (hfree : lookups.lookup name = none) :
      Finds frame site lookups s
        (.value (site.elementVariable name) name element.type element.isList false)
        [.bind element.returnType (site.elementVariable name) (.getter element.getter)]
        (lookups.bind name (site.elementVariable name))

theorem Frame.findElement_eq_ok {name : String} {element : PageElement} :
    frame.findElement name = .ok element ↔ frame.page.find? name = some element := by
  unfold Frame.findElement Page.find
  cases frame.page.find? name with
  | none => simp
  | some e => simp

theorem Frame.elementReceiver_finds {r : Receiver} {lines : List (Line Simple)} {after : Lookups}
    (h : frame.elementReceiver site lookups s = .ok (r, lines, after)) :
    frame.Finds site lookups s r lines after := by
  unfold Frame.elementReceiver at h
  split at h
  · rename_i hname
    obtain ⟨rfl, rfl, rfl⟩ := by simpa using h
    exact .page (by rw [hname]; simp)
  · rename_i name hname
    split at h
    · rename_i hself
      obtain ⟨rfl, rfl, rfl⟩ := by simpa using h
      exact .page (by rw [hname, beq_iff_eq.mp hself]; simp)
    · split at h
      · rename_i hdocument
        obtain ⟨rfl, rfl, rfl⟩ := by simpa using h
        exact .document (by rw [hname, beq_iff_eq.mp hdocument])
      · split at h
        · exact absurd h (by simp)
        · rename_i element hfind
          have helement := Frame.findElement_eq_ok.mp hfind
          split at h
          · rename_i hbound
            obtain ⟨rfl, rfl, rfl⟩ := by simpa using h
            exact .known hname helement hbound
          · rename_i hfree
            obtain ⟨rfl, rfl, rfl⟩ := by simpa using h
            exact .fresh hname helement hfree

/-- The receiver of a chained statement: the value before it, by its variable. -/
inductive Site.Chains (site : Site) : Receiver → Prop
  | value {previous : ResultType} {type : NamedType}
      (hprevious : site.previous = some previous) (hchainable : previous.chainable = true)
      (hindex : 0 < site.index) :
      Chains site (.value (Naming.chainVariable site.index) (type.elementName.getD type.name) type
        previous.isList true)

/-- A chained statement is called on the value before it, or on each of its values when that is a
list. -/
theorem Frame.chainReceiver_eq_ok {r : Receiver} (h : frame.chainReceiver site = .ok r) :
    ∃ previous type, site.previous = some previous ∧
      (previous = .named type ∨ ∃ all, previous = .list (.named type) all) ∧
      (type.isBasicElement || type.isPageObject) = true ∧ 0 < site.index ∧
      r = .value (Naming.chainVariable site.index) (type.elementName.getD type.name) type
        previous.isList true := by
  unfold Frame.chainReceiver at h
  split at h
  · exact absurd h Frame.fail_ne_ok
  · simp only at h
    split at h
    · rename_i type htarget
      split at h
      · rename_i hkind
        unfold Site.chainOperand at h
        split at h
        · rename_i operand hoperand
          split at hoperand
          · exact absurd hoperand (by simp)
          · rename_i hindex
            obtain rfl := Except.ok.inj hoperand
            obtain rfl := Except.ok.inj h
            -- the target is the value before the statement, or what that is a list of
            cases hprevious : site.previous with
            | none => rw [hprevious] at htarget; exact absurd htarget (by simp)
            | some previous =>
              refine ⟨previous, type, rfl, ?_, hkind, by omega, by simp [Site.followsList, hprevious]⟩
              rw [hprevious] at htarget
              cases previous <;> simp_all
        · exact absurd h Frame.fail_ne_ok
      · exact absurd h Frame.fail_ne_ok
    · exact absurd h Frame.fail_ne_ok

theorem Frame.chainReceiver_chains {r : Receiver} (h : frame.chainReceiver site = .ok r) :
    site.Chains r := by
  obtain ⟨previous, type, hprevious, htype, hkind, hindex, rfl⟩ := Frame.chainReceiver_eq_ok h
  refine .value hprevious ?_ hindex
  obtain rfl | ⟨all, rfl⟩ := htype
  · exact hkind
  · exact hkind

/-- What a statement is called on: what its element finds, or the value it chains on. -/
inductive Frame.Addresses (frame : Frame) (site : Site) (lookups : Lookups) (s : Statement) :
    Receiver → List (Line Simple) → Lookups → Prop
  | element {r : Receiver} {lines : List (Line Simple)} {after : Lookups} (hchain : s.chain = false)
      (hfinds : frame.Finds site lookups s r lines after) :
      Addresses frame site lookups s r lines after
  | chain {r : Receiver} (hchain : s.chain = true) (hchains : site.Chains r) :
      Addresses frame site lookups s r [] lookups

theorem Frame.receiver_addresses {r : Receiver} {lines : List (Line Simple)} {after : Lookups}
    (h : frame.receiver site lookups s = .ok (r, lines, after)) :
    frame.Addresses site lookups s r lines after := by
  unfold Frame.receiver at h
  split at h
  · rename_i hchain
    obtain ⟨r', hr, he⟩ := map_eq_ok.mp h
    obtain ⟨rfl, rfl, rfl⟩ := by simpa using he
    exact .chain hchain (Frame.chainReceiver_chains hr)
  · rename_i hchain
    exact .element (by simpa using hchain) (Frame.elementReceiver_finds h)

/-- A chained statement looks nothing up. -/
theorem Frame.Addresses.chains {r : Receiver} {lines : List (Line Simple)} {after : Lookups}
    (h : frame.Addresses site lookups s r lines after) (hchain : s.chain = true) :
    site.Chains r ∧ lines = [] ∧ after = lookups := by
  cases h with
  | element hunchained _ => exact absurd hunchained (by simp [hchain])
  | chain _ hchains => exact ⟨hchains, rfl, rfl⟩

/-! ## Expressions -/

/-- A value of type `actual` will do where `required` is asked for: nothing is asked for, the value
is dropped, or the types are the same. -/
def ResultType.Fits (required actual : ResultType) : Prop :=
  required.isUnset = true ∨ required.discards = true ∨ required.same actual = true

theorem Frame.checkType_eq_ok {required actual : ResultType} {subject : Subject} {u : Unit} :
    frame.checkType site required subject actual = .ok u ↔ required.Fits actual := by
  unfold Frame.checkType ResultType.Fits
  split
  · rename_i hconflict
    simp only [Bool.and_eq_true, Bool.not_eq_true'] at hconflict
    simp [Frame.fail, hconflict]
  · rename_i hfits
    simp only [Bool.and_eq_true, Bool.not_eq_true', not_and, Bool.not_eq_false] at hfits
    refine ⟨fun _ => ?_, fun _ => rfl⟩
    cases hu : required.isUnset with
    | true => exact Or.inl rfl
    | false =>
      cases hd : required.discards with
      | true => exact Or.inr (Or.inl rfl)
      | false => exact Or.inr (Or.inr (hfits ⟨hu, hd⟩))

theorem Action.yieldable_of_mem {t : ResultType} (h : t ∈ Action.returnTypes) : t.Yieldable := by
  simp only [Action.returnTypes, List.mem_cons, List.not_mem_nil, or_false] at h
  rcases h with rfl | rfl | rfl | rfl
  · exact Or.inl rfl
  all_goals exact Or.inr rfl

theorem Frame.invocationType_yieldable {name : String} {required t : ResultType}
    {action : Option Action} (hreturns : ∀ a, action = some a → a.returns ∈ Action.returnTypes)
    (h : frame.invocationType site name required action = .ok t) : t.Yieldable := by
  unfold Frame.invocationType at h
  split at h
  · obtain rfl := Except.ok.inj h
    split
    · exact Or.inl rfl
    · rename_i hkept
      simp only [Bool.or_eq_true, not_or, Bool.not_eq_true] at hkept
      exact Or.inr (ResultType.holdsValue_of_required hkept.1 hkept.2)
  · rename_i a
    split at h
    · exact absurd h Frame.fail_ne_ok
    · obtain rfl := Except.ok.inj h
      exact Action.yieldable_of_mem (hreturns a rfl)

/-- A call is spread over the elements of a list, and only of a list. -/
theorem spreadOf_single_iff {r : Receiver} {t : ResultType} :
    (spreadOf site r t).1 = .single ↔ r.isList = false := by
  cases r with
  | page => simp [spreadOf, Receiver.isList]
  | document => simp [spreadOf, Receiver.isList]
  | value variableName name type isList isChain =>
    cases isList with
    | false => simp [spreadOf, Receiver.isList]
    | true =>
      cases t with
      | list element returnAll =>
        simp only [spreadOf, Receiver.isList]
        split_ifs <;> simp
      | _ => simp [spreadOf, Receiver.isList]

theorem spreadOf_yieldable {r : Receiver} {t : ResultType} (h : t.Yieldable) :
    (spreadOf site r t).2.Yieldable := by
  unfold spreadOf
  split
  · split
    · exact Or.inl rfl
    · split_ifs <;> exact Or.inr rfl
    · exact Or.inr rfl
  · exact h

/-- The expression of a statement: the getter of its element, or a call on its receiver. -/
inductive Frame.Evaluates (frame : Frame) (site : Site) (s : Statement) (r : Receiver)
    (required : ResultType) : Simple → ResultType → List Parameter → Prop
  | getter {element : PageElement} (haction : s.action = none)
      (helement : frame.page.find? (s.element.getD "") = some element)
      (hfits : required.Fits element.returnType) :
      Evaluates frame site s r required (.getter element.getter) element.returnType []
  | call {name : String} {action : Option Action} {operands : List Operand}
      {parameters : List Parameter} {invocation : ResultType} (haction : s.action = some name)
      (hof : frame.actionOf site name r = .ok action)
      (hoperands : frame.operands site [] s.args = .ok (operands, parameters))
      (hcheck : frame.checkOperands site operands action = .ok ())
      (hinvocation : frame.invocationType site name required action = .ok invocation)
      (hfits : action.isSome = true → required.Fits (spreadOf site r invocation).2) :
      Evaluates frame site s r required
        (.call { receiver := r.code, action := name, operands,
                 spread := (spreadOf site r invocation).1 })
        (spreadOf site r invocation).2 parameters

theorem Frame.expression_evaluates {r : Receiver} {required resolved : ResultType} {value : Simple}
    {parameters : List Parameter}
    (h : frame.expression site s r required = .ok (value, resolved, parameters)) :
    frame.Evaluates site s r required value resolved parameters := by
  unfold Frame.expression at h
  split at h
  · rename_i haction
    simp only [bind_eq_ok, pure_eq_ok, Prod.mk.injEq] at h
    obtain ⟨element, hfind, u, hcheck, rfl, rfl, rfl⟩ := h
    exact .getter haction (Frame.findElement_eq_ok.mp hfind) (Frame.checkType_eq_ok.mp hcheck)
  · rename_i name haction
    simp only [bind_eq_ok] at h
    obtain ⟨action, hof, ⟨operands, more⟩, hoperands, u, hcheck, invocation, hinvocation, h⟩ := h
    have hfits : (action.isSome = true → required.Fits (spreadOf site r invocation).2) ∧
        (pure (Simple.call ⟨r.code, name, operands, (spreadOf site r invocation).1⟩,
          (spreadOf site r invocation).2, more) : Except ComposeError _) =
          .ok (value, resolved, parameters) := by
      split at h
      · obtain ⟨v, hcheck', h⟩ := bind_eq_ok.mp h
        exact ⟨fun _ => Frame.checkType_eq_ok.mp hcheck', h⟩
      · rename_i hnone
        exact ⟨fun hsome => absurd hsome hnone, h⟩
    obtain ⟨hfits, h⟩ := hfits
    obtain ⟨rfl, rfl, rfl⟩ := by simpa [pure_eq_ok] using h
    exact .call haction hof hoperands hcheck hinvocation hfits

theorem Frame.Evaluates.yieldable {r : Receiver} {required resolved : ResultType} {value : Simple}
    {parameters : List Parameter} (h : frame.Evaluates site s r required value resolved parameters) :
    resolved.Yieldable := by
  cases h with
  | getter haction helement hfits =>
    refine Or.inr ?_
    unfold PageElement.returnType
    split <;> rfl
  | call haction hof hoperands hcheck hinvocation hfits =>
    refine spreadOf_yieldable (Frame.invocationType_yieldable ?_ hinvocation)
    rintro a rfl
    exact Frame.actionOf_returns hof

/-! ## Stages that know the page by its faults alone -/

/-- Two sites, each in its frame, are reported in the same words. -/
structure Frame.Alike (frame : Frame) (site : Site) (frame' : Frame) (site' : Site) : Prop where
  method : frame'.method = frame.method
  index : site'.index = site.index
  inPredicate : site'.inPredicate = site.inPredicate

namespace Frame.Alike

variable {frame' : Frame} {site' : Site}

theorem fail {α : Type} {fault : StatementFault} (h : frame.Alike site frame' site') :
    frame'.fail site' fault = (frame.fail site fault : Except ComposeError α) := by
  simp only [Frame.fail, h.method, h.index, h.inPredicate]

theorem operands (h : frame.Alike site frame' site') : ∀ {args : List Argument} {ps : List Parameter},
    frame'.operands site' ps args = frame.operands site ps args
  | [], ps => rfl
  | a :: rest, ps => by
    simp only [Frame.operands, Frame.operand, h.fail, h.operands]

theorem checkTypes {subject : Subject} (h : frame.Alike site frame' site') :
    ∀ {given : List Operand} {types : List ResultType} {position : Nat},
      frame'.checkTypes site' subject position given types =
        frame.checkTypes site subject position given types
  | [], _, _ => rfl
  | _ :: _, [], _ => rfl
  | operand :: given, expected :: types, position => by
    simp only [Frame.checkTypes, h.fail, h.checkTypes]

theorem checkOperands {given : List Operand} {action : Option Action}
    (h : frame.Alike site frame' site') :
    frame'.checkOperands site' given action = frame.checkOperands site given action := by
  cases action with
  | none => rfl
  | some action => simp only [Frame.checkOperands, h.fail, h.checkTypes]

theorem applyMatcher {m : Matcher} {b : Built Simple} {ps : List Parameter}
    (h : frame.Alike site frame' site') :
    frame'.applyMatcher site' m b ps = frame.applyMatcher site m b ps := by
  have hvariable : site'.matcherVariable = site.matcherVariable := by
    simp only [Site.matcherVariable, h.index, h.inPredicate]
  simp only [Frame.applyMatcher, h.fail, h.operands, h.checkTypes, hvariable]

end Frame.Alike

end PageObjects
