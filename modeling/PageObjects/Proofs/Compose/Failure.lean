import PageObjects.Proofs.Compose.Sequence
import PageObjects.Proofs.Document.Reading
import PageObjects.Proofs.Document.Review

/-!
# How a composition fails

Composing looks elements up in two places: where a statement is called on an element, and where it is
nothing but an element. The first knows the names `self` and `document`, the second does not. A
method whose statements refer to known elements, and whose waits wait for something, fails by none of
these look-ups, except for a statement that is nothing but `self` or `document`. Nor does it chain on
nothing: its first statement is refused before.

* `Frame.Knows`: the statements whose elements a frame knows.
* `Frame.Allows`: properties of errors that the faults of a statement have, where it stands.
* `Frame.stepAction_faults`: the errors of a known statement have every property of its faults.
* `ComposeError.Spares`: the errors that are about no element but the given ones, about no empty
  predicate, and no mistake of the compiler.
* **`compose_faults`**: composing known statements fails by spared errors only.
-/

namespace PageObjects

namespace Frame

variable {P : String → Prop} {Q : ComposeError → Prop} {frame : Frame} {site : Site} {lookups : Lookups}
  {s : Statement}

/-- The frame knows the elements of a statement: what it is called on, and what it is if it is nothing
but an element, unless that is one of `P`. -/
structure Knows (frame : Frame) (P : String → Prop) (s : Statement) : Prop where
  called : ∀ name, s.element.or frame.defaultElement = some name →
    name = "self" ∨ name = "document" ∨ (frame.page.find? name).isSome = true
  named : s.action = none → (frame.page.find? (s.element.getD "")).isSome = true ∨
    P (s.element.getD "")

/-- The property of errors is one of the faults of the statement at the site, but that of an empty predicate
and the mistakes of the compiler, and of the elements of `P` that the page does not know. -/
structure Allows (frame : Frame) (site : Site) (P : String → Prop) (Q : ComposeError → Prop) : Prop where
  fault : ∀ fault, fault ≠ .emptyPredicate → (∀ e, fault ≠ .chain e) →
    Q (.statement frame.method site.index site.inPredicate fault)
  element : ∀ name, P name →
    Q (.page (.unknownElement name frame.page.name (frame.page.elements.map PageElement.name)))

theorem Allows.fail {α : Type} {fault : StatementFault} (hq : frame.Allows site P Q)
    (hempty : fault ≠ .emptyPredicate) (hchain : ∀ e, fault ≠ .chain e) :
    Faults Q (frame.fail site fault : Except ComposeError α) :=
  Faults.error (hq.fault fault hempty hchain)

/-- The index of a statement is its place in a list. -/
theorem siteOf_index_nonneg {inPredicate : Bool} {count index : Nat} {previous : Option ResultType}
    (h : frame.siteOf inPredicate count index previous s = .ok site) : 0 ≤ site.index := by
  obtain ⟨-, hindex, -⟩ := siteOf_eq_ok h
  omega

theorem findElement_faults {name : String} (hq : frame.Allows site P Q)
    (hname : (frame.page.find? name).isSome = true ∨ P name) : Faults Q (frame.findElement name) := by
  unfold findElement Page.find
  cases hfind : frame.page.find? name with
  | some element => exact Faults.ok
  | none =>
    rw [hfind] at hname
    exact Faults.error (hq.element name (hname.resolve_left (by simp)))

/-! ## Receivers -/

/-- A statement after the first has one before it to be called on. -/
theorem chainOperand_of_not_first (hsite : 0 ≤ site.index) (hfirst : ¬ site.isFirst = true) :
    site.chainOperand = .ok ⟨Naming.chainVariable site.index, site.followsList⟩ := by
  have hindex : site.index ≠ 0 := fun h => hfirst (by simp [Site.isFirst, h])
  exact if_neg (by omega)

theorem chainReceiver_faults (hq : frame.Allows site P Q) (hsite : 0 ≤ site.index) :
    Faults Q (frame.chainReceiver site) := by
  unfold chainReceiver
  split
  · exact hq.fail (by simp) (by simp)
  · rename_i hfirst
    rw [chainOperand_of_not_first hsite hfirst]
    dsimp only
    split
    · split
      · exact Faults.ok
      · exact hq.fail (by simp) (by simp)
    · exact hq.fail (by simp) (by simp)

theorem elementReceiver_faults (hq : frame.Allows site P Q) (hs : frame.Knows P s) :
    Faults Q (frame.elementReceiver site lookups s) := by
  unfold elementReceiver
  split
  · exact Faults.ok
  · rename_i name hname
    split
    · exact Faults.ok
    · rename_i hself
      split
      · exact Faults.ok
      · rename_i hdocument
        have hfind : (frame.page.find? name).isSome = true := by
          rcases hs.called name hname with rfl | rfl | hfind
          · exact absurd rfl hself
          · exact absurd rfl hdocument
          · exact hfind
        split
        · rename_i e herror
          exact Faults.error (findElement_faults hq (Or.inl hfind) e herror)
        · split
          · exact Faults.ok
          · exact Faults.ok

theorem receiver_faults (hq : frame.Allows site P Q) (hsite : 0 ≤ site.index) (hs : frame.Knows P s) :
    Faults Q (frame.receiver site lookups s) := by
  unfold receiver
  split
  · exact (chainReceiver_faults hq hsite).map
  · exact elementReceiver_faults hq hs

/-! ## Calls -/

theorem actionOf_faults {name : String} {r : Receiver} (hq : frame.Allows site P Q) :
    Faults Q (frame.actionOf site name r) := by
  unfold actionOf
  dsimp only
  split
  · exact Faults.ok
  · exact hq.fail (by simp) (by simp)

theorem operand_faults {parameters : List Parameter} {a : Argument} (hq : frame.Allows site P Q) :
    Faults Q (frame.operand site parameters a) := by
  unfold operand
  split
  · exact hq.fail (by simp) (by simp)
  · exact Faults.ok
  · split
    · exact Faults.ok
    · exact hq.fail (by simp) (by simp)

theorem operands_faults (hq : frame.Allows site P Q) :
    ∀ {args : List Argument} {parameters : List Parameter},
    Faults Q (frame.operands site parameters args)
  | [], parameters => Faults.ok
  | a :: rest, parameters => by
    unfold operands
    exact (operand_faults hq).bind fun first _ => (operands_faults hq).bind fun others _ => Faults.ok

theorem checkTypes_faults {subject : Subject} (hq : frame.Allows site P Q) :
    ∀ {position : Nat} {given : List Operand} {expected : List ResultType},
    Faults Q (frame.checkTypes site subject position given expected)
  | position, [], expected => Faults.ok
  | position, given :: operands, [] => Faults.ok
  | position, given :: operands, expected :: types => by
    unfold checkTypes
    split
    · exact checkTypes_faults hq
    · exact hq.fail (by simp) (by simp)

theorem checkOperands_faults {operands : List Operand} {action : Option Action}
    (hq : frame.Allows site P Q) :
    Faults Q (frame.checkOperands site operands action) := by
  unfold checkOperands
  split
  · exact Faults.ok
  · split
    · exact checkTypes_faults hq
    · exact hq.fail (by simp) (by simp)

theorem invocationType_faults {name : String} {required : ResultType} {action : Option Action}
    (hq : frame.Allows site P Q) :
    Faults Q (frame.invocationType site name required action) := by
  unfold invocationType
  split
  · exact Faults.ok
  · split
    · exact hq.fail (by simp) (by simp)
    · exact Faults.ok

theorem checkType_faults {required actual : ResultType} {subject : Subject}
    (hq : frame.Allows site P Q) :
    Faults Q (frame.checkType site required subject actual) := by
  unfold checkType
  split
  · exact hq.fail (by simp) (by simp)
  · exact Faults.ok

/-- A statement that is nothing but an element is looked up by its name alone. -/
theorem expression_faults {r : Receiver} {required : ResultType} (hq : frame.Allows site P Q)
    (hs : frame.Knows P s) :
    Faults Q (frame.expression site s r required) := by
  unfold expression
  split
  · rename_i haction
    exact (findElement_faults hq (hs.named haction)).bind fun element _ =>
      (checkType_faults hq).bind fun _ _ => Faults.ok
  · refine (actionOf_faults hq).bind fun action _ => (operands_faults hq).bind fun found _ =>
      (checkOperands_faults hq).bind fun _ _ => (invocationType_faults hq).bind fun invocation _ => ?_
    dsimp only
    split
    · exact (checkType_faults hq).bind fun _ _ => Faults.ok
    · exact Faults.ok

/-! ## Statements -/

theorem applyMatcher_faults {m : Matcher} {b : Built Simple} {parameters : List Parameter}
    (hq : frame.Allows site P Q) :
    Faults Q (frame.applyMatcher site m b parameters) := by
  unfold applyMatcher
  split
  · exact hq.fail (by simp) (by simp)
  · split
    · exact hq.fail (by simp) (by simp)
    · rename_i kind hkind
      have judged {β : Type} (result : List Operand × List Parameter → β) :
          Faults Q (frame.operands site parameters m.args >>= fun found =>
            frame.checkTypes site (.matcher kind.name) 0 found.1 kind.parameters >>= fun _ =>
              pure (result found)) :=
        (operands_faults hq).bind fun found _ => (checkTypes_faults hq).bind fun _ _ => Faults.ok
      dsimp only
      split
      · split
        · exact (hq.fail (by simp) (by simp)).bind fun _ _ => judged _
        · exact judged _
      · exact judged _

theorem composeAction_faults (hq : frame.Allows site P Q) (hsite : 0 ≤ site.index) (hs : frame.Knows P s) :
    Faults Q (frame.composeAction site lookups s) := by
  unfold composeAction
  split
  · exact hq.fail (by simp) (by simp)
  · dsimp only
    rw [ite_bind]
    have hreceiver : Faults Q
        (if s.action.isNone then
          (frame.elementReceiver site lookups s).map fun found => (found.1, [], lookups)
        else frame.receiver site lookups s) := by
      split
      · exact (elementReceiver_faults hq hs).map
      · exact receiver_faults hq hsite hs
    refine hreceiver.bind fun found _ => (expression_faults hq hs).bind fun value _ => ?_
    split
    · exact Faults.ok
    · refine (applyMatcher_faults hq).bind fun judged _ => ?_
      split
      · exact hq.fail (by simp) (by simp)
      · exact Faults.ok

theorem collect_faults {parameters more : List Parameter} (hq : frame.Allows site P Q) :
    Faults Q (frame.collect site parameters more) := by
  unfold collect
  split
  · exact Faults.ok
  · exact hq.fail (by simp) (by simp)

theorem stepAction_faults {trail : Trail} (hq : frame.Allows site P Q) (hsite : 0 ≤ site.index)
    (hs : frame.Knows P s) : Faults Q (frame.stepAction site trail s) := by
  unfold stepAction
  exact (composeAction_faults hq hsite hs).bind fun found _ =>
    (collect_faults hq).bind fun _ _ => Faults.ok

/-- A wait that waits for something fails as its predicate does, or by a fault of its own. -/
theorem composeWait_faults {trail : Trail} {chained : Bool} (hq : frame.Allows site P Q) (hne : s.inner ≠ [])
    (hinner : Faults Q (frame.composePredicate trail.parameters s.inner)) :
    Faults Q (frame.composeWait site trail s chained) := by
  unfold composeWait
  rw [if_neg (by simpa using hne)]
  exact hinner.bind fun found _ => (checkType_faults hq).bind fun _ _ => Faults.ok

/-- A statement of a method fails as the wait or the action that it is. -/
theorem composeStatement_faults {trail : Trail} {chained : Bool}
    (hwait : s.isWait = true → Faults Q (frame.composeWait site trail s chained))
    (haction : s.isWait = false → Faults Q (frame.stepAction site trail s)) :
    Faults Q (frame.composeStatement site trail s chained) := by
  unfold composeStatement
  dsimp only
  rw [ite_bind]
  refine Faults.bind ?_ fun _ _ => Faults.ok
  split
  · rename_i h
    exact hwait h
  · rename_i h
    exact (haction (by simpa using h)).map

end Frame

/-! ## Sequences -/

/-- The error is about an element that is not known only if the element is one of `P`; it is about no
element that is declared twice and no empty predicate, and it is no mistake of the compiler. -/
def ComposeError.Spares (P : String → Prop) : ComposeError → Prop
  | .page (.unknownElement name _ _) => P name
  | .page _ => False
  | .statement _ _ _ .emptyPredicate => False
  | .statement _ _ _ (.chain _) => False
  | _ => True

namespace Frame

variable {P : String → Prop} {frame : Frame} {site : Site} {s : Statement}

theorem allows_spares : frame.Allows site P (ComposeError.Spares P) where
  fault fault hempty hchain := by
    cases fault with
    | emptyPredicate => exact absurd rfl hempty
    | chain e => exact absurd rfl (hchain e)
    | _ => trivial
  element name hname := hname

theorem siteOf_faults {inPredicate : Bool} {count index : Nat} {previous : Option ResultType} :
    Faults (ComposeError.Spares P) (frame.siteOf inPredicate count index previous s) := by
  unfold siteOf
  split
  · exact Faults.ok
  · exact Faults.error trivial

theorem composePredicateFrom_faults {count : Nat} : ∀ {ss : List Statement} {index : Nat}
    {trail : Trail}, (∀ s ∈ ss, frame.Knows P s) →
    Faults (ComposeError.Spares P) (frame.composePredicateFrom count index trail ss)
  | [], index, trail, _ => Faults.ok
  | s :: rest, index, trail, hss => by
    rw [List.forall_mem_cons] at hss
    unfold composePredicateFrom
    refine siteOf_faults.bind fun site hsite => ?_
    split
    · exact allows_spares.fail (by simp) (by simp)
    · exact (stepAction_faults allows_spares (siteOf_index_nonneg hsite) hss.1).bind fun stepped _ =>
        (composePredicateFrom_faults hss.2).bind fun others _ => Faults.ok

/-- The frame knows a statement of a method: the statements that its predicate consists of, if it is a
wait, and else its own elements. -/
structure Admits (frame : Frame) (P : String → Prop) (s : Statement) : Prop where
  own : s.isWait = false → frame.Knows P s
  inner : s.isWait = true → s.inner ≠ [] ∧ ∀ s' ∈ s.inner, frame.Knows P s'

theorem composeSequence_faults {count : Nat} : ∀ {ss : List Statement} {index : Nat} {trail : Trail},
    (∀ s ∈ ss, frame.Admits P s) →
    Faults (ComposeError.Spares P) (frame.composeSequence count index trail ss)
  | [], index, trail, _ => Faults.ok
  | s :: rest, index, trail, hss => by
    rw [List.forall_mem_cons] at hss
    unfold composeSequence
    refine siteOf_faults.bind fun site hsite => Faults.bind (composeStatement_faults ?_ ?_) fun built _ =>
      (composeSequence_faults hss.2).bind fun others _ => Faults.ok
    · intro hwait
      obtain ⟨hne, hinner⟩ := hss.1.inner hwait
      exact composeWait_faults allows_spares hne (composePredicateFrom_faults hinner)
    · exact fun hwait => stepAction_faults allows_spares (siteOf_index_nonneg hsite) (hss.1.own hwait)

theorem returnType_faults {last : Built Expression} :
    Faults (ComposeError.Spares P) (frame.returnType last) := by
  unfold returnType
  split
  · exact Faults.ok
  · split
    · exact Faults.ok
    · split
      · exact Faults.ok
      · exact Faults.error trivial

end Frame

/-- **Composing known statements** fails neither by an element that is not known, but one of `P`, nor
by an empty predicate. -/
theorem compose_faults {frame : Frame} {P : String → Prop} {ss : List Statement}
    (hss : ∀ s ∈ ss, frame.Admits P s) : Faults (ComposeError.Spares P) (compose frame ss) := by
  unfold compose
  refine (Frame.composeSequence_faults hss).bind fun built _ => ?_
  dsimp only
  split
  · exact Faults.error trivial
  · exact Frame.returnType_faults.bind fun _ _ => Faults.ok

end PageObjects
