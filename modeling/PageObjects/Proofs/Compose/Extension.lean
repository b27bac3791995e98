import PageObjects.Proofs.Compose.Statement

/-!
# Pages that know more

A statement is composed with the elements that it names, and with no other. So what is composed on a page is
composed in the same way on a page that knows further elements, or the same ones in another order. Only the
texts of errors list all the elements of a page.

* `Page.Extends`: the second page finds every element that the first finds.
* `Frame.onto`: the method on another page.
* **`compose_onto`**: a method that is composed on a page is composed in the same way on one that extends it.
-/

namespace PageObjects

/-- A page under the same name that finds every element which the first page finds. -/
structure Page.Extends (p p' : Page) : Prop where
  name : p'.name = p.name
  find : ∀ name element, p.find? name = some element → p'.find? name = some element

namespace Frame

variable {frame : Frame} {site : Site} {lookups : Lookups} {s : Statement} {p : Page}

/-- The method on another page. -/
def onto (frame : Frame) (p : Page) : Frame := { frame with page := p }

/-- The page does not show in what is reported of a statement. -/
theorem alike_onto : frame.Alike site (frame.onto p) site := ⟨rfl, rfl, rfl⟩

/-! ## Statements -/

theorem siteOf_onto (h : frame.page.Extends p) {inPredicate : Bool} {count index : Nat}
    {previous : Option ResultType} :
    (frame.onto p).siteOf inPredicate count index previous s =
      frame.siteOf inPredicate count index previous s := by
  have hown : p.ownType = frame.page.ownType := congrArg ResultType.self h.name
  simp only [siteOf, Page.resolve, onto, hown]

theorem findElement_onto (h : frame.page.Extends p) {name : String} :
    Persists (frame.findElement name) ((frame.onto p).findElement name) := by
  intro element helement
  exact findElement_eq_ok.mpr (h.find name element (findElement_eq_ok.mp helement))

theorem elementReceiver_onto (h : frame.page.Extends p) :
    Persists (frame.elementReceiver site lookups s) ((frame.onto p).elementReceiver site lookups s) := by
  unfold elementReceiver
  have hdefault : (frame.onto p).defaultElement = frame.defaultElement := rfl
  rw [hdefault]
  split
  · exact .refl _
  · rename_i name hname
    split
    · exact .refl _
    · split
      · exact .refl _
      · cases hfind : frame.findElement name with
        | error e => exact .error
        | ok element =>
          rw [findElement_onto h element hfind]
          exact .refl _

theorem receiver_onto (h : frame.page.Extends p) :
    Persists (frame.receiver site lookups s) ((frame.onto p).receiver site lookups s) := by
  unfold receiver
  split
  · exact .of_eq rfl
  · exact elementReceiver_onto h

theorem expression_onto (h : frame.page.Extends p) {r : Receiver} {required : ResultType} :
    Persists (frame.expression site s r required) ((frame.onto p).expression site s r required) := by
  unfold expression
  split
  · exact (findElement_onto h).bind fun element => .of_eq rfl
  · rename_i name hname
    simp only [alike_onto.operands, alike_onto.checkOperands]
    exact .of_eq rfl

theorem composeAction_onto (h : frame.page.Extends p) :
    Persists (frame.composeAction site lookups s) ((frame.onto p).composeAction site lookups s) := by
  unfold composeAction
  split
  · exact .of_eq rfl
  · dsimp only
    rw [ite_bind, ite_bind]
    refine Persists.bind ?_ fun found => (expression_onto h).bind fun value => ?_
    · split
      · exact (elementReceiver_onto h).map
      · exact receiver_onto h
    · simp only [alike_onto.applyMatcher]
      exact .of_eq rfl

theorem stepAction_onto (h : frame.page.Extends p) {trail : Trail} :
    Persists (frame.stepAction site trail s) ((frame.onto p).stepAction site trail s) :=
  (composeAction_onto h).bind fun _ => .of_eq rfl

/-! ## Sequences -/

theorem composePredicateFrom_onto (h : frame.page.Extends p) {count : Nat} :
    ∀ {ss : List Statement} {index : Nat} {trail : Trail},
      Persists (frame.composePredicateFrom count index trail ss)
        ((frame.onto p).composePredicateFrom count index trail ss)
  | [], _, _ => .refl _
  | s :: rest, index, trail => by
    unfold composePredicateFrom
    rw [siteOf_onto h]
    refine (Persists.refl _).bind fun site => ?_
    split
    · exact .of_eq rfl
    · exact (stepAction_onto h).bind fun stepped =>
        (composePredicateFrom_onto h).bind fun others => .refl _

theorem composeWait_onto (h : frame.page.Extends p) {trail : Trail} {chained : Bool} :
    Persists (frame.composeWait site trail s chained) ((frame.onto p).composeWait site trail s chained) := by
  unfold composeWait
  split
  · exact .of_eq rfl
  · exact (composePredicateFrom_onto h).bind fun found => .of_eq rfl

theorem composeStatement_onto (h : frame.page.Extends p) {trail : Trail} {chained : Bool} :
    Persists (frame.composeStatement site trail s chained)
      ((frame.onto p).composeStatement site trail s chained) := by
  unfold composeStatement
  dsimp only
  rw [ite_bind, ite_bind]
  refine Persists.bind ?_ fun stepped => .of_eq rfl
  split
  · exact composeWait_onto h
  · exact (stepAction_onto h).map

theorem composeSequence_onto (h : frame.page.Extends p) {count : Nat} :
    ∀ {ss : List Statement} {index : Nat} {trail : Trail},
      Persists (frame.composeSequence count index trail ss)
        ((frame.onto p).composeSequence count index trail ss)
  | [], _, _ => .refl _
  | s :: rest, index, trail => by
    unfold composeSequence
    rw [siteOf_onto h]
    exact (Persists.refl _).bind fun site => (composeStatement_onto h).bind fun stepped =>
      (composeSequence_onto h).bind fun others => .refl _

end Frame

/-- **What is composed on a page is composed on one that extends it**, with the same outcome. -/
theorem compose_onto {frame : Frame} {p : Page} {ss : List Statement} (h : frame.page.Extends p) :
    Persists (compose frame ss) (compose (frame.onto p) ss) :=
  (Frame.composeSequence_onto h).bind fun _ => .of_eq rfl

end PageObjects
