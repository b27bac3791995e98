import PageObjects.Proofs.Compose.Appended
import PageObjects.Proofs.Compose.Chain
import PageObjects.Proofs.Compose.Failure
import PageObjects.Proofs.Compose.Scope

/-!
# Where a composition stops

Composing a method stops at one statement: at one of the method, at one in the predicate of a wait, or,
when all statements are composed, at the last one for the type that the method declares. Nearly every
error says which statement that is. Two do not, because they come from the page and nothing puts the place
before them: the type that a statement declares is resolved before the statement is composed, and a
statement that is nothing but `self` or `document` is looked up like an element. The specification (4.2)
has errors identify the page object, the method and the index of the statement.

* `Frame.StopsAt`: composing stops with an error at a statement, with the index of that statement.
* **`compose_eq_error_iff`**: a method with statements is not composed exactly when it stops at one.
* `Statement.Unplaced`: the statements whose errors say no place.
* `Frame.Reports`: what is reported of a statement, with its place or without.
* **`Frame.StopsAt.reports`**: the error of any other statement says its place.
-/

namespace PageObjects

variable {frame : Frame} {ss : List Statement} {e : ComposeError}

/-! ## Statements of a predicate -/

namespace Frame

variable {count index : Nat} {trail : Trail}

/-- One step of a predicate of `count` statements: what the statement at an index becomes. -/
def predicateStepAt (frame : Frame) (count index : Nat) (trail : Trail) (s : Statement) :
    Except ComposeError (Built Simple × Trail) := do
  let site ← frame.siteOf true count index trail.previous s
  if s.isWait then frame.fail site .waitInPredicate else frame.stepAction site trail s

theorem predicateStepAt_eq_ok {s : Statement} {rest : List Statement} {b : Built Simple} {after : Trail} :
    frame.predicateStepAt count index trail s = .ok (b, after) ↔
      frame.PredicateStep count index trail s rest b after := by
  unfold predicateStepAt PredicateStep
  rw [bind_eq_ok]
  refine exists_congr fun site => and_congr_right fun _ => ?_
  split
  · rename_i hwait
    simp [hwait, fail]
  · rename_i hwait
    simp [hwait]

theorem composePredicateFrom_cons {s : Statement} {rest : List Statement} :
    frame.composePredicateFrom count index trail (s :: rest) =
      frame.predicateStepAt count index trail s >>= fun stepped =>
        (frame.composePredicateFrom count (index + 1) stepped.2 rest).map fun others =>
          (stepped.1 :: others.1, others.2) := by
  unfold predicateStepAt
  rw [composePredicateFrom, bind_assoc]
  refine congrArg _ (funext fun site => ?_)
  split
  · rfl
  · exact congrArg _ (funext fun stepped => bind_pure_eq_map)

/-- A predicate is not composed exactly when it stops at one of its statements. -/
theorem composePredicate_eq_error {parameters : List Parameter} :
    frame.composePredicate parameters ss = .error e ↔ ∃ i found s rest,
      Arrives (frame.PredicateStep ss.length) 0 { parameters } ss i found s rest ∧
        frame.predicateStepAt ss.length i found s = .error e :=
  walk_eq_error (fun index trail s _ => frame.predicateStepAt ss.length index trail s)
    (fun _ _ => rfl) (fun _ _ _ _ => composePredicateFrom_cons)
    (fun _ _ _ _ _ _ => predicateStepAt_eq_ok)

/-! ## The statement at which a method stops -/

/-- Composing a method stops with an error at a statement, which has the given index and may stand in a
predicate. -/
inductive StopsAt (frame : Frame) (ss : List Statement) (e : ComposeError) :
    Statement → Nat → Bool → Prop
  /-- A statement of the method is refused, and not for a statement in its predicate. -/
  | own {i : Nat} {found : Trail} {s : Statement} {rest : List Statement}
      (harrives : Arrives (frame.MethodStep ss.length) 0 {} ss i found s rest)
      (hown : ∀ site, frame.siteOf false ss.length i found.previous s = .ok site → s.isWait = true →
        ∃ inner, frame.composePredicate found.parameters s.inner = .ok inner)
      (hrefused : frame.stepAt ss.length i found s rest = .error e) : StopsAt frame ss e s i false
  /-- A statement in the predicate of a wait is refused. -/
  | inside {i j : Nat} {found found' : Trail} {wait s : Statement} {rest rest' : List Statement}
      {site : Site} (harrives : Arrives (frame.MethodStep ss.length) 0 {} ss i found wait rest)
      (hsite : frame.siteOf false ss.length i found.previous wait = .ok site)
      (hwait : wait.isWait = true)
      (hinner : Arrives (frame.PredicateStep wait.inner.length) 0 { parameters := found.parameters }
        wait.inner j found' s rest')
      (hrefused : frame.predicateStepAt wait.inner.length j found' s = .error e) :
      StopsAt frame ss e s j true
  /-- The last statement does not return what the method declares. -/
  | last {s : Statement} {bs : List (Built Expression)} {b : Built Expression} {ps : List Parameter}
      (hs : ss.getLast? = some s)
      (hcomposed : frame.composeSequence ss.length 0 {} ss = .ok (bs, ps)) (hb : bs.getLast? = some b)
      (hrefused : frame.returnType b = .error e) : StopsAt frame ss e s (ss.length - 1) false

theorem StopsAt.ne_nil {s : Statement} {i : Nat} {inPredicate : Bool}
    (h : frame.StopsAt ss e s i inPredicate) : ss ≠ [] := by
  rintro rfl
  cases h with
  | own harrives hown hrefused => cases harrives
  | inside harrives hsite hwait hinner hrefused => cases harrives
  | last hs hcomposed hb hrefused => exact absurd hs (by simp)

/-- A wait whose predicate is not composed fails as the predicate does. -/
theorem composeWait_of_predicate {site : Site} {trail : Trail} {s : Statement} {chained : Bool}
    (h : frame.composePredicate trail.parameters s.inner = .error e) :
    frame.composeWait site trail s chained = .error e := by
  have hne : s.inner ≠ [] := by
    intro hnil
    rw [hnil] at h
    exact absurd h (by simp [composePredicate, composePredicateFrom])
  unfold composeWait
  rw [if_neg (by simpa using hne), h]
  rfl

theorem stepAt_of_predicate {i : Nat} {found : Trail} {s : Statement} {rest : List Statement} {site : Site}
    (hsite : frame.siteOf false count i found.previous s = .ok site) (hwait : s.isWait = true)
    (h : frame.composePredicate found.parameters s.inner = .error e) :
    frame.stepAt count i found s rest = .error e := by
  unfold stepAt composeStatement
  rw [hsite, ok_bind]
  simp only [hwait, if_true, composeWait_of_predicate h]
  rfl

/-- A step that is refused is refused for itself, or for its predicate. -/
theorem stopsAt_of_stepAt {i : Nat} {found : Trail} {s : Statement} {rest : List Statement}
    (harrives : Arrives (frame.MethodStep ss.length) 0 {} ss i found s rest)
    (hrefused : frame.stepAt ss.length i found s rest = .error e) :
    ∃ s' j inPredicate, frame.StopsAt ss e s' j inPredicate := by
  by_cases hown : ∀ site, frame.siteOf false ss.length i found.previous s = .ok site →
      s.isWait = true → ∃ inner, frame.composePredicate found.parameters s.inner = .ok inner
  · exact ⟨s, i, false, .own harrives hown hrefused⟩
  · -- the wait has come to its predicate, which is not composed, and so has not come further
    push Not at hown
    obtain ⟨site, hsite, hwait, hinner⟩ := hown
    cases hpredicate : frame.composePredicate found.parameters s.inner with
    | ok inner => exact absurd hpredicate (hinner inner)
    | error e' =>
      obtain rfl : e' = e :=
        Except.error.inj ((stepAt_of_predicate hsite hwait hpredicate).symm.trans hrefused)
      obtain ⟨j, found', s', rest', harrives', hrefused'⟩ := composePredicate_eq_error.mp hpredicate
      exact ⟨s', j, true, .inside harrives hsite hwait harrives' hrefused'⟩

end Frame

/-- **A method with statements is not composed exactly when it stops at one of them.** -/
theorem compose_eq_error_iff (hne : ss ≠ []) :
    compose frame ss = .error e ↔ ∃ s i inPredicate, frame.StopsAt ss e s i inPredicate := by
  constructor
  · intro h
    rcases compose_eq_error.mp h with ⟨i, hfails⟩ | ⟨bs, ps, hcomposed, hlast⟩
    · obtain ⟨found, s, rest, harrives, hrefused⟩ := Frame.fails_iff.mp hfails
      exact Frame.stopsAt_of_stepAt harrives hrefused
    · rcases hlast with ⟨hnil, -⟩ | ⟨b, hb, hrefused⟩
      · obtain ⟨last, hwalk, -⟩ := Frame.composeSequence_threaded hcomposed
        exact absurd hnil (hwalk.ne_nil hne)
      · exact ⟨_, _, _, .last (List.getLast?_eq_some_getLast hne) hcomposed hb hrefused⟩
  · rintro ⟨s, i, inPredicate, h⟩
    rw [compose_eq_error]
    cases h with
    | own harrives hown hrefused =>
      exact Or.inl ⟨i, Frame.fails_iff.mpr ⟨_, _, _, harrives, hrefused⟩⟩
    | inside harrives hsite hwait hinner hrefused =>
      have hpredicate := Frame.composePredicate_eq_error.mpr ⟨_, _, _, _, hinner, hrefused⟩
      exact Or.inl ⟨_, Frame.fails_iff.mpr
        ⟨_, _, _, harrives, Frame.stepAt_of_predicate hsite hwait hpredicate⟩⟩
    | last hs hcomposed hb hrefused => exact Or.inr ⟨_, _, hcomposed, Or.inr ⟨_, hb, hrefused⟩⟩

/-! ## Errors that say a place -/

/-- The statement is nothing but a name of the page object itself, or of its document. -/
def Statement.IsBare (s : Statement) : Prop :=
  s.action = none ∧ (s.element = some "self" ∨ s.element = some "document")

theorem Statement.not_bare_of_wait {s : Statement} (hwait : s.isWait = true) : ¬ s.IsBare := by
  rintro ⟨haction, -⟩
  exact absurd hwait (by simp [isWait, haction])

theorem Statement.Kept.chain_of_bare {s : Statement} (h : s.Kept) (hbare : s.IsBare) : s.chain = false := by
  cases hchain : s.chain with
  | false => rfl
  | true => exact absurd hbare.1 (Statement.action_of_chain h.check hchain)

/-- An error of the statement says no place: its type is not one on the page, or it is nothing but `self` or
`document`. -/
def Statement.Unplaced (page : Page) (s : Statement) : Prop :=
  (∃ t, page.resolve s.returnType s.returnAll = .error t) ∨ s.IsBare

/-- What is reported of a statement that is refused. -/
inductive Frame.Reports (frame : Frame) (s : Statement) (i : Nat) (inPredicate : Bool) :
    ComposeError → Prop
  /-- Its fault, with the place. -/
  | fault {fault : StatementFault} (hplaced : ¬ s.Unplaced frame.page) :
      Reports frame s i inPredicate (.statement frame.method i inPredicate fault)
  /-- The type that it returns, with the place. -/
  | returnType {declared last : ResultType} (hplaced : ¬ s.Unplaced frame.page)
      (hmethod : inPredicate = false) :
      Reports frame s i inPredicate (.returnType frame.method i declared last)
  /-- The type that it declares. -/
  | type {t : TypeError} (ht : frame.page.resolve s.returnType s.returnAll = .error t) :
      Reports frame s i inPredicate (.type t)
  /-- The element that it is nothing but. -/
  | element {name : String} (hbare : s.IsBare) (hname : s.element = some name) :
      Reports frame s i inPredicate
        (.page (.unknownElement name frame.page.name (frame.page.elements.map PageElement.name)))

namespace Frame

variable {site : Site} {s : Statement} {i count : Nat} {inPredicate : Bool} {trail : Trail}

theorem siteOf_reports {previous : Option ResultType} :
    Faults (frame.Reports s i inPredicate) (frame.siteOf inPredicate count i previous s) := by
  unfold siteOf
  split
  · exact Faults.ok
  · rename_i ht
    exact Faults.error (.type ht)

/-- The page knows no element of the names that stand for the page object and for its document. -/
def Unreserved (frame : Frame) : Prop :=
  frame.page.find? "self" = none ∧ frame.page.find? "document" = none

/-- A statement that is nothing but `self` or `document` is looked up as an element, and not found. -/
theorem stepAction_of_bare (hunreserved : frame.Unreserved) (hbare : s.IsBare)
    (hchain : s.chain = false) : ∃ name, s.element = some name ∧ frame.stepAction site trail s =
      .error (.page (.unknownElement name frame.page.name (frame.page.elements.map PageElement.name))) := by
  obtain ⟨haction, helement⟩ := hbare
  obtain ⟨hself, hdocument⟩ := hunreserved
  unfold stepAction composeAction
  rcases helement with helement | helement
  · refine ⟨"self", helement, ?_⟩
    simp [hchain, haction, helement, elementReceiver, expression, findElement, Page.find, hself,
      Except.map, bind, Except.bind]
  · refine ⟨"document", helement, ?_⟩
    simp [hchain, haction, helement, elementReceiver, expression, findElement, Page.find, hdocument,
      Except.map, bind, Except.bind]

/-- The faults of a statement whose type resolves and that is not bare are reported with its place. -/
theorem allows_reports {previous : Option ResultType} (hbare : ¬ s.IsBare)
    (hsite : frame.siteOf inPredicate count i previous s = .ok site) :
    frame.Allows site (fun _ => False) (frame.Reports s i inPredicate) := by
  obtain ⟨hdeclared, hindex, -, hpredicate, -, -⟩ := siteOf_eq_ok hsite
  have hplaced : ¬ s.Unplaced frame.page := by
    rintro (⟨t, ht⟩ | h)
    · exact absurd (hdeclared.symm.trans ht) (by simp)
    · exact hbare h
  exact {
    fault := by
      intro fault _ _
      rw [hindex, hpredicate]
      exact .fault hplaced
    element := fun _ hname => hname.elim }

/-- A known statement that is not bare knows its element. -/
theorem Knows.of_not_bare (hkept : s.Kept) (hbare : ¬ s.IsBare)
    (h : frame.Knows (fun name => name = "self" ∨ name = "document") s) :
    frame.Knows (fun _ => False) s where
  called := h.called
  named := by
    intro haction
    refine (h.named haction).imp_right fun hname => ?_
    obtain ⟨-, name, helement⟩ := hkept.element_of_action haction
    rw [helement, Option.getD_some] at hname
    exact hbare ⟨haction, by simpa [helement] using hname⟩

/-- **What is reported of an action.** -/
theorem stepAction_reports {previous : Option ResultType} (hunreserved : frame.Unreserved) (hkept : s.Kept)
    (hknows : frame.Knows (fun name => name = "self" ∨ name = "document") s)
    (hsite : frame.siteOf inPredicate count i previous s = .ok site) :
    Faults (frame.Reports s i inPredicate) (frame.stepAction site trail s) := by
  by_cases hbare : s.IsBare
  · obtain ⟨name, hname, herror⟩ := stepAction_of_bare hunreserved hbare (hkept.chain_of_bare hbare)
    rw [herror]
    exact Faults.error (.element hbare hname)
  · exact stepAction_faults (allows_reports hbare hsite) (siteOf_index_nonneg hsite)
      (hknows.of_not_bare hkept hbare)

/-- What is reported of a statement of a predicate. -/
theorem predicateStepAt_reports (hunreserved : frame.Unreserved) (hkept : s.Kept)
    (hknows : frame.Knows (fun name => name = "self" ∨ name = "document") s) :
    Faults (frame.Reports s i true) (frame.predicateStepAt count i trail s) := by
  unfold predicateStepAt
  refine siteOf_reports.bind fun site hsite => ?_
  split
  · rename_i hwait
    exact (allows_reports (Statement.not_bare_of_wait hwait) hsite).fail (by simp) (by simp)
  · exact stepAction_reports hunreserved hkept hknows hsite

/-- What is reported of a statement of a method whose predicate, if it has come to one, is composed. -/
theorem stepAt_reports {rest : List Statement} (hunreserved : frame.Unreserved) (hkept : s.Kept)
    (hadmits : frame.Admits (fun name => name = "self" ∨ name = "document") s)
    (hown : ∀ site, frame.siteOf false count i trail.previous s = .ok site → s.isWait = true →
      ∃ inner, frame.composePredicate trail.parameters s.inner = .ok inner) :
    Faults (frame.Reports s i false) (frame.stepAt count i trail s rest) := by
  unfold stepAt
  refine siteOf_reports.bind fun site hsite => composeStatement_faults ?_ ?_
  · intro hwait
    obtain ⟨inner, hinner⟩ := hown site hsite hwait
    refine composeWait_faults (allows_reports (Statement.not_bare_of_wait hwait) hsite)
      (hadmits.inner hwait).1 ?_
    rw [hinner]
    exact Faults.ok
  · exact fun hwait => stepAction_reports hunreserved hkept (hadmits.own hwait) hsite

/-- A statement that has taken its step has a type on the page, and is not bare. -/
theorem MethodStep.placed {before after : Trail} {rest : List Statement} {b : Built Expression}
    (hunreserved : frame.Unreserved) (hkept : s.Kept)
    (h : frame.MethodStep count i before s rest b after) : ¬ s.Unplaced frame.page := by
  obtain ⟨site, hsite, hstep⟩ := h
  obtain ⟨hdeclared, -⟩ := siteOf_eq_ok hsite
  rintro (⟨t, ht⟩ | hbare)
  · exact absurd (hdeclared.symm.trans ht) (by simp)
  · obtain ⟨hwait, -⟩ | ⟨-, b', hstep', -⟩ := composeStatement_cases hstep
    · exact Statement.not_bare_of_wait hwait hbare
    · obtain ⟨name, -, herror⟩ := stepAction_of_bare hunreserved hbare (hkept.chain_of_bare hbare)
      exact absurd (hstep'.symm.trans herror) (by simp)

theorem returnType_eq_error {b : Built Expression} (h : frame.returnType b = .error e) :
    e = .returnType frame.method b.index frame.methodReturn b.returnType := by
  unfold returnType at h
  split at h
  · exact absurd h (by simp)
  · split at h
    · exact absurd h (by simp)
    · split at h
      · exact absurd h (by simp)
      · exact (Except.error.inj h).symm

/-- **What is reported where a composition stops**: a fault of the statement or the type that it returns, with
its place; the type that it declares, or the element that it is nothing but, without. -/
theorem StopsAt.reports (h : frame.StopsAt ss e s i inPredicate) (hunreserved : frame.Unreserved)
    (hkept : ∀ s ∈ ss, s.Kept)
    (hadmits : ∀ s ∈ ss, frame.Admits (fun name => name = "self" ∨ name = "document") s) :
    frame.Reports s i inPredicate e := by
  cases h with
  | own harrives hown hrefused =>
    have hmem := List.mem_of_getElem? harrives.getElem?.2
    exact stepAt_reports hunreserved (hkept _ hmem) (hadmits _ hmem) hown e hrefused
  | inside harrives hsite hwait hinner hrefused =>
    have hmem := List.mem_of_getElem? harrives.getElem?.2
    have hmem' := List.mem_of_getElem? hinner.getElem?.2
    exact predicateStepAt_reports hunreserved ((hkept _ hmem).of_inner hmem')
      (((hadmits _ hmem).inner hwait).2 _ hmem') e hrefused
  | @last s bs b ps hs hcomposed hb hrefused =>
    obtain rfl := returnType_eq_error hrefused
    obtain ⟨trail, hwalk, -⟩ := composeSequence_threaded hcomposed
    -- the last statement has taken its step, so it knows its index and nothing is wrong with its place
    rw [List.getLast?_eq_getElem?] at hs hb
    obtain ⟨before, b', after, hb', hstep, -⟩ :=
      hwalk.step_at (fun _ => True) trivial (fun _ _ => trivial) hs
    rw [hwalk.length_eq, hb'] at hb
    obtain rfl := Option.some.inj hb
    rw [Nat.zero_add] at hstep
    obtain ⟨ds, hdeclares⟩ := hstep.declares
    rw [hdeclares.index_eq]
    exact .returnType (hstep.placed hunreserved (hkept s (List.mem_of_getElem? hs))) rfl

end Frame

end PageObjects
