import PageObjects.Proofs.Compose.Honoured

/-!
# The last statement

The type that a method declares reaches its last statement alone, and there only as the type that the
statement has to have, as a declaration of its own would be. So a statement is composed here under a
type that is handed to it, and a method is taken apart into its last statement and those in front.

* `Frame.act`, `Frame.await`, `Frame.composeUnder`: a statement under the type that it has to have.
* `Frame.composeUnder_alike`: under that type, neither the declaration of the method nor that of the
  statement has any bearing, except where the latter decides how lists are put together.
* `Frame.composeFront_returning`: the statements in front do not depend on the type of the method.
* `compose_concat`: a method is its front, and then its last statement.
-/

namespace PageObjects

variable {frame : Frame} {site : Site} {s : Statement} {lookups : Lookups}

/-! ## Declarations set -/

/-- The method with another declared type. -/
def Frame.returning (frame : Frame) (t : ResultType) : Frame := { frame with methodReturn := t }

/-- The site with another declaration. -/
def Site.declaring (site : Site) (t : ResultType) (all : Bool) : Site :=
  { site with declared := t, returnAll := all }

/-- The statement with another declaration. -/
def Statement.declaring (s : Statement) (keyword? : Option String) (all : Bool) : Statement :=
  { s with returnType := keyword?, returnAll := all }

/-! ## Actions under a type -/

/-- What a statement is called on, the line that looks it up, and the look-ups after it. A statement
without action looks nothing up. -/
def Frame.reach (frame : Frame) (site : Site) (lookups : Lookups) (s : Statement) :
    Except ComposeError (Receiver × List (Line Simple) × Lookups) :=
  if s.action.isNone then
    (frame.elementReceiver site lookups s).map fun found => (found.1, [], lookups)
  else frame.receiver site lookups s

/-- The statement of a value under the type that it has to have, with the verdict of its matcher. -/
def Frame.conclude (frame : Frame) (site : Site) (required : ResultType) (s : Statement)
    (lookup : List (Line Simple)) (value : Simple) (resolved : ResultType)
    (parameters : List Parameter) : Except ComposeError (Built Simple × List Parameter) :=
  let own := if s.matcher.isSome then .unset else required
  let built := emit site lookup value resolved own (!own.discards && !resolved.isVoid)
  match s.matcher with
  | none => .ok (built, parameters)
  | some m => do
    let judged ← frame.applyMatcher site m built parameters
    if !required.isUnset && !required.same .boolean then
      frame.fail site (.conflict required (.matcher m.type) .boolean)
    else .ok judged

/-- Composes a statement that is no wait under the type that it has to have. -/
def Frame.act (frame : Frame) (site : Site) (required : ResultType) (lookups : Lookups)
    (s : Statement) : Except ComposeError (Built Simple × Lookups × List Parameter) :=
  if s.chain && site.inPredicate then frame.fail site .chainInPredicate
  else do
    let (r, lookup, after) ← frame.reach site lookups s
    let (value, resolved, parameters) ←
      frame.expression site s r (if s.matcher.isSome then .unset else required)
    (frame.conclude site required s lookup value resolved parameters).map fun (built, parameters) =>
      (built, after, parameters)

/-- An action is composed under the type of its site. -/
theorem Frame.composeAction_eq_act :
    frame.composeAction site lookups s =
      frame.act site (site.requiredType .unset frame.methodReturn) lookups s := by
  unfold composeAction act
  split
  · rfl
  · simp only
    rw [ite_bind]
    unfold reach
    refine congrArg _ (funext fun ⟨r, lookup, after⟩ =>
      congrArg _ (funext fun ⟨value, resolved, parameters⟩ => ?_))
    unfold conclude
    cases hm : s.matcher with
    | none => rfl
    | some m =>
      simp only
      cases frame.applyMatcher site m _ parameters with
      | error e => rfl
      | ok judged =>
        simp only [ok_bind]
        split
        · rfl
        · rfl

section Alike

variable {t d : ResultType} {all : Bool}

@[simp] theorem Frame.reach_alike {keyword? : Option String} :
    (frame.returning t).reach (site.declaring d all) lookups (s.declaring keyword? all) =
      frame.reach site lookups s := rfl

@[simp] theorem Frame.actionOf_alike {name : String} {r : Receiver} :
    (frame.returning t).actionOf (site.declaring d all) name r = frame.actionOf site name r := rfl

@[simp] theorem Frame.checkType_alike {required actual : ResultType} {subject : Subject} :
    (frame.returning t).checkType (site.declaring d all) required subject actual =
      frame.checkType site required subject actual := rfl

@[simp] theorem Frame.invocationType_alike {name : String} {required : ResultType}
    {action : Option Action} :
    (frame.returning t).invocationType (site.declaring d all) name required action =
      frame.invocationType site name required action := rfl

theorem Frame.alike_declaring : frame.Alike site (frame.returning t) (site.declaring d all) :=
  ⟨rfl, rfl, rfl⟩

@[simp] theorem Frame.operands_alike {args : List Argument} {ps : List Parameter} :
    (frame.returning t).operands (site.declaring d all) ps args = frame.operands site ps args :=
  alike_declaring.operands

@[simp] theorem Frame.checkOperands_alike {given : List Operand} {action : Option Action} :
    (frame.returning t).checkOperands (site.declaring d all) given action =
      frame.checkOperands site given action :=
  alike_declaring.checkOperands

@[simp] theorem Frame.applyMatcher_alike {m : Matcher} {b : Built Simple} {ps : List Parameter} :
    (frame.returning t).applyMatcher (site.declaring d all) m b ps =
      frame.applyMatcher site m b ps :=
  alike_declaring.applyMatcher

theorem Frame.conclude_alike {keyword? : Option String} {required resolved : ResultType}
    {lookup : List (Line Simple)} {value : Simple} {ps : List Parameter} :
    (frame.returning t).conclude (site.declaring d all) required (s.declaring keyword? all) lookup
      value resolved ps = frame.conclude site required s lookup value resolved ps := by
  unfold Frame.conclude
  simp only [applyMatcher_alike]
  rfl

/-- Only lists of lists are put together as a site asks for. -/
theorem spreadOf_alike {site' : Site} {r : Receiver} {u : ResultType}
    (h : r.isList = false ∨ u.isList = false) : spreadOf site' r u = spreadOf site r u := by
  cases r with
  | page => rfl
  | document => rfl
  | value variableName name type isList isChain =>
    cases isList with
    | false => rfl
    | true =>
      cases u with
      | list element returnAll => simp [Receiver.isList, ResultType.isList] at h
      | _ => rfl

/-- Only a call without catalog makes a list of an invocation: the one that it has to be. -/
theorem Frame.invocationType_of_isList {name : String} {required u : ResultType}
    {action : Option Action} (hreturns : ∀ a, action = some a → a.returns ∈ Action.returnTypes)
    (h : frame.invocationType site name required action = .ok u) (hlist : u.isList = true) :
    action = none ∧ u = required := by
  unfold Frame.invocationType at h
  split at h
  · obtain rfl := Except.ok.inj h
    split at hlist
    · exact absurd hlist (by simp [ResultType.isList])
    · rename_i hkept
      exact ⟨rfl, if_neg hkept⟩
  · rename_i a
    split at h
    · exact absurd h Frame.fail_ne_ok
    · obtain rfl := Except.ok.inj h
      have hmem := hreturns a rfl
      simp only [Action.returnTypes, List.mem_cons, List.not_mem_nil, or_false] at hmem
      rcases hmem with hr | hr | hr | hr <;> rw [hr] at hlist <;> exact absurd hlist (by decide)

/-- An expression depends on the declaration of its statement in the lists of lists of a call without
catalog alone. -/
theorem Frame.expression_alike {keyword? : Option String} {r : Receiver} {required : ResultType}
    (h : all = site.returnAll ∨ ∀ name, s.action = some name →
      frame.actionOf site name r = .ok none → r.isList = false ∨ required.isList = false) :
    (frame.returning t).expression (site.declaring d all) (s.declaring keyword? all) r required =
      frame.expression site s r required := by
  unfold Frame.expression
  have haction : (s.declaring keyword? all).action = s.action := rfl
  rw [haction]
  cases hname : s.action with
  | none => rfl
  | some name =>
    simp only [actionOf_alike, operands_alike, checkOperands_alike, invocationType_alike,
      checkType_alike]
    cases hof : frame.actionOf site name r with
    | error e => rfl
    | ok action =>
      have hargs : (s.declaring keyword? all).args = s.args := rfl
      simp only [ok_bind, hargs]
      refine congrArg _ (funext fun ⟨operands, ps⟩ => congrArg _ (funext fun _ => ?_))
      cases hinvocation : frame.invocationType site name required action with
      | error e => rfl
      | ok u =>
        -- only the way in which invocations are put together reads the declaration
        have hspread : spreadOf (site.declaring d all) r u = spreadOf site r u := by
          rcases h with rfl | h
          · rfl
          · refine spreadOf_alike ?_
            by_cases hlist : u.isList = true
            · obtain ⟨rfl, rfl⟩ := Frame.invocationType_of_isList
                (fun a ha => Frame.actionOf_returns (ha ▸ hof)) hinvocation hlist
              exact h name hname hof
            · exact Or.inr (by simpa using hlist)
        simp only [ok_bind, hspread]

/-- **An action under a type does not depend on declarations**, with the exception of those lists. -/
theorem Frame.act_alike (keyword? : Option String) {required : ResultType}
    (h : all = site.returnAll ∨ ∀ name r lookup after, s.action = some name →
      frame.receiver site lookups s = .ok (r, lookup, after) →
      frame.actionOf site name r = .ok none →
      s.matcher ≠ none ∨ r.isList = false ∨ required.isList = false) :
    (frame.returning t).act (site.declaring d all) required lookups (s.declaring keyword? all) =
      frame.act site required lookups s := by
  unfold Frame.act
  rw [reach_alike]
  cases hreach : frame.reach site lookups s with
  | error e => rfl
  | ok found =>
    obtain ⟨r, lookup, after⟩ := found
    have hexpression : (frame.returning t).expression (site.declaring d all)
        (s.declaring keyword? all) r (if s.matcher.isSome then .unset else required) =
        frame.expression site s r (if s.matcher.isSome then .unset else required) := by
      refine Frame.expression_alike (h.imp_right fun h name hname hof => ?_)
      unfold Frame.reach at hreach
      rw [hname] at hreach
      -- under a matcher the type goes to the verdict, and nothing is asked of the call
      rcases h name r lookup after hname hreach hof with hmatcher | hother
      · rw [if_pos (Option.isSome_iff_ne_none.mpr hmatcher)]
        exact Or.inr rfl
      · split
        · exact Or.inr rfl
        · exact hother
    have hmatcher : (s.declaring keyword? all).matcher = s.matcher := rfl
    simp only [ok_bind, hmatcher, hexpression, conclude_alike]
    rfl

/-! ## Waits under a type -/

/-- Composes a wait under the type that it has to have. -/
def Frame.await (frame : Frame) (site : Site) (required : ResultType) (trail : Trail)
    (s : Statement) (chained : Bool) : Except ComposeError (Built Expression × Trail) := do
  if s.inner.isEmpty then frame.fail site .emptyPredicate
  let (inner, parameters) ← frame.composePredicate trail.parameters s.inner
  frame.checkType site required .wait (predicateType inner)
  let built := emit site [] (.wait (inner.flatMap Built.lines) (predicateResult inner))
    (predicateType inner) required (chained || (!required.isUnset && !required.discards))
  return ({ built with isWait := true },
    { trail with previous := some built.returnType, parameters })

theorem Frame.composeWait_eq_await {trail : Trail} {chained : Bool} :
    frame.composeWait site trail s chained =
      frame.await site (site.requiredType .unset frame.methodReturn) trail s chained := rfl

theorem Site.requiredType_returning {u : ResultType}
    (h : site.isLast = false ∨ site.declares = true) :
    site.requiredType .unset t = site.requiredType .unset u := by
  unfold Site.requiredType
  rcases h with hlast | hdeclares
  · simp [hlast]
  · rw [if_pos hdeclares, if_pos hdeclares]

/-- A last statement that declares no type has to be of that of the method. -/
theorem Site.requiredType_of_isLast {t : ResultType} (hlast : site.isLast = true)
    (hdeclares : site.declares = false) : site.requiredType .unset t = t := by
  unfold Site.requiredType
  cases t <;> simp [hlast, hdeclares, ResultType.isUnset]

/-- On a statement of another place than the last, and on one that declares its own type, the type of
the method has no bearing. -/
theorem Frame.composeAction_returning (h : site.isLast = false ∨ site.declares = true) :
    (frame.returning t).composeAction site lookups s = frame.composeAction site lookups s := by
  have hrequired : site.requiredType .unset t = site.requiredType .unset frame.methodReturn :=
    Site.requiredType_returning h
  calc (frame.returning t).composeAction site lookups s
      = (frame.returning t).act site (site.requiredType .unset t) lookups s :=
        Frame.composeAction_eq_act
    _ = frame.act site (site.requiredType .unset t) lookups s :=
        Frame.act_alike s.returnType (Or.inl rfl)
    _ = frame.composeAction site lookups s := by rw [hrequired, Frame.composeAction_eq_act]

theorem Frame.stepAction_returning {trail : Trail}
    (h : site.isLast = false ∨ site.declares = true) :
    (frame.returning t).stepAction site trail s = frame.stepAction site trail s := by
  unfold Frame.stepAction
  rw [Frame.composeAction_returning h]
  rfl

/-- A predicate does not depend on the type of the method. -/
theorem Frame.composePredicateFrom_returning {count : Nat} :
    ∀ {ss : List Statement} {index : Nat} {trail : Trail},
      (frame.returning t).composePredicateFrom count index trail ss =
        frame.composePredicateFrom count index trail ss
  | [], _, _ => rfl
  | s :: rest, index, trail => by
    have hsite : (frame.returning t).siteOf true count index trail.previous s =
        frame.siteOf true count index trail.previous s := rfl
    simp only [Frame.composePredicateFrom, hsite]
    cases hsiteOf : frame.siteOf true count index trail.previous s with
    | error e => rfl
    | ok site =>
      obtain ⟨-, -, -, -, hlast, -⟩ := Frame.siteOf_eq_ok hsiteOf
      simp only [ok_bind, Frame.stepAction_returning (Or.inl hlast),
        composePredicateFrom_returning]
      rfl

theorem Frame.await_alike {keyword? : Option String} {required : ResultType} {trail : Trail}
    {chained : Bool} :
    (frame.returning t).await (site.declaring d all) required trail (s.declaring keyword? all)
      chained = frame.await site required trail s chained := by
  have hpredicate : (frame.returning t).composePredicate trail.parameters
      (s.declaring keyword? all).inner = frame.composePredicate trail.parameters s.inner :=
    Frame.composePredicateFrom_returning
  unfold Frame.await
  simp only [hpredicate, Frame.checkType_alike]
  rfl

end Alike

/-! ## Statements of a method -/

/-- Composes one statement of a method under the type that it has to have. -/
def Frame.composeUnder (frame : Frame) (site : Site) (required : ResultType) (trail : Trail)
    (s : Statement) (chained : Bool) : Except ComposeError (Built Expression × Trail) := do
  let (built, trail) ←
    if s.isWait then frame.await site required trail s chained
    else do
      let (built, lookups, more) ← frame.act site required trail.lookups s
      let parameters ← frame.collect site trail.parameters more
      pure (built.map .simple, { lookups, previous := some built.returnType, parameters })
  return (frame.finish built, trail)

/-- A statement is composed under the type of its site. -/
theorem Frame.composeStatement_eq_under {trail : Trail} {chained : Bool} :
    frame.composeStatement site trail s chained =
      frame.composeUnder site (site.requiredType .unset frame.methodReturn) trail s chained := by
  unfold Frame.composeStatement Frame.composeUnder Frame.stepAction
  rw [Frame.composeAction_eq_act, Frame.composeWait_eq_await]
  split
  · rfl
  · cases frame.act site (site.requiredType .unset frame.methodReturn) trail.lookups s with
    | error e => rfl
    | ok found =>
      simp only [ok_bind]
      cases frame.collect site trail.parameters found.2.2 <;> rfl

/-- **What a statement of a method does not depend on**, under a type that is handed to it: the type
that the method declares, and the declaration of the statement, except where the declaration decides
how the lists of a call without catalog are put together. -/
theorem Frame.composeUnder_alike (keyword? : Option String) {t d required : ResultType} {all : Bool}
    {trail : Trail} {chained : Bool}
    (h : s.isWait = false → all = site.returnAll ∨ ∀ name r lookup after, s.action = some name →
      frame.receiver site trail.lookups s = .ok (r, lookup, after) →
      frame.actionOf site name r = .ok none →
      s.matcher ≠ none ∨ r.isList = false ∨ required.isList = false) :
    (frame.returning t).composeUnder (site.declaring d all) required trail
      (s.declaring keyword? all) chained = frame.composeUnder site required trail s chained := by
  have hwait : (s.declaring keyword? all).isWait = s.isWait := rfl
  unfold Frame.composeUnder
  rw [hwait, Frame.await_alike]
  cases hs : s.isWait with
  | true => rfl
  | false => rw [Frame.act_alike keyword? (h hs)]; rfl

theorem Frame.composeStatement_returning {t : ResultType} {trail : Trail} {chained : Bool}
    (h : site.isLast = false ∨ site.declares = true) :
    (frame.returning t).composeStatement site trail s chained =
      frame.composeStatement site trail s chained := by
  have hrequired : site.requiredType .unset t = site.requiredType .unset frame.methodReturn :=
    Site.requiredType_returning h
  calc (frame.returning t).composeStatement site trail s chained
      = (frame.returning t).composeUnder site (site.requiredType .unset t) trail s chained :=
        Frame.composeStatement_eq_under
    _ = frame.composeUnder site (site.requiredType .unset t) trail s chained :=
        Frame.composeUnder_alike s.returnType fun _ => Or.inl rfl
    _ = frame.composeStatement site trail s chained := by
        rw [hrequired, Frame.composeStatement_eq_under]

/-! ## The two parts of a method -/

/-- Composes statements in front of the last one of `count`: what they become, and the trail after
them. `next` says that the last statement chains. -/
def Frame.composeFront (frame : Frame) (count : Nat) (next : Bool) : Nat → Trail → List Statement →
    Except ComposeError (List (Built Expression) × Trail)
  | _, trail, [] => .ok ([], trail)
  | index, trail, s :: rest => do
    let site ← frame.siteOf false count index trail.previous s
    let (built, trail) ←
      frame.composeStatement site trail s ((rest.head?.map Statement.chain).getD next)
    let (others, trail) ← composeFront frame count next (index + 1) trail rest
    return (built :: others, trail)

/-- Composes the last statement, at an index, and with it the method. -/
def Frame.composeLast (frame : Frame) (index : Nat) (front : List (Built Expression) × Trail)
    (s : Statement) : Except ComposeError Composition := do
  let site ← frame.siteOf false (index + 1) index front.2.previous s
  let (last, trail) ← frame.composeStatement site front.2 s false
  let returnType ← frame.returnType last
  return { statements := front.1 ++ [last], returnType, parameters := trail.parameters }

/-- The part in front does not depend on the type that the method declares. -/
theorem Frame.composeFront_returning {t : ResultType} {count : Nat} {next : Bool} :
    ∀ {init : List Statement} {index : Nat} {trail : Trail}, index + init.length < count →
      (frame.returning t).composeFront count next index trail init =
        frame.composeFront count next index trail init
  | [], _, _, _ => rfl
  | s :: rest, index, trail, hlength => by
    rw [List.length_cons] at hlength
    have hsite : (frame.returning t).siteOf false count index trail.previous s =
        frame.siteOf false count index trail.previous s := rfl
    simp only [Frame.composeFront, hsite]
    cases hsiteOf : frame.siteOf false count index trail.previous s with
    | error e => rfl
    | ok site =>
      obtain ⟨-, -, -, -, hlast, -⟩ := Frame.siteOf_eq_ok hsiteOf
      have hfront : site.isLast = false := by
        have hne : index + 1 ≠ count := by omega
        simp [hlast, hne]
      have hrest : index + 1 + rest.length < count := by omega
      simp only [ok_bind, Frame.composeStatement_returning (Or.inl hfront),
        composeFront_returning hrest]

/-- A sequence is its front, and then its last statement. -/
theorem Frame.composeSequence_concat {count : Nat} {s : Statement} :
    ∀ {init : List Statement} {index : Nat} {trail : Trail},
      frame.composeSequence count index trail (init ++ [s]) =
        frame.composeFront count s.chain index trail init >>= fun front => do
          let site ← frame.siteOf false count (index + init.length) front.2.previous s
          let (last, trail) ← frame.composeStatement site front.2 s false
          return (front.1 ++ [last], trail.parameters)
  | [], index, trail => by
    simp only [List.nil_append, Frame.composeSequence, Frame.composeFront, ok_bind,
      List.length_nil, Nat.add_zero, List.head?_nil, Option.map_none, Option.getD_none]
  | x :: rest, index, trail => by
    have hnext : ((rest ++ [s]).head?.map Statement.chain).getD false =
        (rest.head?.map Statement.chain).getD s.chain := by
      cases rest <;> rfl
    have hindex : index + 1 + rest.length = index + (x :: rest).length := by
      rw [List.length_cons]; omega
    simp only [List.cons_append, Frame.composeSequence, Frame.composeFront, hnext,
      composeSequence_concat, hindex, bind_assoc, pure_bind]

/-- **A method is its front, and then its last statement.** -/
theorem compose_concat {init : List Statement} {s : Statement} :
    compose frame (init ++ [s]) =
      frame.composeFront (init.length + 1) s.chain 0 {} init >>= fun front =>
        frame.composeLast init.length front s := by
  unfold compose Frame.composeLast
  rw [Frame.composeSequence_concat]
  simp only [List.length_append, List.length_singleton, Nat.zero_add, bind_assoc, pure_bind,
    List.getLast?_append, List.getLast?_singleton, Option.some_or]

end PageObjects
