import PageObjects.Proofs.Compose.Last

/-!
# Inferred types

A method that declares no type is of the type of its last statement. To declare that type changes
nothing: the type then reaches the last statement, where it takes part in the checks, in the type of a
call without catalog, in the decision whether the value is dropped and, for a wait, whether it is
bound. All of these come out as they did without a declaration, because the type is what they came to.
The specification (4.2) says of the return of a method that it is the last resolved type where none is
declared.

* `Frame.expression_inferred`, `Frame.conclude_inferred`: the stages of a statement.
* `Frame.composeUnder_inferred`: a statement that is not chained on.
* **`compose_inferred`**: the inferred type of a method is a fixed point.
-/

namespace PageObjects

variable {frame : Frame} {site : Site} {s : Statement} {lookups : Lookups}

/-! ## Values -/

/-- What an invocation yields without a declaration fits itself. -/
theorem Frame.checkType_self {resolved : ResultType} {subject : Subject} :
    frame.checkType site resolved subject resolved = .ok () :=
  Frame.checkType_eq_ok.mpr (Or.inr (Or.inr (ResultType.same_refl resolved)))

/-- A call on a list yields nothing if its invocations do. -/
theorem spreadOf_void {r : Receiver} : (spreadOf site r .void).2 = .void := by
  unfold spreadOf
  split <;> rfl

theorem Frame.invocationType_unset {name : String} {a : Action} :
    frame.invocationType site name .unset (some a) = .ok a.returns := by
  simp [Frame.invocationType, ResultType.isUnset]

theorem Frame.invocationType_inferred {name : String} {r : Receiver} {action : Option Action}
    {invocation : ResultType} (h : frame.invocationType site name .unset action = .ok invocation) :
    frame.invocationType site name (spreadOf site r invocation).2 action = .ok invocation := by
  cases action with
  | none =>
    -- without catalog and declaration there is no value
    obtain rfl : .void = invocation := Except.ok.inj h
    rw [spreadOf_void]
    rfl
  | some a =>
    obtain rfl := Except.ok.inj (Frame.invocationType_unset.symm.trans h)
    unfold Frame.invocationType
    cases hvoid : a.returns.isVoid with
    | false => simp [hvoid]
    | true =>
      rw [ResultType.isVoid_iff.mp hvoid, spreadOf_void]
      simp [ResultType.isVoid, ResultType.discards, ResultType.isVoid_iff.mp hvoid]

/-- **The type of an expression can be asked for.** -/
theorem Frame.expression_inferred {r : Receiver} {value : Simple} {resolved : ResultType}
    {ps : List Parameter} (h : frame.expression site s r .unset = .ok (value, resolved, ps)) :
    frame.expression site s r resolved = .ok (value, resolved, ps) := by
  unfold Frame.expression at h ⊢
  cases hname : s.action with
  | none =>
    simp only [hname, bind_eq_ok, pure_eq_ok, Prod.mk.injEq] at h ⊢
    obtain ⟨element, helement, u, -, rfl, rfl, rfl⟩ := h
    exact ⟨element, helement, (), Frame.checkType_self, rfl, rfl, rfl⟩
  | some name =>
    simp only [hname, bind_eq_ok] at h ⊢
    obtain ⟨action, haction, operands, hoperands, u, hcheck, invocation, hinvocation, h⟩ := h
    have hresolved : (spreadOf site r invocation).2 = resolved := by
      split at h
      · obtain ⟨u, -, h⟩ := bind_eq_ok.mp h
        exact (Prod.mk.inj (Prod.mk.inj (pure_eq_ok.mp h)).2).1
      · exact (Prod.mk.inj (Prod.mk.inj (pure_eq_ok.mp h)).2).1
    subst hresolved
    refine ⟨action, haction, operands, hoperands, u, hcheck, invocation,
      Frame.invocationType_inferred hinvocation, ?_⟩
    simp only [Frame.checkType_self]
    exact h

/-- A statement concludes in the same way under the type to which it has come. -/
theorem Frame.conclude_inferred {lookup : List (Line Simple)} {value : Simple}
    {resolved : ResultType} {own ps : List Parameter} {b : Built Simple}
    (hresolved : resolved.Yieldable)
    (h : frame.conclude site .unset s lookup value resolved own = .ok (b, ps)) :
    (s.matcher = none → b.returnType = resolved) ∧
      frame.conclude site b.returnType s lookup value resolved own = .ok (b, ps) := by
  unfold Frame.conclude at h ⊢
  cases hmatcher : s.matcher with
  | none =>
    simp only [hmatcher] at h ⊢
    obtain ⟨rfl, rfl⟩ := Prod.mk.inj (Except.ok.inj h)
    rcases hresolved with rfl | hholds
    · exact ⟨fun _ => rfl, rfl⟩
    · -- a value is bound, and its type is that of the statement
      cases resolved with
      | named type => exact ⟨fun _ => rfl, rfl⟩
      | list element returnAll => exact ⟨fun _ => rfl, rfl⟩
      | _ => exact absurd hholds Bool.false_ne_true
  | some m =>
    simp only [hmatcher, bind_eq_ok] at h ⊢
    obtain ⟨judged, hjudged, h⟩ := h
    obtain rfl : judged = (b, ps) := Except.ok.inj h
    obtain ⟨variableName, kind, operands, -, -, -, rfl⟩ := Frame.applyMatcher_eq_ok hjudged
    exact ⟨fun hnone => absurd hnone (by simp), _, hjudged, rfl⟩

/-! ## Statements -/

theorem Frame.act_inferred {b : Built Simple} {after : Lookups} {ps : List Parameter}
    (h : frame.act site .unset lookups s = .ok (b, after, ps)) :
    frame.act site b.returnType lookups s = .ok (b, after, ps) := by
  unfold Frame.act at h ⊢
  split at h
  · exact absurd h Frame.fail_ne_ok
  · rename_i hplace
    rw [if_neg hplace]
    simp only [bind_eq_ok, ite_self] at h ⊢
    obtain ⟨⟨r, lookup, after'⟩, hreach, ⟨value, resolved, own⟩, hexpression, h⟩ := h
    obtain ⟨⟨b', ps'⟩, hconclude, he⟩ := map_eq_ok.mp h
    obtain ⟨rfl, rfl, rfl⟩ := by simpa using he
    obtain ⟨hown, hconclude'⟩ :=
      Frame.conclude_inferred (Frame.expression_evaluates hexpression).yieldable hconclude
    refine ⟨_, hreach, (value, resolved, own), ?_, map_eq_ok.mpr ⟨_, hconclude', rfl⟩⟩
    split
    · exact hexpression
    · rename_i hmatcher
      rw [hown (by simpa using hmatcher)]
      exact Frame.expression_inferred hexpression

/-- A wait that is not chained on binds nothing without a declaration, and nothing under the type of
no value. -/
theorem Frame.await_inferred {trail after : Trail} {b : Built Expression}
    (h : frame.await site .unset trail s false = .ok (b, after)) :
    frame.await site b.returnType trail s false = .ok (b, after) := by
  unfold Frame.await at h ⊢
  split at h
  · exact absurd h (by simp [Frame.fail, bind, Except.bind])
  · rename_i hinner
    rw [if_neg hinner]
    simp only [bind_eq_ok, pure_eq_ok] at h ⊢
    obtain ⟨⟨inner, ps⟩, hpredicate, u, -, he⟩ := h
    obtain ⟨rfl, rfl⟩ := Prod.mk.inj he
    exact ⟨(inner, ps), hpredicate, (), Frame.checkType_eq_ok.mpr (Or.inr (Or.inl rfl)), rfl⟩

/-- **The type of a statement can be asked for**, where no statement chains on its value. -/
theorem Frame.composeUnder_inferred {trail after : Trail} {b : Built Expression}
    (h : frame.composeUnder site .unset trail s false = .ok (b, after)) :
    frame.composeUnder site b.returnType trail s false = .ok (b, after) := by
  unfold Frame.composeUnder at h ⊢
  cases hwait : s.isWait with
  | true =>
    simp only [hwait, if_true, bind_eq_ok, pure_eq_ok] at h ⊢
    obtain ⟨⟨b', after'⟩, hawait, he⟩ := h
    obtain ⟨rfl, rfl⟩ := Prod.mk.inj he
    exact ⟨(b', after'), Frame.await_inferred hawait, rfl⟩
  | false =>
    simp only [hwait, Bool.false_eq_true, if_false, bind_eq_ok, pure_eq_ok] at h ⊢
    obtain ⟨⟨b', lookups', more⟩, hact, ps, hcollect, _, rfl, he⟩ := h
    obtain ⟨rfl, rfl⟩ := Prod.mk.inj he
    exact ⟨(b', lookups', more), Frame.act_inferred hact, ps, hcollect, _, rfl, rfl⟩

/-! ## Methods -/

/-- **The inferred type of a method is a fixed point.** To declare it changes neither the statements
nor the parameters, and the method is of that type. -/
theorem compose_inferred {ss : List Statement} {c : Composition}
    (hreturn : frame.methodReturn = .unset) (hvalue : frame.requiresValue = false)
    (h : compose frame ss = .ok c) :
    compose { frame with methodReturn := c.returnType } ss = .ok c := by
  change compose (frame.returning c.returnType) ss = .ok c
  rcases List.eq_nil_or_concat ss with rfl | ⟨init, s, rfl⟩
  · exact absurd h (by simp [compose, Frame.composeSequence, bind, Except.bind])
  rw [List.concat_eq_append, compose_concat] at h ⊢
  obtain ⟨front, hfront, hlast⟩ := bind_eq_ok.mp h
  rw [Frame.composeFront_returning (by omega), hfront, ok_bind]
  unfold Frame.composeLast at hlast ⊢
  simp only [bind_eq_ok, pure_eq_ok] at hlast ⊢
  obtain ⟨site, hsite, ⟨b, after⟩, hstatement, t, ht, rfl⟩ := hlast
  -- without a declaration the method is of the type of its last statement
  obtain rfl : t = b.returnType := by
    simpa [Frame.returnType, hvalue, hreturn, ResultType.isUnset, eq_comm] using ht
  refine ⟨site, hsite, (b, after), ?_, b.returnType, ?_, rfl⟩
  · obtain ⟨-, -, -, -, hlast, -⟩ := Frame.siteOf_eq_ok hsite
    have hisLast : site.isLast = true := by simp [hlast]
    cases hdeclares : site.declares with
    | true =>
      rw [Frame.composeStatement_returning (Or.inr hdeclares)]
      exact hstatement
    | false =>
      rw [Frame.composeStatement_eq_under, hreturn,
        Site.requiredType_of_isLast hisLast hdeclares] at hstatement
      rw [Frame.composeStatement_eq_under]
      have hrequired : site.requiredType .unset (frame.returning b.returnType).methodReturn =
          b.returnType := Site.requiredType_of_isLast hisLast hdeclares
      rw [hrequired]
      calc (frame.returning b.returnType).composeUnder site b.returnType front.2 s false
          = frame.composeUnder site b.returnType front.2 s false :=
            Frame.composeUnder_alike s.returnType fun _ => Or.inl rfl
        _ = .ok (b, after) := Frame.composeUnder_inferred hstatement
  · unfold Frame.returnType
    have hown : (frame.returning b.returnType).requiresValue = false := hvalue
    have hmethod : (frame.returning b.returnType).methodReturn = b.returnType := rfl
    rw [hown, hmethod, ResultType.same_refl]
    simp

/-- A method that reads the text of every link of a page. -/
def readLinks : Frame × List Statement :=
  (clickLinks.1, [{ element := some "links" }, { action := some "getText", chain := true }])

/-- Nothing is declared, and the method is of the type of lists of texts. -/
theorem readLinks_composed : ∃ c, compose readLinks.1 readLinks.2 = .ok c ∧
    c.returnType = .list .string false := by
  have hok : (compose readLinks.1 readLinks.2).toOption.any
      (fun c => c.returnType == .list .string false) = true := by decide
  obtain ⟨c, hc, htype⟩ := exists_eq_ok hok
  exact ⟨c, hc, by simpa using htype⟩

theorem readLinks_inferred : ∃ c, compose readLinks.1 readLinks.2 = .ok c ∧
    c.returnType = .list .string false ∧
    compose { readLinks.1 with methodReturn := c.returnType } readLinks.2 = .ok c := by
  obtain ⟨c, hc, htype⟩ := readLinks_composed
  exact ⟨c, hc, htype, compose_inferred rfl rfl hc⟩

end PageObjects
