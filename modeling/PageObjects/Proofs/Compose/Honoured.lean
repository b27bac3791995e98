import PageObjects.Proofs.Compose.Return

/-!
# Declared types

A statement may declare the type of its value. The declaration is checked in four places, and what is
bound is decided apart from the checks: an element on its own and a call of a catalog are checked
against it, a call without catalog takes its type from it, a matcher leaves it to the verdict, and a
wait is checked against the value of its predicate. Together they honour the declaration wherever it
says what one invocation yields. A call without catalog on each value of a list is no such place:
there the declaration is the type of each value of the result. This is what step 3 of the Compose
Method Builder says of declarations (specification, 4.2).

The value of a wait is bound for the next statement that chains on it, even where the wait declares
that its value is dropped.

* `Frame.Settles`: the declarations that are the type of the whole statement.
* `Frame.composeAction_honours`, `Frame.composeWait_honours`: one statement.
* **`compose_honours`**: every statement of a composed method and of its predicates is of the type
  that it declares.
-/

namespace PageObjects

/-! ## Declarations -/

namespace ResultType

/-- A list of values without catalog of actions. -/
def isListWithoutActions : ResultType → Bool
  | .list (.named type) _ => !type.isBasicElement
  | _ => false

theorem discards_of_same {a b : ResultType} (h : a.same b = true) : a.discards = b.discards := by
  cases a <;> cases b <;> simp_all [same, discards, isVoid, isSelf]

end ResultType

/-- The statement declares a type of its value. -/
def Frame.DeclaresType (frame : Frame) (s : Statement) (declared : ResultType) : Prop :=
  frame.page.resolve s.returnType s.returnAll = .ok declared ∧ declared.isUnset = false

/-- The type of the value that a statement is called on, after a value of the type `previous`; none
for the page object and the document. -/
def Frame.calledOn (frame : Frame) (previous : Option ResultType) (s : Statement) :
    Option ResultType :=
  if s.chain then previous
  else
    match s.element.or frame.defaultElement with
    | none => none
    | some name =>
      if name == "self" || name == "document" then none
      else (frame.page.find? name).map PageElement.returnType

/-- The declared type is that of the whole statement: the statement is a wait, an element on its own,
or not called on a list of values without catalog. -/
def Frame.Settles (frame : Frame) (previous : Option ResultType) (s : Statement) : Prop :=
  s.isWait = true ∨ s.action = none ∨
    ∀ t, frame.calledOn previous s = some t → t.isListWithoutActions = false

/-- The statement honours the type that it declares. -/
structure Built.Honours {ε : Type} (b : Built ε) (declared : ResultType) : Prop where
  /-- Under no type, and under the page object's own, the value is dropped. -/
  dropped : declared.discards = true → b.variableName = none ∧ b.returnType = declared
  /-- Under every other type the value is bound, and of that type. -/
  kept : declared.discards = false →
    b.variableName.isSome = true ∧ declared.same b.returnType = true

variable {frame : Frame} {site : Site} {s : Statement} {lookups : Lookups}

theorem Built.Honours.map {ε δ : Type} {b : Built ε} {declared : ResultType} (f : ε → δ)
    (h : b.Honours declared) : (b.map f).Honours declared :=
  ⟨h.dropped, h.kept⟩

theorem Built.Honours.finish {b : Built Expression} {declared : ResultType}
    (h : b.Honours declared) : (frame.finish b).Honours declared :=
  ⟨h.dropped, h.kept⟩

/-- A value that is bound unless it is dropped, and is of the declared type then, honours it. -/
theorem Frame.emit_honours {ε : Type} {before : List (Line ε)} {value : ε}
    {resolved declared : ResultType} {binds : Bool} (hbinds : binds = !declared.discards)
    (hsame : declared.discards = false → declared.same resolved = true) :
    (Frame.emit site before value resolved declared binds).Honours declared := by
  subst hbinds
  refine ⟨?_, ?_⟩
  · intro hdrops
    unfold Frame.emit
    rw [hdrops]
    cases declared <;> simp_all [ResultType.discards, ResultType.isVoid, ResultType.isSelf]
  · intro hkeeps
    unfold Frame.emit
    rw [hkeeps]
    exact ⟨rfl, hsame hkeeps⟩

/-! ## Actions -/

/-- What a call is spread over is a list that the statement is called on. -/
theorem Frame.receiver_calledOn {lines : List (Line Simple)} {after : Lookups}
    {variableName name : String} {type : NamedType} {isChain : Bool}
    (h : frame.receiver site lookups s =
      .ok (.value variableName name type true isChain, lines, after)) :
    ∃ all, frame.calledOn site.previous s = some (.list (.named type) all) := by
  unfold Frame.receiver at h
  split at h
  · rename_i hchain
    obtain ⟨r, hreceiver, he⟩ := map_eq_ok.mp h
    obtain ⟨rfl, -, -⟩ := by simpa using he
    obtain ⟨previous, type', hprevious, htype, -, -, hr⟩ := Frame.chainReceiver_eq_ok hreceiver
    obtain ⟨-, -, rfl, hlist, -⟩ := by simpa using hr
    rw [Frame.calledOn, if_pos hchain, hprevious]
    obtain rfl | ⟨all, rfl⟩ := htype
    · exact absurd hlist (by simp [ResultType.isList])
    · exact ⟨all, rfl⟩
  · rename_i hchain
    unfold Frame.elementReceiver at h
    split at h
    · exact absurd h (by simp)
    · rename_i name' hname
      split at h
      · exact absurd h (by simp)
      · rename_i hself
        split at h
        · exact absurd h (by simp)
        · rename_i hdocument
          split at h
          · exact absurd h (by simp)
          · rename_i element hfind
            have htype : element.type = type ∧ element.isList = true := by
              split at h <;> simp_all
            refine ⟨false, ?_⟩
            simp only [Frame.calledOn, hchain, hname, hself, hdocument, Bool.or_self,
              Bool.false_eq_true, if_false, Frame.findElement_eq_ok.mp hfind, Option.map_some,
              PageElement.returnType, htype, if_true]

/-- Only the page object and values without interfaces of their own have no catalog. -/
theorem Frame.actionOf_eq_none {name : String} {r : Receiver}
    (h : frame.actionOf site name r = .ok none) :
    r = .page ∨ ∃ variableName element type isList isChain,
      r = .value variableName element type isList isChain ∧ type.isBasicElement = false := by
  unfold Frame.actionOf at h
  simp only at h
  split at h
  · rename_i found hfound
    obtain rfl := Except.ok.inj h
    cases r with
    | page => exact Or.inl rfl
    | document =>
      obtain ⟨action, -, he⟩ := map_eq_ok.mp hfound
      exact absurd he (by simp)
    | value variableName element type isList isChain =>
      refine Or.inr ⟨_, _, _, _, _, rfl, ?_⟩
      simp only at hfound
      split at hfound
      · obtain ⟨action, -, he⟩ := map_eq_ok.mp hfound
        exact absurd he (by simp)
      · rename_i hinterfaces
        simp [NamedType.isBasicElement, hinterfaces]
  · exact absurd h Frame.fail_ne_ok

/-- **An expression is of the type that it has to have**, unless it is a call without catalog on each
value of a list. -/
theorem Frame.Evaluates.same {r : Receiver} {required resolved : ResultType} {value : Simple}
    {parameters : List Parameter} (hset : required.isUnset = false)
    (hkept : required.discards = false)
    (hreceiver : s.action ≠ none → ∀ variableName name type isChain,
      r = .value variableName name type true isChain → type.isBasicElement = true)
    (h : frame.Evaluates site s r required value resolved parameters) :
    required.same resolved = true := by
  have fits : ∀ actual, required.Fits actual → required.same actual = true := by
    rintro actual (hunset | hdiscards | hsame)
    · exact absurd hunset (by simp [hset])
    · exact absurd hdiscards (by simp [hkept])
    · exact hsame
  cases h with
  | getter haction helement hfits => exact fits _ hfits
  | @call name action operands _ invocation haction hof hoperands hcheck hinvocation hfits =>
    cases action with
    | some action => exact fits _ (hfits rfl)
    | none =>
      -- without catalog the invocation is of the required type, and nothing is spread
      have hrequired : required = invocation := by
        simpa [Frame.invocationType, hset, hkept] using hinvocation
      have hspread : (spreadOf site r invocation).2 = invocation := by
        obtain rfl | ⟨variableName, element, type, isList, isChain, rfl, htype⟩ :=
          Frame.actionOf_eq_none hof
        · rfl
        · cases isList with
          | false => rfl
          | true =>
            have hbasic := hreceiver (by simp [haction]) _ _ _ _ rfl
            exact absurd hbasic (by simp [htype])
      rw [hspread, hrequired]
      exact ResultType.same_refl invocation

theorem Site.requiredType_of_declares {methodReturn : ResultType}
    (h : site.declared.isUnset = false) :
    site.requiredType .unset methodReturn = site.declared := by
  simp [Site.requiredType, Site.declares, h]

/-- **A composed action honours the type that it declares.** -/
theorem Frame.composeAction_honours {b : Built Simple} {after : Lookups} {ps : List Parameter}
    (h : frame.composeAction site lookups s = .ok (b, after, ps)) (hwait : s.isWait = false)
    (hdeclared : site.declared.isUnset = false) (hsettles : frame.Settles site.previous s) :
    b.Honours site.declared := by
  obtain ⟨-, r, lines, value, resolved, own, hreached, hevaluates, hdecides⟩ :=
    Frame.composeAction_eq_ok h
  have hrequired : site.requiredType .unset frame.methodReturn = site.declared :=
    Site.requiredType_of_declares hdeclared
  cases hdecides with
  | judged hmatcher hverdict hb hvariable =>
    have hsame : site.declared.same .boolean = true := by
      rcases hrequired ▸ hverdict with hunset | hsame
      · exact absurd hunset (by simp [hdeclared])
      · exact hsame
    have hkept : site.declared.discards = false := ResultType.discards_of_same hsame
    exact ⟨fun hdrops => absurd hdrops (by simp [hkept]), fun _ => ⟨rfl, hsame⟩⟩
  | emitted hmatcher hb =>
    have hown : frame.ownType site s = site.declared := by
      simp [Frame.ownType, hmatcher, hrequired]
    have hreceiver : s.action ≠ none → ∀ variableName name type isChain,
        r = .value variableName name type true isChain → type.isBasicElement = true := by
      rintro haction variableName name type isChain rfl
      obtain ⟨hnone, -⟩ | ⟨-, hreceiver⟩ := hreached
      · exact absurd hnone haction
      · obtain ⟨all, hon⟩ := Frame.receiver_calledOn hreceiver
        rcases hsettles with hwaits | hnone | hlist
        · exact absurd hwaits (by simp [hwait])
        · exact absurd hnone haction
        · simpa [ResultType.isListWithoutActions] using hlist _ hon
    rw [hown] at hevaluates
    have hsame : site.declared.discards = false → site.declared.same resolved = true :=
      fun hkept => hevaluates.same hdeclared hkept hreceiver
    subst hb
    unfold Frame.emitted
    rw [hown]
    refine Frame.emit_honours ?_ hsame
    cases hdiscards : site.declared.discards with
    | true => rfl
    | false =>
      have hvoid := ResultType.isVoid_of_same (hsame hdiscards)
      simp only [ResultType.discards, Bool.or_eq_false_iff] at hdiscards
      simp [← hvoid, hdiscards.1]

/-- A composed action on a trail honours the type that it declares at its place. -/
theorem Frame.stepAction_honours {inPredicate : Bool} {count index : Nat} {before after : Trail}
    {b : Built Simple} {declared : ResultType}
    (hsite : frame.siteOf inPredicate count index before.previous s = .ok site)
    (h : frame.stepAction site before s = .ok (b, after)) (hwait : s.isWait = false)
    (hdeclares : frame.DeclaresType s declared) (hsettles : frame.Settles before.previous s) :
    b.Honours declared := by
  obtain ⟨hresolved, -, hprevious, -⟩ := Frame.siteOf_eq_ok hsite
  obtain rfl : site.declared = declared := Except.ok.inj (hresolved.symm.trans hdeclares.1)
  unfold Frame.stepAction at h
  simp only [bind_eq_ok] at h
  obtain ⟨⟨b', lookups', more⟩, haction, parameters, -, h⟩ := h
  obtain ⟨rfl, -⟩ := by simpa [pure_eq_ok] using h
  exact Frame.composeAction_honours haction hwait hdeclares.2 (hprevious ▸ hsettles)

/-! ## Predicates and waits -/

/-- **The statements of a predicate honour the types that they declare.** None of them chains, so
what they are called on does not depend on a value before. -/
theorem Frame.composePredicate_honours {parameters ps : List Parameter} {ss : List Statement}
    {inner : List (Built Simple)} (h : frame.composePredicate parameters ss = .ok (inner, ps))
    {i : Nat} {declared : ResultType} (hs : ss[i]? = some s) (hdeclares : frame.DeclaresType s declared)
    (hsettles : frame.Settles none s) : ∃ b, inner[i]? = some b ∧ b.Honours declared := by
  obtain ⟨last, hwalk, -⟩ := Frame.composePredicate_threaded h
  obtain ⟨before, b, after, hb, ⟨site, hsite, hwait, hstep⟩, -⟩ :=
    hwalk.step_at (fun _ => True) trivial (fun _ _ => trivial) hs
  refine ⟨b, hb, Frame.stepAction_honours hsite hstep hwait hdeclares ?_⟩
  obtain ⟨-, -, -, hpredicate, -⟩ := Frame.siteOf_eq_ok hsite
  have hchain : s.chain = false := by
    obtain ⟨more, ⟨hplace, -, -, -⟩, -⟩ := Frame.stepAction_acts hstep
    simpa [hpredicate] using hplace
  simpa [Frame.Settles, Frame.calledOn, hchain] using hsettles

/-- A composed wait honours the type that it declares, unless that drops its value and the next
statement chains on it. -/
theorem Frame.composeWait_honours {trail after : Trail} {chained : Bool} {b : Built Expression}
    (h : frame.composeWait site trail s chained = .ok (b, after))
    (hdeclared : site.declared.isUnset = false)
    (hchained : chained = true → site.declared.discards = false) : b.Honours site.declared := by
  obtain ⟨-, inner, ps, required, hrequired, -, hfits, rfl, -⟩ := Frame.composeWait_eq_ok h
  obtain rfl : required = site.declared :=
    hrequired.trans (Site.requiredType_of_declares hdeclared)
  have hemitted := @Frame.emit_honours site _ []
    (Expression.wait (inner.flatMap Built.lines) (predicateResult inner)) (predicateType inner)
    site.declared (chained || (!site.declared.isUnset && !site.declared.discards))
    (by cases chained <;> simp_all)
    (by
      intro hkept
      rcases hfits with hunset | hdrops | hsame
      · exact absurd hunset (by simp [hdeclared])
      · exact absurd hdrops (by simp [hkept])
      · exact hsame)
  exact ⟨hemitted.dropped, hemitted.kept⟩

/-- **A wait evaluates the closure of its predicate**, and one that is chained on keeps the value of
it, whatever it declares. -/
theorem Frame.composeWait_closure {trail after : Trail} {chained : Bool} {b : Built Expression}
    (h : frame.composeWait site trail s chained = .ok (b, after)) :
    ∃ inner ps, frame.composePredicate trail.parameters s.inner = .ok (inner, ps) ∧
      b.values = [.wait (inner.flatMap Built.lines) (predicateResult inner)] ∧
      (chained = true →
        b.variableName = some site.variableName ∧ b.returnType = predicateType inner) := by
  obtain ⟨-, inner, ps, required, -, hpredicate, -, rfl, -⟩ := Frame.composeWait_eq_ok h
  refine ⟨inner, ps, hpredicate, ?_, ?_⟩
  · unfold Frame.emit
    split <;> rfl
  · rintro rfl
    exact ⟨rfl, rfl⟩

/-! ## Methods -/

/-- The type of the value before the statement at an index. -/
def Composition.previousAt (c : Composition) : Nat → Option ResultType
  | 0 => none
  | i + 1 => c.statements[i]?.map Built.returnType

/-- A wait whose value is kept for the statement after it, though the declared type drops it. -/
def Statement.KeptFor (s : Statement) (rest : List Statement) (declared : ResultType) : Prop :=
  s.isWait = true ∧ chainsNext rest = true ∧ declared.discards = true

/-- A composed method honours the types that its statements declare. -/
structure Composition.Honours (c : Composition) (frame : Frame) (ss : List Statement) : Prop where
  /-- A statement of the method honours the type that it declares for all of itself, unless it is a
  wait whose dropped value is kept for the next. -/
  statements : ∀ (i : Nat) (s : Statement) (declared : ResultType), ss[i]? = some s →
    frame.DeclaresType s declared → frame.Settles (c.previousAt i) s →
    ¬ s.KeptFor (ss.drop (i + 1)) declared →
    ∃ b, c.statements[i]? = some b ∧ b.Honours declared
  /-- The predicate of a wait is composed, its statements honour the types that they declare, and its
  value is bound for the next statement that chains on it. -/
  waits : ∀ (i : Nat) (s : Statement), ss[i]? = some s → s.isWait = true →
    ∃ b inner parameters more, c.statements[i]? = some b ∧
      frame.composePredicate parameters s.inner = .ok (inner, more) ∧
      b.values = [.wait (inner.flatMap Built.lines) (predicateResult inner)] ∧
      (∀ (j : Nat) (s' : Statement) (declared : ResultType), s.inner[j]? = some s' →
        frame.DeclaresType s' declared → frame.Settles none s' →
        ∃ b', inner[j]? = some b' ∧ b'.Honours declared) ∧
      (chainsNext (ss.drop (i + 1)) = true →
        b.variableName = some ("statement" ++ toString i) ∧ b.returnType = predicateType inner)

/-- Each statement of a method takes its step after the value of the statement before it. -/
theorem Composition.step_at {count : Nat} {ss : List Statement} {c : Composition} {last : Trail}
    {i : Nat} (h : Threaded (frame.MethodStep count) 0 {} ss c.statements last)
    (hs : ss[i]? = some s) :
    ∃ before b after, c.statements[i]? = some b ∧
      frame.MethodStep count i before s (ss.drop (i + 1)) b after ∧
      before.previous = c.previousAt i := by
  cases i with
  | zero =>
    generalize c.statements = bs at h ⊢
    cases h with
    | nil => exact absurd hs (by simp)
    | @cons _ _ after _ t rest b others hstep hrest =>
      obtain rfl : t = s := by simpa using hs
      exact ⟨{}, b, after, rfl, hstep, rfl⟩
  | succ i =>
    have hi : i < ss.length := by
      have := (List.getElem?_eq_some_iff.mp hs).1
      omega
    obtain ⟨before, previous, middle, b, after, hprevious, hb, hfirst, hsecond⟩ :=
      h.link (List.getElem?_eq_getElem hi) hs
    obtain ⟨-, -, hleft, -⟩ := hfirst.yields
    refine ⟨middle, b, after, hb, ?_, ?_⟩
    · simpa using hsecond
    · rw [hleft, Composition.previousAt, hprevious]
      rfl

/-- **Declared types are honoured.** In a composed method, every statement of the method and of a
predicate that declares a type for all of itself drops its value under no type and under the page
object's own, and else binds a value of the declared type. The one exception is a wait whose dropped
value the next statement chains on: it binds the value of its predicate. -/
theorem compose_honours {ss : List Statement} {c : Composition} (h : compose frame ss = .ok c) :
    c.Honours frame ss := by
  obtain ⟨last, -, hwalk, -⟩ := compose_threaded h
  refine ⟨?_, ?_⟩
  · intro i s declared hs hdeclares hsettles hkept
    obtain ⟨before, b, after, hb, ⟨site, hsite, hstep⟩, hprevious⟩ :=
      Composition.step_at hwalk hs
    refine ⟨b, hb, ?_⟩
    obtain ⟨hwait, b', hwaits, rfl⟩ | ⟨hwait, b', haction, rfl⟩ :=
      Frame.composeStatement_eq_ok hstep
    · obtain ⟨hresolved, -⟩ := Frame.siteOf_eq_ok hsite
      obtain rfl : site.declared = declared :=
        Except.ok.inj (hresolved.symm.trans hdeclares.1)
      have hchained : chainsNext (ss.drop (i + 1)) = true → site.declared.discards = false := by
        intro hchained
        rw [Bool.eq_false_iff]
        exact fun hdrops => hkept ⟨hwait, hchained, hdrops⟩
      exact (Frame.composeWait_honours hwaits hdeclares.2 hchained).finish
    · rw [← hprevious] at hsettles
      exact ((Frame.stepAction_honours hsite haction hwait hdeclares hsettles).map .simple).finish
  · intro i s hs hwait
    obtain ⟨before, b, after, hb, ⟨site, hsite, hstep⟩, -⟩ := Composition.step_at hwalk hs
    obtain ⟨-, b', hwaits, rfl⟩ | ⟨hnone, -⟩ := Frame.composeStatement_eq_ok hstep
    · obtain ⟨inner, ps, hpredicate, hvalues, hkeeps⟩ := Frame.composeWait_closure hwaits
      obtain ⟨-, hindex, -, hplace, -⟩ := Frame.siteOf_eq_ok hsite
      have hname : site.variableName = "statement" ++ toString i := by
        rw [Site.variableName, hindex, hplace]
        rfl
      refine ⟨_, inner, _, ps, hb, hpredicate, ?_, ?_, ?_⟩
      · rw [Frame.finish_values, hvalues]
      · exact fun j s' declared => Frame.composePredicate_honours hpredicate
      · rw [← hname]
        exact hkeeps
    · exact absurd hwait (by simp [hnone])

/-- A method that waits for a button, declares that the wait yields nothing, and clicks what the wait
has found. -/
def clickAwaited : Frame × List Statement :=
  ({ page :=
       { name := "Dialog",
         elements :=
           [{ name := "button", type := ResultType.ofElement "button" ["clickable"],
              getter := "getButtonElement", selector := some { css := some "b" } }] },
     method := "test" },
   [{ action := some "waitFor", returnType := some "void",
      predicate := some [{ element := some "button" }] },
    { action := some "click", chain := true }])

/-- The wait binds the button for the click. -/
theorem clickAwaited_composed : ∃ c b, compose clickAwaited.1 clickAwaited.2 = .ok c ∧
    c.statements[0]? = some b ∧ b.variableName = some "statement0" := by
  have hbound : ((compose clickAwaited.1 clickAwaited.2).toOption.bind fun c =>
      c.statements[0]?.bind Built.variableName) = some "statement0" := by decide
  cases hc : compose clickAwaited.1 clickAwaited.2 with
  | error e => rw [hc] at hbound; exact absurd hbound (by simp [Except.toOption])
  | ok c =>
    rw [hc, Except.toOption, Option.bind_some] at hbound
    obtain ⟨b, hb, hvariable⟩ := Option.bind_eq_some_iff.mp hbound
    exact ⟨c, b, rfl, hb, hvariable⟩

theorem clickAwaited_honours : ∃ c, compose clickAwaited.1 clickAwaited.2 = .ok c ∧
    c.Honours clickAwaited.1 clickAwaited.2 := by
  obtain ⟨c, -, hc, -, -⟩ := clickAwaited_composed
  exact ⟨c, hc, compose_honours hc⟩

/-- **A chain overrides a declaration.** Not every wait that declares to yield nothing drops its
value. -/
theorem not_honours_of_chain : ¬ ∀ (frame : Frame) (ss : List Statement) (c : Composition),
    compose frame ss = .ok c → ∀ (i : Nat) (s : Statement) (declared : ResultType),
      ss[i]? = some s → frame.DeclaresType s declared → frame.Settles (c.previousAt i) s →
      ∃ b, c.statements[i]? = some b ∧ b.Honours declared := by
  intro hall
  obtain ⟨c, b, hc, hb, hvariable⟩ := clickAwaited_composed
  obtain ⟨b', hb', hhonours⟩ :=
    hall _ _ c hc 0 _ .void rfl ⟨rfl, rfl⟩ (Or.inl rfl)
  obtain rfl : b = b' := Option.some.inj (hb.symm.trans hb')
  exact absurd (hhonours.dropped rfl).1 (by simp [hvariable])

end PageObjects
