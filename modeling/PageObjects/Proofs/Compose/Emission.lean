import PageObjects.Proofs.Compose.Plain
import PageObjects.Proofs.Compose.Sequence

/-!
# Built statements

What a composed statement consists of, read off the composition once.

* `Frame.composeAction_eq_ok`, `Frame.composeWait_eq_ok`, `Frame.composeStatement_eq_ok`: the stages
  of a composition that succeeds, with the expression and the type that each leaves.
* `Site.Yields`: the three shapes of a built statement. Its value is dropped, bound to the
  statement's variable, or bound and then judged by a matcher.
* `Frame.composeAction_acts`: a composed action reached its receiver, has an expression, and yields
  it.
* `Frame.composeWait_waits`: a composed wait has a predicate that was composed on its own.
* `Frame.MethodStep.yields`: every step of a method yields one of the three shapes, then the line
  that returns, and leaves its type to the next.
* `compose_wait`: a wait of a method becomes the closure of its predicate.
-/

namespace PageObjects

variable {frame : Frame} {site : Site} {s : Statement} {lookups : Lookups}

/-! ## Shapes -/

/-- What a statement yields from the lines before its value, the value, and the value's type. -/
inductive Site.Yields {ε : Type} (site : Site) (before : List (Line ε)) (value : ε)
    (resolved : ResultType) : Built ε → Prop
  | dropped {t : ResultType} {isWait : Bool} (ht : t = .void ∨ t.isSelf = true) :
      Yields site before value resolved
        { index := site.index.toNat, variableName := none, returnType := t,
          lines := before ++ [.perform value], isLast := site.isLast, isWait }
  | bound {isWait : Bool} (hvalue : resolved.holdsValue = true) :
      Yields site before value resolved
        { index := site.index.toNat, variableName := some site.variableName, returnType := resolved,
          lines := before ++ [.bind resolved site.variableName value], isLast := site.isLast,
          isWait }
  | judged {kind : MatcherKind} {operands : List Operand} {isWait : Bool}
      (hvalue : resolved.holdsValue = true) (hplain : resolved.Plain) :
      Yields site before value resolved
        { index := site.index.toNat, variableName := some site.matcherVariable,
          returnType := .boolean,
          lines := before ++ [.bind resolved site.variableName value] ++
            [.verdict site.matcherVariable kind site.variableName operands],
          isLast := site.isLast, isWait }

namespace Site.Yields

variable {ε δ : Type} {before : List (Line ε)} {value : ε} {resolved : ResultType} {b : Built ε}

/-- A statement keeps its shape over other expressions. -/
theorem map (f : ε → δ) (h : site.Yields before value resolved b) :
    site.Yields (before.map (Line.map f)) (f value) resolved (b.map f) := by
  cases h with
  | dropped ht =>
    simp only [Built.map, List.map_append, List.map_cons, List.map_nil, Line.map]
    exact .dropped ht
  | bound hvalue =>
    simp only [Built.map, List.map_append, List.map_cons, List.map_nil, Line.map]
    exact .bound hvalue
  | judged hvalue hplain =>
    simp only [Built.map, List.map_append, List.map_cons, List.map_nil, Line.map]
    exact .judged hvalue hplain

theorem asWait (h : site.Yields before value resolved b) :
    site.Yields before value resolved { b with isWait := true } := by
  cases h with
  | dropped ht => exact .dropped ht
  | bound hvalue => exact .bound hvalue
  | judged hvalue hplain => exact .judged hvalue hplain

/-- A statement with a variable has the type of a value. -/
theorem holdsValue_of_variable (h : site.Yields before value resolved b)
    (hb : b.variableName.isSome = true) : b.returnType.holdsValue = true := by
  cases h with
  | dropped ht => exact absurd hb (by simp)
  | bound hvalue => exact hvalue
  | judged hvalue => rfl

end Site.Yields

/-- A value that is bound only if it can be held yields the shape of its statement. -/
theorem Frame.emit_yields {ε : Type} {before : List (Line ε)} {value : ε}
    {resolved required : ResultType} {binds : Bool}
    (h : binds = true → resolved.holdsValue = true) :
    site.Yields before value resolved (Frame.emit site before value resolved required binds) := by
  unfold Frame.emit
  split
  · rename_i hbinds
    exact .bound (h hbinds)
  · refine .dropped ?_
    split
    · rename_i hself
      exact Or.inr hself
    · exact Or.inl rfl

/-! ## Actions -/

/-- What a statement calls, if it calls anything: a statement without action evaluates to its
element, and what the element is called on is never looked up. -/
inductive Frame.Reaches (frame : Frame) (site : Site) (lookups : Lookups) (s : Statement)
    (r : Receiver) : List (Line Simple) → Lookups → Prop
  | nothing (haction : s.action = none) : Reaches frame site lookups s r [] lookups
  | receiver {lines : List (Line Simple)} {after : Lookups} (haction : s.action ≠ none)
      (haddresses : frame.Addresses site lookups s r lines after) :
      Reaches frame site lookups s r lines after

theorem Frame.Reaches.addresses {r : Receiver} {lines : List (Line Simple)} {after : Lookups}
    (h : frame.Reaches site lookups s r lines after) (haction : s.action ≠ none) :
    frame.Addresses site lookups s r lines after := by
  cases h with
  | nothing hnone => exact absurd hnone haction
  | receiver _ haddresses => exact haddresses

/-- The type that the value of a statement has to have before any matcher. -/
def Frame.ownType (frame : Frame) (site : Site) (s : Statement) : ResultType :=
  if s.matcher.isSome then .unset else site.requiredType .unset frame.methodReturn

/-- The statement of a value under the type that it has to have before any matcher. -/
def Frame.emitted (frame : Frame) (site : Site) (s : Statement) (lines : List (Line Simple))
    (value : Simple) (resolved : ResultType) : Built Simple :=
  Frame.emit site lines value resolved (frame.ownType site s)
    (!(frame.ownType site s).discards && !resolved.isVoid)

/-- With a matcher no type is asked for, so the value is of a plain one. -/
theorem Frame.Evaluates.plain_of_matcher {r : Receiver} {value : Simple} {resolved : ResultType}
    {own : List Parameter} (h : frame.Evaluates site s r (frame.ownType site s) value resolved own)
    (hmatcher : s.matcher ≠ none) : resolved.Plain := by
  rcases h.type_plain with hplain | rfl
  · exact hplain
  · rw [Frame.ownType, if_pos (Option.isSome_iff_ne_none.mpr hmatcher)]
    trivial

/-- A composed action. -/
inductive Frame.Acts (frame : Frame) (site : Site) (lookups : Lookups) (s : Statement) :
    Built Simple → Lookups → List Parameter → Prop
  | mk {r : Receiver} {lines : List (Line Simple)} {after : Lookups} {value : Simple}
      {resolved : ResultType} {own parameters : List Parameter} {b : Built Simple}
      (hplace : (s.chain && site.inPredicate) = false)
      (hreaches : frame.Reaches site lookups s r lines after)
      (hevaluates : frame.Evaluates site s r (frame.ownType site s) value resolved own)
      (hyields : site.Yields lines value resolved b) :
      Acts frame site lookups s b after parameters

/-- A matcher judges a bound value: the verdict, over the operands of the matcher's arguments, is bound
behind the lines that do not return. -/
theorem Frame.applyMatcher_eq_ok {m : Matcher} {b b' : Built Simple} {more ps : List Parameter}
    (h : frame.applyMatcher site m b more = .ok (b', ps)) :
    ∃ variableName kind operands, b.variableName = some variableName ∧
      MatcherKind.find m.type m.args.length = .ok kind ∧
      frame.operands site more m.args = .ok (operands, ps) ∧
      b' = { b with
        variableName := some site.matcherVariable, returnType := .boolean,
        lines := b.lines.filter (!·.returns Simple.text) ++
          [.verdict site.matcherVariable kind variableName operands] } := by
  unfold Frame.applyMatcher at h
  split at h
  · exact absurd h Frame.fail_ne_ok
  · rename_i variableName hvariable
    split at h
    · exact absurd h Frame.fail_ne_ok
    · rename_i kind hkind
      have judged (h : (frame.operands site more m.args >>= fun found =>
          frame.checkTypes site (.matcher kind.name) 0 found.1 kind.parameters >>= fun _ =>
            pure ({ b with
              variableName := some site.matcherVariable, returnType := .boolean,
              lines := b.lines.filter (!·.returns Simple.text) ++
                [.verdict site.matcherVariable kind variableName found.1] },
              found.2)) = .ok (b', ps)) : ∃ operands,
          frame.operands site more m.args = .ok (operands, ps) ∧ b' = { b with
            variableName := some site.matcherVariable, returnType := .boolean,
            lines := b.lines.filter (!·.returns Simple.text) ++
              [.verdict site.matcherVariable kind variableName operands] } := by
        simp only [bind_eq_ok, pure_eq_ok, Prod.mk.injEq] at h
        obtain ⟨found, hfound, u, -, rfl, rfl⟩ := h
        exact ⟨found.1, hfound, rfl⟩
      refine ⟨variableName, kind, ?_⟩
      simp only [hvariable, hkind, true_and]
      split at h
      · -- the matcher asks for a type
        split at h
        · exact absurd h (by simp [Frame.fail, bind, Except.bind])
        · exact judged h
      · exact judged h

/-- What is made of the value of an action: it is emitted under the type that is asked for, or a
matcher judges the emitted value, and its verdict is of the type that is asked for. -/
inductive Frame.Decides (frame : Frame) (site : Site) (s : Statement) (lines : List (Line Simple))
    (value : Simple) (resolved : ResultType) : Built Simple → Prop
  | emitted {b : Built Simple} (hmatcher : s.matcher = none)
      (hb : b = frame.emitted site s lines value resolved) :
      Decides frame site s lines value resolved b
  | judged {b : Built Simple} {variableName : String} {kind : MatcherKind} {operands : List Operand}
      (hmatcher : s.matcher ≠ none)
      (hrequired : (site.requiredType .unset frame.methodReturn).isUnset = true ∨
        (site.requiredType .unset frame.methodReturn).same .boolean = true)
      (hb : b = frame.emitted site s lines value resolved)
      (hvariable : b.variableName = some variableName) :
      Decides frame site s lines value resolved { b with
        variableName := some site.matcherVariable, returnType := .boolean,
        lines := b.lines ++ [.verdict site.matcherVariable kind variableName operands] }

/-- What is bound can be held. -/
theorem ResultType.Yieldable.holdsValue {own resolved : ResultType} (h : resolved.Yieldable)
    (hbinds : (!own.discards && !resolved.isVoid) = true) : resolved.holdsValue = true := by
  simp only [Bool.and_eq_true, Bool.not_eq_true'] at hbinds
  rcases h with rfl | hvalue
  · exact absurd hbinds.2 (by simp [ResultType.isVoid])
  · exact hvalue

/-- A matcher takes no line out of a statement that binds a value: none of them begins like one that
returns. -/
theorem Frame.Reaches.filter_emitted {r : Receiver} {lines : List (Line Simple)} {after : Lookups}
    {value : Simple} {resolved : ResultType} {own : List Parameter} {v : String}
    (h : frame.Reaches site lookups s r lines after)
    (hevaluates : frame.Evaluates site s r (frame.ownType site s) value resolved own)
    (hmatcher : s.matcher ≠ none)
    (hbound : (frame.emitted site s lines value resolved).variableName = some v) :
    (frame.emitted site s lines value resolved).lines.filter (!·.returns Simple.text) =
      (frame.emitted site s lines value resolved).lines := by
  have hlines : ∀ line ∈ lines, line.returns Simple.text = false := by
    cases h with
    | nothing haction => simp
    | receiver haction haddresses => exact haddresses.returns_lines
  refine List.filter_eq_self.mpr ?_
  unfold Frame.emitted Frame.emit at *
  split
  · rename_i hbinds
    intro line hline
    rcases List.mem_append.mp hline with hold | hnew
    · simp [hlines line hold]
    · obtain rfl := List.mem_singleton.mp hnew
      have hvalue := (isReturn_bind (hevaluates.yieldable.holdsValue hbinds)
        (site.variableName ++ (" = " ++ value.text))).mpr (hevaluates.plain_of_matcher hmatcher)
      simpa [Line.returns, Line.text, String.append_assoc] using hvalue
  · rename_i hdropped
    rw [if_neg hdropped] at hbound
    exact absurd hbound (by simp)

/-- A value that is bound only if it can be held, and then maybe judged, yields the shape of its
statement. -/
theorem Frame.Decides.yields {lines : List (Line Simple)} {value : Simple} {resolved : ResultType}
    {b : Built Simple} (hresolved : resolved.Yieldable) (hplain : s.matcher ≠ none → resolved.Plain)
    (h : frame.Decides site s lines value resolved b) : site.Yields lines value resolved b := by
  cases h with
  | emitted hmatcher hb =>
    subst hb
    exact Frame.emit_yields hresolved.holdsValue
  | judged hmatcher hrequired hb hvariable =>
    subst hb
    unfold Frame.emitted Frame.emit at *
    split at hvariable
    · rename_i hbound
      obtain rfl := Option.some.inj hvariable
      rw [if_pos hbound]
      exact .judged (hresolved.holdsValue hbound) (hplain hmatcher)
    · exact absurd hvariable (by simp)

/-- **What a composed action is.** It stands where it may, reached its receiver if it has an action,
has an expression, and made its statement of the value. -/
theorem Frame.composeAction_eq_ok {b : Built Simple} {after : Lookups} {ps : List Parameter}
    (h : frame.composeAction site lookups s = .ok (b, after, ps)) :
    (s.chain && site.inPredicate) = false ∧ ∃ r lines value resolved own,
      ((s.action = none ∧ lines = [] ∧ after = lookups) ∨
        (s.action ≠ none ∧ frame.receiver site lookups s = .ok (r, lines, after))) ∧
      frame.Evaluates site s r (frame.ownType site s) value resolved own ∧
      frame.Decides site s lines value resolved b := by
  unfold Frame.composeAction at h
  split at h
  · exact absurd h Frame.fail_ne_ok
  · rename_i hplace
    simp only at h
    rw [ite_bind] at h
    simp only [bind_eq_ok] at h
    obtain ⟨⟨r, lines, after'⟩, hreceiver, ⟨value, resolved, own⟩, hexpression, h⟩ := h
    have hreached : (s.action = none ∧ lines = [] ∧ after' = lookups) ∨
        (s.action ≠ none ∧ frame.receiver site lookups s = .ok (r, lines, after')) := by
      split at hreceiver
      · rename_i haction
        obtain ⟨found, -, he⟩ := map_eq_ok.mp hreceiver
        obtain ⟨rfl, rfl, rfl⟩ := by simpa using he
        exact Or.inl ⟨by simpa using haction, rfl, rfl⟩
      · rename_i haction
        exact Or.inr ⟨by simpa using haction, hreceiver⟩
    have hevaluates : frame.Evaluates site s r (frame.ownType site s) value resolved own :=
      Frame.expression_evaluates hexpression
    refine ⟨by simpa using hplace, r, lines, value, resolved, own, ?_⟩
    simp only at h
    split at h
    · rename_i hmatcher
      obtain ⟨rfl, rfl, rfl⟩ := by simpa [pure_eq_ok] using h
      exact ⟨hreached, hevaluates, .emitted hmatcher rfl⟩
    · rename_i m hmatcher
      obtain ⟨⟨judged, more⟩, hjudged, h⟩ := bind_eq_ok.mp h
      simp only at h
      split at h
      · exact absurd h Frame.fail_ne_ok
      · rename_i hrequired
        obtain ⟨rfl, rfl, rfl⟩ := by simpa [pure_eq_ok] using h
        obtain ⟨variableName, kind, operands, hvariable, -, -, rfl⟩ :=
          Frame.applyMatcher_eq_ok hjudged
        have hreaches : frame.Reaches site lookups s r lines after' := by
          obtain ⟨haction, rfl, rfl⟩ | ⟨haction, hreceiver⟩ := hreached
          · exact .nothing haction
          · exact .receiver haction (Frame.receiver_addresses hreceiver)
        have hkept := hreaches.filter_emitted hevaluates (by simp [hmatcher]) hvariable
        refine ⟨hreached, hevaluates, ?_⟩
        change frame.Decides site s lines value resolved
          { frame.emitted site s lines value resolved with
            variableName := some site.matcherVariable, returnType := .boolean,
            lines := (frame.emitted site s lines value resolved).lines.filter (!·.returns Simple.text) ++
              [.verdict site.matcherVariable kind variableName operands] }
        rw [hkept]
        refine .judged (by simp [hmatcher]) ?_ rfl hvariable
        simp only [Bool.and_eq_true, Bool.not_eq_true', not_and, Bool.not_eq_false] at hrequired
        cases hunset : (site.requiredType .unset frame.methodReturn).isUnset with
        | true => exact Or.inl rfl
        | false => exact Or.inr (hrequired hunset)

theorem Frame.composeAction_acts {b : Built Simple} {after : Lookups} {ps : List Parameter}
    (h : frame.composeAction site lookups s = .ok (b, after, ps)) :
    frame.Acts site lookups s b after ps := by
  obtain ⟨hplace, r, lines, value, resolved, own, hreached, hevaluates, hdecides⟩ :=
    Frame.composeAction_eq_ok h
  have hyields := hdecides.yields hevaluates.yieldable hevaluates.plain_of_matcher
  obtain ⟨haction, rfl, rfl⟩ | ⟨haction, hreceiver⟩ := hreached
  · exact .mk hplace (.nothing haction) hevaluates hyields
  · exact .mk hplace (.receiver haction (Frame.receiver_addresses hreceiver)) hevaluates hyields

/-- An action goes on the trail with its look-ups, its type and its parameters. -/
theorem Frame.stepAction_eq_ok {trail after : Trail} {b : Built Simple}
    (h : frame.stepAction site trail s = .ok (b, after)) :
    ∃ more, frame.composeAction site trail.lookups s = .ok (b, after.lookups, more) ∧
      frame.collect site trail.parameters more = .ok after.parameters ∧
      after.previous = some b.returnType := by
  unfold Frame.stepAction at h
  simp only [bind_eq_ok] at h
  obtain ⟨⟨b', lookups, more⟩, haction, parameters, hcollect, h⟩ := h
  obtain ⟨rfl, rfl⟩ := by simpa [pure_eq_ok] using h
  exact ⟨more, haction, hcollect, rfl⟩

/-- A composed action on a trail: its look-ups and its type are left to the next statement. -/
theorem Frame.stepAction_acts {trail after : Trail} {b : Built Simple}
    (h : frame.stepAction site trail s = .ok (b, after)) :
    ∃ more, frame.Acts site trail.lookups s b after.lookups more ∧
      frame.collect site trail.parameters more = .ok after.parameters ∧
      after.previous = some b.returnType := by
  obtain ⟨more, haction, hcollect, hprevious⟩ := Frame.stepAction_eq_ok h
  exact ⟨more, Frame.composeAction_acts haction, hcollect, hprevious⟩

/-- A step of a predicate composes an action at its site. -/
theorem Frame.PredicateStep.acts {count index : Nat} {before after : Trail} {rest : List Statement}
    {b : Built Simple} (h : frame.PredicateStep count index before s rest b after) :
    ∃ site more, frame.siteOf true count index before.previous s = .ok site ∧
      frame.Acts site before.lookups s b after.lookups more ∧
      frame.collect site before.parameters more = .ok after.parameters := by
  obtain ⟨site, hsite, -, hstep⟩ := h
  obtain ⟨more, hacts, hcollect, -⟩ := Frame.stepAction_acts hstep
  exact ⟨site, more, hsite, hacts, hcollect⟩

/-! ## Waits -/

/-- The type of a predicate: that of its last value, or a truth value. -/
def predicateType (inner : List (Built Simple)) : ResultType :=
  match inner.getLast?, inner.getLast?.bind Built.variableName with
  | some b, some _ => b.returnType
  | _, _ => .boolean

/-- The text of what a predicate gives back: its last variable, or true. -/
def predicateResult (inner : List (Built Simple)) : String :=
  (inner.getLast?.bind Built.variableName).getD "true"

/-- A composed wait. -/
inductive Frame.Waits (frame : Frame) (site : Site) (trail : Trail) (s : Statement) :
    Built Expression → Trail → Prop
  | mk {inner : List (Built Simple)} {ps : List Parameter} {b : Built Expression}
      (hinner : s.inner ≠ [])
      (hpredicate : frame.composePredicate trail.parameters s.inner = .ok (inner, ps))
      (hyields : site.Yields [] (.wait (inner.flatMap Built.lines) (predicateResult inner))
        (predicateType inner) b) :
      Waits frame site trail s b { trail with previous := some b.returnType, parameters := ps }

/-- The type of a composed predicate is one of values. -/
theorem Frame.predicateType_holdsValue {parameters ps : List Parameter} {ss : List Statement}
    {inner : List (Built Simple)} (h : frame.composePredicate parameters ss = .ok (inner, ps)) :
    (predicateType inner).holdsValue = true := by
  obtain ⟨last, hwalk, -⟩ := Frame.composePredicate_threaded h
  have hbuilt : ∀ b ∈ inner, b.variableName.isSome = true → b.returnType.holdsValue = true :=
    hwalk.forall_mem (fun _ => True) trivial (by
      rintro i before s rest b after - hstep
      obtain ⟨site, more, -, ⟨-, -, -, hyields⟩, -⟩ := hstep.acts
      exact ⟨hyields.holdsValue_of_variable, trivial⟩)
  unfold predicateType
  cases hlast : inner.getLast? with
  | none => rfl
  | some b =>
    cases hvariable : b.variableName with
    | none => simp [hvariable, ResultType.holdsValue, ResultType.boolean, ResultType.simple]
    | some v =>
      simpa [hvariable] using hbuilt b (List.mem_of_getLast? hlast) (by simp [hvariable])

/-- **What a composed wait is.** Its predicate was composed on its own, the value of the predicate is
of the type that is asked for, and it is bound if a value is asked for or the next statement chains
on it. -/
theorem Frame.composeWait_eq_ok {trail after : Trail} {chained : Bool} {b : Built Expression}
    (h : frame.composeWait site trail s chained = .ok (b, after)) :
    s.inner ≠ [] ∧ ∃ inner ps required,
      required = site.requiredType .unset frame.methodReturn ∧
      frame.composePredicate trail.parameters s.inner = .ok (inner, ps) ∧
      required.Fits (predicateType inner) ∧
      b = { Frame.emit site [] (.wait (inner.flatMap Built.lines) (predicateResult inner))
              (predicateType inner) required
              (chained || (!required.isUnset && !required.discards)) with isWait := true } ∧
      after = { trail with previous := some b.returnType, parameters := ps } := by
  unfold Frame.composeWait at h
  split at h
  · exact absurd h (by simp [Frame.fail, bind, Except.bind])
  · rename_i hinner
    simp only [bind_eq_ok] at h
    obtain ⟨⟨inner, ps⟩, hpredicate, u, hcheck, h⟩ := h
    obtain ⟨rfl, rfl⟩ := by simpa [pure_eq_ok] using h
    exact ⟨by simpa using hinner, inner, ps, _, rfl, hpredicate,
      Frame.checkType_eq_ok.mp hcheck, rfl, rfl⟩

theorem Frame.composeWait_waits {trail after : Trail} {chained : Bool} {b : Built Expression}
    (h : frame.composeWait site trail s chained = .ok (b, after)) :
    frame.Waits site trail s b after := by
  obtain ⟨hinner, inner, ps, required, -, hpredicate, -, rfl, rfl⟩ := Frame.composeWait_eq_ok h
  exact .mk hinner hpredicate
    (Frame.emit_yields fun _ => Frame.predicateType_holdsValue hpredicate).asWait

/-! ## Statements of a method -/

/-- The line that returns does nothing else. -/
theorem Frame.mem_returnLine {b : Built Expression} {line : Line Expression}
    (h : line ∈ frame.returnLine b) : ∃ v, line = .give v := by
  unfold Frame.returnLine at h
  split at h
  · exact absurd h (by simp)
  · split at h
    · exact ⟨_, List.mem_singleton.mp h⟩
    · split at h
      · exact ⟨_, List.mem_singleton.mp h⟩
      · exact absurd h (by simp)

theorem Frame.filterMap_returnLine {α : Type} {b : Built Expression} {f : Line Expression → Option α}
    (hgive : ∀ v, f (.give v) = none) : (frame.returnLine b).filterMap f = [] := by
  refine List.filterMap_eq_nil_iff.mpr fun line hline => ?_
  obtain ⟨v, rfl⟩ := Frame.mem_returnLine hline
  exact hgive v

/-- A composed statement is what a wait or an action becomes, with the line that returns. -/
theorem Frame.composeStatement_eq_ok {trail after : Trail} {chained : Bool} {b : Built Expression}
    (h : frame.composeStatement site trail s chained = .ok (b, after)) :
    (s.isWait = true ∧ ∃ b', frame.composeWait site trail s chained = .ok (b', after) ∧
      b = frame.finish b') ∨
    (s.isWait = false ∧ ∃ b', frame.stepAction site trail s = .ok (b', after) ∧
      b = frame.finish (b'.map .simple)) := by
  unfold Frame.composeStatement at h
  simp only at h
  rw [ite_bind] at h
  obtain ⟨⟨b', trail'⟩, hbuilt, h⟩ := bind_eq_ok.mp h
  obtain ⟨rfl, rfl⟩ := by simpa [pure_eq_ok] using h
  split at hbuilt
  · rename_i hwait
    exact Or.inl ⟨hwait, b', hbuilt, rfl⟩
  · rename_i hwait
    obtain ⟨⟨b'', trail''⟩, hstep, he⟩ := map_eq_ok.mp hbuilt
    obtain ⟨rfl, rfl⟩ := by simpa using he
    exact Or.inr ⟨by simpa using hwait, b'', hstep, rfl⟩

theorem Frame.composeStatement_cases {trail after : Trail} {chained : Bool} {b : Built Expression}
    (h : frame.composeStatement site trail s chained = .ok (b, after)) :
    (s.isWait = true ∧ ∃ b', frame.Waits site trail s b' after ∧ b = frame.finish b') ∨
    (s.isWait = false ∧ ∃ b', frame.stepAction site trail s = .ok (b', after) ∧
      b = frame.finish (b'.map .simple)) := by
  obtain ⟨hwait, b', hwaits, rfl⟩ | haction := Frame.composeStatement_eq_ok h
  · exact Or.inl ⟨hwait, b', Frame.composeWait_waits hwaits, rfl⟩
  · exact Or.inr haction

/-- **What a step of a method builds.** The statement yields one of the three shapes, then the line
that returns; its type is the previous type of the next statement. -/
theorem Frame.MethodStep.yields {count index : Nat} {before after : Trail} {rest : List Statement}
    {b : Built Expression} (h : frame.MethodStep count index before s rest b after) :
    ∃ site, frame.siteOf false count index before.previous s = .ok site ∧
      after.previous = some b.returnType ∧
      ∃ lines value resolved b', site.Yields lines value resolved b' ∧ b = frame.finish b' := by
  obtain ⟨site, hsite, hstep⟩ := h
  refine ⟨site, hsite, ?_⟩
  obtain ⟨-, b', hwaits, rfl⟩ | ⟨-, b', hstep', rfl⟩ := Frame.composeStatement_cases hstep
  · cases hwaits with
    | mk hinner hpredicate hyields => exact ⟨rfl, _, _, _, b', hyields, rfl⟩
  · obtain ⟨more, ⟨-, -, -, hyields⟩, -, hprevious⟩ := Frame.stepAction_acts hstep'
    exact ⟨hprevious, _, _, _, _, hyields.map .simple, rfl⟩

/-- **A wait of a composed method** has a predicate that is composed on its own, and becomes the closure of
it and nothing else. -/
theorem compose_wait {ss : List Statement} {c : Composition} {i : Nat} (h : compose frame ss = .ok c)
    (hs : ss[i]? = some s) (hwait : s.isWait = true) :
    ∃ site previous inner parameters more required binds,
      frame.siteOf false ss.length i previous s = .ok site ∧ s.inner ≠ [] ∧
      frame.composePredicate parameters s.inner = .ok (inner, more) ∧
      c.statements[i]? = some (frame.finish
        { Frame.emit site [] (.wait (inner.flatMap Built.lines) (predicateResult inner))
            (predicateType inner) required binds with isWait := true }) := by
  obtain ⟨last, -, hwalk, -⟩ := compose_threaded h
  obtain ⟨before, b, after, hb, ⟨site, hsite, hstep⟩, -⟩ :=
    hwalk.step_at (fun _ => True) trivial (fun _ _ => trivial) hs
  rw [Nat.zero_add] at hsite
  obtain ⟨-, b', hwaits, rfl⟩ | ⟨hnone, -⟩ := Frame.composeStatement_eq_ok hstep
  · obtain ⟨hinner, inner, ps, required, -, hpredicate, -, rfl, -⟩ := Frame.composeWait_eq_ok hwaits
    exact ⟨site, _, inner, _, ps, required, _, hsite, hinner, hpredicate, hb⟩
  · exact absurd hwait (by simp [hnone])

end PageObjects
