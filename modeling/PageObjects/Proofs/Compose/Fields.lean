import PageObjects.Proofs.Compose.Chain
import PageObjects.Proofs.Compose.Parameters

/-!
# What the fields of a statement do

A statement may carry arguments, a matcher and a chain, whatever it does. A statement that calls an
action shows all of them in its code; one that names an element and calls nothing shows its matcher. Of a
wait, nothing is read but its predicate and the type that it declares: its element, arguments and matcher
leave no trace, and its chain is read by a wait in front of it only. The fields are those of the
Statement Descriptor (specification, 3); a chain in the first statement of a sequence is a
`ChainReferenceError` by its section 7.

* `Shows`: a part of a text.
* `Built.Heeds`: the arguments and the matcher of a statement show in its code.
* **`compose_heeds`**: statements that are no waits are heeded, in a method and in a predicate, and a
  chain is called on the value before it.
* **`compose_withoutIdle`**, **`compose_wait_chain`**: what a method becomes does not depend on the
  fields that are not heeded.
-/

namespace PageObjects

/-! ## Parts of texts -/

/-- The text has the part in it. -/
def Shows (text part : String) : Prop := ∃ front back, text = front ++ part ++ back

namespace Shows

variable {text part inner : String}

theorem refl (text : String) : Shows text text := ⟨"", "", by simp⟩

theorem trans (h : Shows text inner) (hinner : Shows inner part) : Shows text part := by
  obtain ⟨front, back, rfl⟩ := h
  obtain ⟨front', back', rfl⟩ := hinner
  exact ⟨front ++ front', back' ++ back, by simp only [String.append_assoc]⟩

theorem left (front : String) (h : Shows text part) : Shows (front ++ text) part := by
  obtain ⟨front', back, rfl⟩ := h
  exact ⟨front ++ front', back, by simp only [String.append_assoc]⟩

theorem right (back : String) (h : Shows text part) : Shows (text ++ back) part := by
  obtain ⟨front, back', rfl⟩ := h
  exact ⟨front, back' ++ back, by simp only [String.append_assoc]⟩

theorem intercalate {separator : String} : ∀ {parts : List String} {part : String}, part ∈ parts →
    Shows (separator.intercalate parts) part
  | [only], part, h => by
    obtain rfl := List.mem_singleton.mp h
    rw [String.intercalate_singleton]
    exact refl part
  | first :: next :: rest, part, h => by
    rw [String.intercalate_cons_cons]
    rcases List.mem_cons.mp h with rfl | h
    · exact ((refl part).right separator).right _
    · exact (intercalate h).left _

end Shows

theorem Operand.codeOfList_shows {operands : List Operand} {o : Operand} (h : o ∈ operands) :
    Shows (codeOfList operands) o.code :=
  .intercalate (List.mem_map_of_mem h)

/-- A call shows its action with its operands, however it is spread. -/
theorem Call.text_shows (c : Call) :
    Shows c.text (c.action ++ "(" ++ Operand.codeOfList c.operands ++ ")") := by
  have hinvocation : Shows c.invocation c.invocation := .refl _
  unfold Call.text
  cases c.spread with
  | single => exact hinvocation.left _
  | forEach => exact (hinvocation.left _).right _
  | map => exact (hinvocation.left _).right _
  | flatMap => exact (hinvocation.left _).right _

/-- A line shows the expression that it evaluates. -/
theorem Line.text_shows {ε : Type} {expression : ε → String} {line : Line ε} {value : ε}
    (h : line.value? = some value) : Shows (line.text expression) (expression value) := by
  cases line with
  | bind type name value' =>
    obtain rfl := Option.some.inj h
    unfold Line.text
    exact (Shows.refl _).left _
  | perform value' =>
    obtain rfl := Option.some.inj h
    exact .refl _
  | verdict name kind operand arguments => exact absurd h (by simp [Line.value?])
  | give value' => exact absurd h (by simp [Line.value?])

/-- A check shows its arguments, when it has one for each of its parameters. -/
theorem MatcherKind.expression_shows {kind : MatcherKind} {value part : String}
    {arguments : List String} (hcount : arguments.length = kind.parameters.length)
    (hpart : part ∈ arguments) : Shows (kind.expression value arguments) part := by
  have hone : arguments.length ≤ 1 := by
    rw [hcount]
    cases kind <;> decide
  obtain rfl : arguments = [part] := by
    match arguments, hpart, hone with
    | [only], hpart, _ => rw [List.mem_singleton.mp hpart]
  cases kind with
  | isTrue => exact absurd hcount (by simp [MatcherKind.parameters])
  | isFalse => exact absurd hcount (by simp [MatcherKind.parameters])
  | notNull => exact absurd hcount (by simp [MatcherKind.parameters])
  | stringContains =>
    unfold MatcherKind.expression
    exact ((Shows.refl part).left _).right _
  | stringEquals =>
    unfold MatcherKind.expression
    exact ((Shows.refl part).left _).right _

/-- A verdict shows its operands. -/
theorem Line.verdict_shows {ε : Type} {expression : ε → String} {name value : String}
    {kind : MatcherKind} {operands : List Operand} {o : Operand}
    (hcount : operands.length = kind.parameters.length) (ho : o ∈ operands) :
    Shows ((verdict name kind value operands).text expression) o.code := by
  have hargument : Shows (kind.expression value (operands.map Operand.code)) o.code :=
    MatcherKind.expression_shows (by rw [List.length_map, hcount]) (List.mem_map_of_mem ho)
  unfold text
  exact hargument.left _

theorem MatcherKind.find_parameters {name : String} {count : Nat} {kind : MatcherKind}
    (h : find name count = .ok kind) : count = kind.parameters.length := by
  unfold find at h
  split at h
  · exact absurd h (by simp)
  · rename_i found hfound
    split at h
    · rename_i hcount
      obtain rfl := Except.ok.inj h
      exact_mod_cast beq_iff_eq.mp hcount
    · exact absurd h (by simp)

theorem Renders.length_eq {args : List Argument} {operands : List Operand} (h : Renders args operands) :
    args.length = operands.length := by
  have hlength := congrArg List.length h
  rwa [List.length_map, List.length_map] at hlength

/-! ## Statements that are heeded -/

/-- Every parameter among the arguments is declared, with the type that the argument gives it. -/
def Covers (parameters : List Parameter) (args : List Argument) : Prop :=
  ∀ (name keyword : String), .parameter name keyword ∈ args →
    ∃ p ∈ parameters, p.name = name ∧ ResultType.primitives.lookup keyword = some p.type

/-- The arguments and the matcher of a statement show in what it has become. -/
structure Built.Heeds (b : Built Expression) (s : Statement) (index : Nat) (inPredicate : Bool)
    (parameters : List Parameter) : Prop where
  /-- An action is called with the operands that the arguments become, all of them and in order. -/
  called : ∀ name, s.action = some name → ∃ operands, Renders s.args operands ∧
    ∃ line ∈ b.emitted.codeLines, Shows line (name ++ "(" ++ Operand.codeOfList operands ++ ")")
  /-- A matcher binds its verdict on the value of the statement, which makes the statement one of type
  Boolean. -/
  judged : ∀ m, s.matcher = some m →
    b.variableName = some (Naming.matcherVariable index inPredicate) ∧ b.returnType = .boolean ∧
    ∃ kind operands, MatcherKind.find m.type m.args.length = .ok kind ∧ Renders m.args operands ∧
      "Boolean " ++ Naming.matcherVariable index inPredicate ++ " = " ++
        kind.expression (Naming.statementVariable index inPredicate) (operands.map Operand.code) ∈
          b.emitted.codeLines
  /-- Every argument stands in a line of the code. -/
  shown : ∀ a ∈ s.ownArguments, ∃ o, Operand.ofArgument a = .ok o ∧
    ∃ line ∈ b.emitted.codeLines, Shows line o.code
  /-- Every parameter among them is one of the method. -/
  declared : Covers parameters s.ownArguments

/-- The line that returns hides nothing. -/
theorem Built.Heeds.finish (frame : Frame) {b : Built Expression} {s : Statement} {index : Nat}
    {inPredicate : Bool} {parameters : List Parameter} (h : b.Heeds s index inPredicate parameters) :
    (frame.finish b).Heeds s index inPredicate parameters := by
  have hlines : ∀ line ∈ b.emitted.codeLines, line ∈ (frame.finish b).emitted.codeLines := by
    intro line hline
    change line ∈ (b.lines ++ frame.returnLine b).map (Line.text Expression.text)
    rw [List.map_append]
    exact List.mem_append_left _ hline
  constructor
  · intro name haction
    obtain ⟨operands, hrenders, line, hline, hshows⟩ := h.called name haction
    exact ⟨operands, hrenders, line, hlines line hline, hshows⟩
  · intro m hmatcher
    obtain ⟨hvariable, htype, kind, operands, hkind, hrenders, hline⟩ := h.judged m hmatcher
    exact ⟨hvariable, htype, kind, operands, hkind, hrenders, hlines _ hline⟩
  · intro a ha
    obtain ⟨o, ho, line, hline, hshows⟩ := h.shown a ha
    exact ⟨o, ho, line, hlines line hline, hshows⟩
  · exact h.declared

variable {frame : Frame} {site : Site} {s : Statement} {lookups : Lookups}

theorem Site.Yields.exists_line {ε : Type} {before : List (Line ε)} {value : ε}
    {resolved : ResultType} {b : Built ε} (h : site.Yields before value resolved b) :
    ∃ line ∈ b.lines, line.value? = some value := by
  cases h with
  | dropped ht => exact ⟨.perform value, by simp, rfl⟩
  | bound hvalue => exact ⟨.bind resolved site.variableName value, by simp, rfl⟩
  | judged hvalue => exact ⟨.bind resolved site.variableName value, by simp, rfl⟩

/-- A composed action calls what it is to call, with its arguments. -/
theorem Frame.composeAction_called {b : Built Simple} {after : Lookups} {ps : List Parameter}
    {name : String} (h : frame.composeAction site lookups s = .ok (b, after, ps))
    (haction : s.action = some name) : ∃ operands, Renders s.args operands ∧
      ∃ line ∈ b.lines, Shows (line.text Simple.text)
        (name ++ "(" ++ Operand.codeOfList operands ++ ")") := by
  obtain ⟨-, -, hevaluates, hyields⟩ := Frame.composeAction_acts h
  obtain ⟨line, hline, hvalue⟩ := hyields.exists_line
  cases hevaluates with
  | getter hnone helement hfits => exact absurd haction (by simp [hnone])
  | call hname hof hoperands hcheck hinvocation hfits =>
    obtain rfl := Option.some.inj (hname.symm.trans haction)
    exact ⟨_, (Frame.operands_eq_ok hoperands).1, line, hline,
      (Line.text_shows hvalue).trans (Call.text_shows _)⟩

/-- A composed action binds the verdict of its matcher on its value. -/
theorem Frame.composeAction_judged {b : Built Simple} {after : Lookups} {ps : List Parameter}
    {m : Matcher} (h : frame.composeAction site lookups s = .ok (b, after, ps))
    (hmatcher : s.matcher = some m) :
    b.variableName = some site.matcherVariable ∧ b.returnType = .boolean ∧
      ∃ kind operands, MatcherKind.find m.type m.args.length = .ok kind ∧ Renders m.args operands ∧
        .verdict site.matcherVariable kind site.variableName operands ∈ b.lines := by
  obtain ⟨r, lines, value, resolved, own, hreaches, hevaluates, hconclude⟩ :=
    Frame.composeAction_stages h
  obtain ⟨hnone, -, -⟩ | ⟨m', variableName, kind, operands, hm', hvariable, hkind, hoperands, rfl⟩ :=
    Frame.conclude_cases hreaches hevaluates hconclude
  · exact absurd hmatcher (by simp [hnone])
  · obtain rfl := Option.some.inj (hm'.symm.trans hmatcher)
    obtain rfl : variableName = site.variableName := by
      unfold Frame.emitted Frame.emit at hvariable
      split at hvariable
      · exact (Option.some.inj hvariable).symm
      · exact absurd hvariable (by simp)
    exact ⟨rfl, rfl, kind, operands, hkind, (Frame.operands_eq_ok hoperands).1, by simp⟩

/-- **A composed action heeds its arguments and its matcher.** -/
theorem Frame.composeAction_heeds {b : Built Simple} {after : Lookups} {ps parameters : List Parameter}
    {index : Nat} {inPredicate : Bool} (hindex : site.index = index)
    (hpredicate : site.inPredicate = inPredicate)
    (hdeclared : Covers parameters s.ownArguments)
    (h : frame.composeAction site lookups s = .ok (b, after, ps)) :
    (b.map Expression.simple).Heeds s index inPredicate parameters := by
  have hlines : ∀ line ∈ b.lines,
      line.text Simple.text ∈ (b.map Expression.simple).emitted.codeLines := by
    intro line hline
    refine List.mem_map.mpr ⟨line.map .simple, List.mem_map_of_mem hline, ?_⟩
    cases line <;> rfl
  refine { called := ?_, judged := ?_, shown := ?_, declared := hdeclared }
  · intro name haction
    obtain ⟨operands, hrenders, line, hline, hshows⟩ := Frame.composeAction_called h haction
    exact ⟨operands, hrenders, _, hlines line hline, hshows⟩
  · intro m hmatcher
    obtain ⟨hvariable, htype, kind, operands, hkind, hrenders, hline⟩ :=
      Frame.composeAction_judged h hmatcher
    have htext := hlines _ hline
    rw [Site.matcherVariable, Site.variableName, hindex, hpredicate] at htext
    rw [Site.matcherVariable, hindex, hpredicate] at hvariable
    exact ⟨hvariable, htype, kind, operands, hkind, hrenders, htext⟩
  · intro a ha
    rcases List.mem_append.mp ha with hargs | hmatcherArgs
    · split at hargs
      · rename_i hsome
        obtain ⟨name, haction⟩ := Option.isSome_iff_exists.mp hsome
        obtain ⟨operands, hrenders, line, hline, hshows⟩ := Frame.composeAction_called h haction
        obtain ⟨o, ho, hoperand⟩ := hrenders.exists_operand hargs
        exact ⟨o, hoperand, _, hlines line hline,
          hshows.trans (((Operand.codeOfList_shows ho).left _).right _)⟩
      · exact absurd hargs (by simp)
    · cases hmatcher : s.matcher with
      | none => exact absurd hmatcherArgs (by simp [hmatcher])
      | some m =>
        have ham : a ∈ m.args := by simpa [hmatcher] using hmatcherArgs
        obtain ⟨-, -, kind, operands, hkind, hrenders, hline⟩ :=
          Frame.composeAction_judged h hmatcher
        obtain ⟨o, ho, hoperand⟩ := hrenders.exists_operand ham
        have hcount : operands.length = kind.parameters.length := by
          rw [← hrenders.length_eq]
          exact MatcherKind.find_parameters hkind
        exact ⟨o, hoperand, _, hlines _ hline, Line.verdict_shows hcount ho⟩

/-! ## Methods -/

/-- The fields of the statements show in the code of a method, except for those of its waits. -/
structure Composition.Heeds (c : Composition) (ss : List Statement) : Prop where
  /-- A statement that is no wait is heeded. -/
  actions : ∀ (i : Nat) (s : Statement), ss[i]? = some s → s.isWait = false →
    ∃ b, c.statements[i]? = some b ∧ b.Heeds s i false c.body.parameters
  /-- If it chains, it calls its action on the variable of the statement before it. -/
  chained : ∀ (i : Nat) (s : Statement), ss[i]? = some s → s.isWait = false → s.chain = true →
    0 < i ∧ ∃ previous b call, c.statements[i - 1]? = some previous ∧ c.statements[i]? = some b ∧
      b.values = [.simple (.call call)] ∧ s.action = some call.action ∧
      previous.variableName = some call.receiver
  /-- A wait evaluates the code of its predicate, whose statements are no waits, do not chain, and are
  heeded. -/
  waits : ∀ (i : Nat) (s : Statement), ss[i]? = some s → s.isWait = true →
    ∃ (b : Built Expression) (inner : List (Built Simple)) (result : String),
      c.statements[i]? = some b ∧ b.values = [.wait (inner.flatMap Built.lines) result] ∧
      ∀ (k : Nat) (t : Statement), s.inner[k]? = some t → t.isWait = false ∧ t.chain = false ∧
        ∃ b', inner[k]? = some b' ∧ (b'.map Expression.simple).Heeds t k true c.body.parameters

/-- A step of a method heeds its statement, unless it is a wait. -/
theorem Frame.MethodStep.heeds {count index : Nat} {before after : Trail} {rest : List Statement}
    {b : Built Expression} {parameters : List Parameter}
    (h : frame.MethodStep count index before s rest b after) (hwait : s.isWait = false)
    (hdeclared : Covers parameters s.ownArguments) : b.Heeds s index false parameters := by
  obtain ⟨site, hsite, hstep⟩ := h
  obtain ⟨-, hindex, -, hpredicate, -⟩ := Frame.siteOf_eq_ok hsite
  obtain ⟨hwait', -⟩ | ⟨-, b', haction', rfl⟩ := Frame.composeStatement_eq_ok hstep
  · exact absurd hwait' (by simp [hwait])
  · obtain ⟨more, haction, -⟩ := Frame.stepAction_eq_ok haction'
    exact (Frame.composeAction_heeds hindex hpredicate hdeclared haction).finish frame

/-- A step of a predicate heeds its statement, which is no wait and does not chain. -/
theorem Frame.PredicateStep.heeds {count index : Nat} {before after : Trail} {rest : List Statement}
    {b : Built Simple} {parameters : List Parameter}
    (h : frame.PredicateStep count index before s rest b after)
    (hdeclared : Covers parameters s.ownArguments) :
    s.isWait = false ∧ s.chain = false ∧ (b.map Expression.simple).Heeds s index true parameters := by
  obtain ⟨site, hsite, hwait, hstep⟩ := h
  obtain ⟨-, hindex, -, hpredicate, -⟩ := Frame.siteOf_eq_ok hsite
  obtain ⟨more, haction, -⟩ := Frame.stepAction_eq_ok hstep
  obtain ⟨hplace, -⟩ := Frame.composeAction_acts haction
  exact ⟨hwait, by simpa [hpredicate] using hplace,
    Frame.composeAction_heeds hindex hpredicate hdeclared haction⟩

/-- A chained statement that is no wait is called on the variable of the statement before it. -/
theorem compose_chained {ss : List Statement} {c : Composition} {i : Nat}
    (h : compose frame ss = .ok c) (hs : ss[i]? = some s) (hchecked : s.check = .ok s)
    (hwait : s.isWait = false) (hchain : s.chain = true) :
    0 < i ∧ ∃ previous b call, c.statements[i - 1]? = some previous ∧ c.statements[i]? = some b ∧
      b.values = [.simple (.call call)] ∧ s.action = some call.action ∧
      previous.variableName = some call.receiver := by
  obtain ⟨last, -, hwalk, -⟩ := compose_threaded h
  cases i with
  | zero =>
    obtain ⟨before, b, after, -, hstep, -⟩ :=
      hwalk.step_at (fun _ => True) trivial (fun _ _ => trivial) hs
    exact absurd (hstep.values_of_chain hchecked hchain hwait).1 (by simp)
  | succ i =>
    have hi : i < ss.length := by
      have := (List.getElem?_eq_some_iff.mp hs).1
      omega
    obtain ⟨before, previous, middle, b, after, hprevious, hb, hfirst, hsecond⟩ :=
      hwalk.link (List.getElem?_eq_getElem hi) hs
    obtain ⟨-, type, call, hmiddle, hchainable, hvalues, haction, hreceiver, -⟩ :=
      hsecond.values_of_chain hchecked hchain hwait
    refine ⟨by omega, previous, b, call, hprevious, hb, hvalues, haction, ?_⟩
    rw [hfirst.variable_of_chainable hmiddle hchainable, hreceiver, Naming.chainVariable,
      show ((0 + (i + 1) : Nat) : Int) - 1 = (0 + i : Nat) by omega]
    rfl

/-- There is nothing to chain on at the beginning of a method. -/
theorem Frame.composeStatement_chain_first {trail : Trail} {chained : Bool} (hindex : site.index = 0)
    (hplace : site.inPredicate = false) (haction : s.action ≠ none) (hwait : s.isWait = false)
    (hchain : s.chain = true) : frame.composeStatement site trail s chained =
      .error (.statement frame.method 0 false .chainOnNothing) := by
  have hreceiver : frame.receiver site trail.lookups s =
      .error (.statement frame.method 0 false .chainOnNothing) := by
    unfold Frame.receiver Frame.chainReceiver Frame.fail
    simp [hchain, Site.isFirst, hindex, hplace, Except.map]
  have hnone : s.action.isNone = false :=
    Option.isNone_eq_false_iff.mpr (Option.isSome_iff_ne_none.mpr haction)
  unfold Frame.composeStatement Frame.stepAction Frame.composeAction
  simp [hwait, hchain, hplace, hnone, hreceiver, bind, Except.bind, Except.map]

/-- No chain begins a method, unless it is that of a wait. -/
theorem compose_chain_first {rest : List Statement} (hchecked : s.check = .ok s)
    (hwait : s.isWait = false) (hchain : s.chain = true) :
    ∃ e, compose frame (s :: rest) = .error e ∧
      (e = .statement frame.method 0 false .chainOnNothing ∨
        ∃ e', frame.page.resolve s.returnType s.returnAll = .error e' ∧ e = .type e') := by
  have haction := Statement.action_of_chain hchecked hchain
  cases hsite : frame.siteOf false (rest.length + 1) 0 none s with
  | error e =>
    refine ⟨e, by simp [compose, Frame.composeSequence, hsite, bind, Except.bind], Or.inr ?_⟩
    unfold Frame.siteOf at hsite
    split at hsite
    · exact absurd hsite (by simp)
    · rename_i e' hresolve
      exact ⟨e', hresolve, (Except.error.inj hsite).symm⟩
  | ok site =>
    obtain ⟨-, hindex, -, hplace, -⟩ := Frame.siteOf_eq_ok hsite
    refine ⟨_, ?_, Or.inl rfl⟩
    simp [compose, Frame.composeSequence, hsite,
      Frame.composeStatement_chain_first hindex hplace haction hwait hchain, bind, Except.bind]

/-- **Fields are heeded.** In a composed method, the arguments and the matcher of every statement that is
no wait show in its code, in a predicate too, and its chain is called on the value before it; so no such
chain begins a method. -/
theorem compose_heeds {ss : List Statement} (hchecked : ∀ s ∈ ss, s.check = .ok s) :
    (∀ c, compose frame ss = .ok c → c.Heeds ss) ∧
    (∀ s, ss.head? = some s → s.isWait = false → s.chain = true →
      ∃ e, compose frame ss = .error e ∧ (e = .statement frame.method 0 false .chainOnNothing ∨
        ∃ e', frame.page.resolve s.returnType s.returnAll = .error e' ∧ e = .type e')) := by
  constructor
  · intro c h
    obtain ⟨last, -, hwalk, -⟩ := compose_threaded h
    obtain ⟨hrendered, hgathered⟩ := compose_gathered h
    have hdeclared : ∀ s ∈ ss, Covers c.body.parameters s.arguments := by
      intro s hs name keyword ha
      obtain ⟨p, hp, hname⟩ := hrendered.occurs (List.mem_flatMap.mpr ⟨s, hs, ha⟩)
      exact ⟨p, hgathered.mem_iff.mpr hp, hname⟩
    refine { actions := ?_, chained := ?_, waits := ?_ }
    · intro i s hs hwait
      obtain ⟨before, b, after, hb, hstep, -⟩ :=
        hwalk.step_at (fun _ => True) trivial (fun _ _ => trivial) hs
      have hown := hdeclared s (List.mem_of_getElem? hs)
      rw [Statement.arguments, if_neg (by simp [hwait])] at hown
      rw [Nat.zero_add] at hstep
      exact ⟨b, hb, hstep.heeds hwait hown⟩
    · intro i s hs hwait hchain
      exact compose_chained h hs (hchecked s (List.mem_of_getElem? hs)) hwait hchain
    · intro i s hs hwait
      obtain ⟨site, previous, inner, ps, more, required, binds, -, -, hpredicate, hb⟩ :=
        compose_wait h hs hwait
      refine ⟨_, inner, predicateResult inner, hb, ?_, ?_⟩
      · rw [Frame.finish_values]
        exact Frame.emit_values
      · intro k t ht
        obtain ⟨last', hinner, -⟩ := Frame.composePredicate_threaded hpredicate
        obtain ⟨before, b', after, hb', hstep, -⟩ :=
          hinner.step_at (fun _ => True) trivial (fun _ _ => trivial) ht
        have hown := hdeclared s (List.mem_of_getElem? hs)
        rw [Statement.arguments, if_pos hwait] at hown
        rw [Nat.zero_add] at hstep
        obtain ⟨hplain, hchain, hheeds⟩ := hstep.heeds fun name keyword ha =>
          hown name keyword (List.mem_flatMap.mpr ⟨t, List.mem_of_getElem? ht, ha⟩)
        exact ⟨hplain, hchain, b', hb', hheeds⟩
  · intro s hs hwait hchain
    obtain ⟨rest, rfl⟩ := List.head?_eq_some_iff.mp hs
    exact compose_chain_first (hchecked s List.mem_cons_self) hwait hchain

theorem typeText_heeds :
    (∃ c, compose typeText.1 typeText.2 = .ok c ∧ c.Heeds typeText.2) ∧
    (∃ c, compose clickLinks.1 clickLinks.2 = .ok c ∧ c.Heeds clickLinks.2) ∧
    ∃ e, compose clickLinks.1 [{ action := some "click", chain := true }] = .error e ∧
      e.kind = .chainReference := by
  have hok : (compose typeText.1 typeText.2).toOption.any (fun _ => true) = true := by decide
  obtain ⟨c, hc, -⟩ := exists_eq_ok hok
  obtain ⟨c', hc'⟩ := clickLinks_composed
  have hchained : ∀ s ∈ [({ action := some "click", chain := true } : Statement)],
      s.check = .ok s := by
    simp [Statement.check, Statement.isWait, Statement.waitAction]
  refine ⟨⟨c, hc, (compose_heeds ?_).1 c hc⟩, ⟨c', hc', (compose_heeds ?_).1 c' hc'⟩, ?_⟩
  · simp [typeText, Statement.check, Statement.isWait, Statement.waitAction]
  · simp [clickLinks, Statement.check, Statement.isWait, Statement.waitAction]
  · obtain ⟨e, he, rfl | ⟨e', htype, -⟩⟩ := (@compose_heeds clickLinks.1 _ hchained).2 _ rfl rfl rfl
    · exact ⟨_, he, rfl⟩
    · have hresolve : clickLinks.1.page.resolve none false = .ok .unset := rfl
      exact absurd (hresolve.symm.trans htype) (by simp)

/-- Statements for the page of `typeText`: a wait that begins with a chain, takes an argument and is
judged, and an element that takes one. -/
def idleFields : List Statement :=
  [{ action := some "waitFor", args := [.parameter "limit" "number"], chain := true,
     matcher := some ⟨"isFalse", []⟩,
     predicate := some [{ element := some "field", action := some "isPresent" }] },
   { element := some "field", args := [.parameter "text" "string"] }]

/-- Waits are not heeded, nor are the arguments of an element: the chain in front refuses nothing, the
matcher binds no verdict, and the arguments are neither in the code nor among the parameters. -/
theorem idleFields_ignored : (∀ s ∈ idleFields, s.check = .ok s) ∧
    ∃ wait c b, idleFields.head? = some wait ∧ wait.chain = true ∧ wait.matcher ≠ none ∧
      compose typeText.1 idleFields = .ok c ∧ c.statements.head? = some b ∧
      b.variableName = none ∧ b.returnType = .void ∧
      (∀ s ∈ idleFields, s.args ≠ []) ∧ c.operands = [] ∧ c.body.parameters = [] := by
  have hok : (compose typeText.1 idleFields).toOption.any (fun c =>
      c.statements.head?.any (fun b => b.variableName == none && b.returnType == .void) &&
        c.operands == [] && c.parameters == []) = true := by decide
  obtain ⟨c, hc, hempty⟩ := exists_eq_ok hok
  simp only [Bool.and_eq_true, beq_iff_eq, Option.any_eq_true] at hempty
  obtain ⟨⟨⟨b, hb, hvariable, htype⟩, hoperands⟩, hparameters⟩ := hempty
  refine ⟨?_, _, c, b, rfl, rfl, nofun, hc, hb, hvariable, htype, ?_, hoperands, hparameters⟩
  · simp [idleFields, Statement.check, Statement.isWait, Statement.waitAction]
  · simp [idleFields]

/-! ## Fields that are not heeded -/

/-- The statement without the fields that its code has no use for: the element, the arguments and the
matcher of a wait, and the arguments of a statement that calls nothing. -/
def Statement.withoutIdle (s : Statement) : Statement :=
  if s.isWait then { s with element := none, args := [], matcher := none }
  else if s.action.isNone then { s with args := [] }
  else s

/-- The same in its predicate, too. -/
def Statement.withoutIdleWithin (s : Statement) : Statement :=
  { s.withoutIdle with predicate := s.predicate.map (List.map Statement.withoutIdle) }

namespace Statement

@[simp]
theorem withoutIdle_action : s.withoutIdle.action = s.action := by
  unfold withoutIdle
  split_ifs <;> rfl

@[simp]
theorem withoutIdle_chain : s.withoutIdle.chain = s.chain := by
  unfold withoutIdle
  split_ifs <;> rfl

@[simp]
theorem withoutIdle_isWait : s.withoutIdle.isWait = s.isWait := by
  unfold isWait
  rw [withoutIdle_action]

@[simp]
theorem withoutIdleWithin_isWait : s.withoutIdleWithin.isWait = s.isWait := withoutIdle_isWait

@[simp]
theorem withoutIdleWithin_chain : s.withoutIdleWithin.chain = s.chain := withoutIdle_chain

theorem withoutIdleWithin_inner : s.withoutIdleWithin.inner = s.inner.map withoutIdle := by
  unfold withoutIdleWithin inner
  cases s.predicate <;> rfl

end Statement

namespace Frame

variable {inPredicate chained : Bool} {count : Nat} {previous : Option ResultType}

@[simp]
theorem siteOf_withoutIdle {index : Nat} :
    frame.siteOf inPredicate count index previous s.withoutIdle =
      frame.siteOf inPredicate count index previous s := by
  unfold Statement.withoutIdle
  split_ifs <;> rfl

/-- Without an action there is no call for the arguments. -/
theorem composeAction_withoutIdle (hwait : s.isWait = false) :
    frame.composeAction site lookups s.withoutIdle = frame.composeAction site lookups s := by
  unfold Statement.withoutIdle
  rw [if_neg (by simp [hwait])]
  split
  · rename_i hnone
    have haction : s.action = none := by simpa using hnone
    unfold composeAction expression
    simp only [haction]
    rfl
  · rfl

theorem stepAction_withoutIdle {trail : Trail} (hwait : s.isWait = false) :
    frame.stepAction site trail s.withoutIdle = frame.stepAction site trail s := by
  unfold stepAction
  rw [composeAction_withoutIdle hwait]

theorem composePredicateFrom_withoutIdle : ∀ (ss : List Statement) {index : Nat} {trail : Trail},
    frame.composePredicateFrom count index trail (ss.map Statement.withoutIdle) =
      frame.composePredicateFrom count index trail ss
  | [], index, trail => rfl
  | s :: rest, index, trail => by
    simp only [List.map_cons, composePredicateFrom, siteOf_withoutIdle, Statement.withoutIdle_isWait]
    refine congrArg _ (funext fun site => ?_)
    cases hwait : s.isWait with
    | true => rfl
    | false =>
      simp only [stepAction_withoutIdle hwait, composePredicateFrom_withoutIdle rest]

/-- A wait reads its predicate only. -/
theorem composeWait_withoutIdle {trail : Trail} :
    frame.composeWait site trail s.withoutIdleWithin chained =
      frame.composeWait site trail s chained := by
  have hpredicate : frame.composePredicate trail.parameters s.withoutIdleWithin.inner =
      frame.composePredicate trail.parameters s.inner := by
    unfold composePredicate
    rw [Statement.withoutIdleWithin_inner, List.length_map, composePredicateFrom_withoutIdle]
  have hempty : s.withoutIdleWithin.inner.isEmpty = s.inner.isEmpty := by
    rw [Statement.withoutIdleWithin_inner, List.isEmpty_map]
  unfold composeWait
  rw [hpredicate, hempty]

theorem composeStatement_withoutIdle {trail : Trail} :
    frame.composeStatement site trail s.withoutIdleWithin chained =
      frame.composeStatement site trail s chained := by
  unfold composeStatement
  rw [composeWait_withoutIdle, Statement.withoutIdleWithin_isWait]
  cases hwait : s.isWait with
  | true => rfl
  | false =>
    have hstep : frame.stepAction site trail s.withoutIdleWithin = frame.stepAction site trail s :=
      stepAction_withoutIdle hwait
    rw [hstep]

theorem composeSequence_withoutIdle : ∀ (ss : List Statement) {index : Nat} {trail : Trail},
    frame.composeSequence count index trail (ss.map Statement.withoutIdleWithin) =
      frame.composeSequence count index trail ss
  | [], index, trail => rfl
  | s :: rest, index, trail => by
    have hsite : ∀ previous, frame.siteOf false count index previous s.withoutIdleWithin =
        frame.siteOf false count index previous s := fun _ => siteOf_withoutIdle
    have hnext : (rest.map Statement.withoutIdleWithin).head?.map Statement.chain =
        rest.head?.map Statement.chain := by
      cases rest <;> simp
    simp only [List.map_cons, composeSequence, hsite, hnext, composeStatement_withoutIdle,
      composeSequence_withoutIdle rest]

/-- The chain of a wait calls nothing. Only a wait asks whether the next statement chains. -/
theorem composeSequence_wait_chain {rest : List Statement} (hwait : s.isWait = true) :
    ∀ {front : List Statement} {index : Nat} {trail : Trail},
      (∀ t, front.getLast? = some t → t.isWait = false) →
      frame.composeSequence count index trail (front ++ { s with chain := false } :: rest) =
        frame.composeSequence count index trail (front ++ s :: rest)
  | [], index, trail, _ => by
    have hstatement : ∀ site chained,
        frame.composeStatement site trail { s with chain := false } chained =
          frame.composeStatement site trail s chained := by
      intro site chained
      have hwait' : Statement.isWait { s with chain := false } = true := hwait
      unfold composeStatement
      rw [if_pos hwait, if_pos hwait']
      rfl
    simp only [List.nil_append, composeSequence, hstatement]
    rfl
  | t :: front, index, trail, hfront => by
    have hstatement : ∀ site, frame.composeStatement site trail t
        (((front ++ { s with chain := false } :: rest).head?.map Statement.chain).getD false) =
          frame.composeStatement site trail t
            (((front ++ s :: rest).head?.map Statement.chain).getD false) := by
      intro site
      cases front with
      | cons first others => rfl
      | nil =>
        have haction : t.isWait = false := hfront t rfl
        unfold composeStatement
        rw [if_neg (by simp [haction]), if_neg (by simp [haction])]
    have hrest : ∀ index trail, frame.composeSequence count index trail
        (front ++ { s with chain := false } :: rest) =
          frame.composeSequence count index trail (front ++ s :: rest) := fun index trail =>
      composeSequence_wait_chain hwait fun t' ht' =>
        hfront t' (by rw [List.getLast?_cons, ht', Option.getD_some])
    simp only [List.cons_append, composeSequence, hstatement, hrest]

end Frame

/-- **What is not heeded leaves no trace.** A method becomes the same without the element, the arguments
and the matchers of its waits, and without the arguments of the statements that call nothing. -/
theorem compose_withoutIdle {ss : List Statement} :
    compose frame (ss.map Statement.withoutIdleWithin) = compose frame ss := by
  unfold compose
  rw [List.length_map, Frame.composeSequence_withoutIdle]

/-- **The chain of a wait leaves no trace** either, unless a wait is in front of it. -/
theorem compose_wait_chain {front rest : List Statement} (hwait : s.isWait = true)
    (hfront : ∀ t, front.getLast? = some t → t.isWait = false) :
    compose frame (front ++ { s with chain := false } :: rest) = compose frame (front ++ s :: rest) := by
  unfold compose
  rw [Frame.composeSequence_wait_chain hwait hfront]
  simp only [List.length_append, List.length_cons]

end PageObjects
