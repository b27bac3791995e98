import PageObjects.Proofs.Compose.Fields
import PageObjects.Proofs.Guarded.Basic

/-!
# Composing without a breach

The guarded composition of a method goes through the stages of `compose` and uses every operation that is
not defined everywhere where the compiler uses it: the element of a statement that is nothing but an element
is looked up by its name, constants are written when a call or a matcher is, a matcher's expression needs
its arguments, and a wait and a method take the last of their statements. A chain on nothing is a breach as
well.

Each of these is defined where it is used. A statement that keeps its rules has an element if it has no
action; a matcher is found for as many arguments as it takes; and sequences become as many statements as
they have. What is left to the document is that its constants can be written.

* `Guarded.compose`: the guarded composition.
* **`Guarded.compose_eq`**: it is the composition, for statements that keep their rules and whose constants
  can be written.
-/

namespace PageObjects.Guarded

/-- A computation of the composition of a method. -/
abbrev run (x : Except ComposeError α) : Guarded ComposeError α := of ComposeError.halt x

/-- The operand as it is written in a call. -/
def code : Operand → Guarded ε String
  | .literal value => need .digits (if value.isWritable then some value.code else none)
  | .parameter p => .ok p.name

/-- The operands as they are written in a call. -/
def codes (operands : List Operand) : Guarded ε (List String) := operands.mapM code

section

variable (frame : Frame) (site : Site)

/-- The site of the statement at an index among `count` statements. -/
def siteOf (inPredicate : Bool) (count index : Nat) (previous : Option ResultType) (s : Statement) :
    Guarded ComposeError Site :=
  ((resolve frame.page.ownType s.returnType s.returnAll).mapError (Halt.map .type)).map fun declared =>
    { previous, index, position := .of index count inPredicate, declared, returnAll := s.returnAll }

/-- The expression of a statement, the type of its value, and the statement's parameters. -/
def expression (s : Statement) (r : Receiver) (required : ResultType) :
    Guarded ComposeError (Simple × ResultType × List Parameter) :=
  match s.action with
  | none => do
    let name ← need .namelessElement s.element
    let element ← run (frame.findElement name)
    run (frame.checkType site required (.element name) element.returnType)
    return (.getter element.getter, element.returnType, [])
  | some name => do
    let action ← run (frame.actionOf site name r)
    let (operands, parameters) ← run (frame.operands site [] s.args)
    run (frame.checkOperands site operands action)
    let _ ← codes operands
    let invocation ← run (frame.invocationType site name required action)
    let (spread, resolved) := spreadOf site r invocation
    if action.isSome then run (frame.checkType site required (.action name) resolved)
    return (.call { receiver := r.code, action := name, operands, spread }, resolved, parameters)

/-- The statement with the verdict of its matcher as its value. -/
def applyMatcher (m : Matcher) (b : Built Simple) (parameters : List Parameter) :
    Guarded ComposeError (Built Simple × List Parameter) :=
  match b.variableName with
  | none => run (frame.fail site .matcherWithoutValue)
  | some variableName =>
    match MatcherKind.find m.type m.args.length with
    | .error e => run (frame.fail site (.matcher e))
    | .ok kind => do
      match kind.operand? with
      | some type =>
        if !type.same b.returnType then
          run (frame.fail site (.conflict type (.matcher kind.name) b.returnType))
      | none => pure ()
      let (operands, parameters) ← run (frame.operands site parameters m.args)
      run (frame.checkTypes site (.matcher kind.name) 0 operands kind.parameters)
      let arguments ← codes operands
      let verdict := site.matcherVariable
      let _ ← need (.matcherArgument kind) (kind.render? variableName arguments)
      return ({ b with
        variableName := some verdict, returnType := .boolean,
        lines := b.lines.filter (!·.returns Simple.text) ++
          [.verdict verdict kind variableName operands] }, parameters)

/-- Composes a statement that is no wait. -/
def composeAction (lookups : Lookups) (s : Statement) :
    Guarded ComposeError (Built Simple × Lookups × List Parameter) :=
  if s.chain && site.inPredicate then run (frame.fail site .chainInPredicate)
  else do
    let required := site.requiredType .unset frame.methodReturn
    let own := if s.matcher.isSome then .unset else required
    let (receiver, lookup, after) ← run <|
      if s.action.isNone then
        (frame.elementReceiver site lookups s).map fun found => (found.1, [], lookups)
      else frame.receiver site lookups s
    let (value, resolved, parameters) ← expression frame site s receiver own
    let built := Frame.emit site lookup value resolved own (!own.discards && !resolved.isVoid)
    match s.matcher with
    | none => return (built, after, parameters)
    | some m =>
      let (built, parameters) ← applyMatcher frame site m built parameters
      if !required.isUnset && !required.same .boolean then
        run (frame.fail site (.conflict required (.matcher m.type) .boolean))
      else return (built, after, parameters)

/-- Composes a statement that is no wait, and goes on the trail. -/
def stepAction (trail : Trail) (s : Statement) : Guarded ComposeError (Built Simple × Trail) := do
  let (built, lookups, more) ← composeAction frame site trail.lookups s
  let parameters ← run (frame.collect site trail.parameters more)
  return (built, { lookups, previous := some built.returnType, parameters })

/-- Composes the statements of a predicate from an index on, among `count`. -/
def composePredicateFrom (count : Nat) : Nat → Trail → List Statement →
    Guarded ComposeError (List (Built Simple) × List Parameter)
  | _, trail, [] => .ok ([], trail.parameters)
  | index, trail, s :: rest => do
    let site ← siteOf frame true count index trail.previous s
    if s.isWait then run (frame.fail site .waitInPredicate)
    else
      let (built, trail) ← stepAction frame site trail s
      let (others, parameters) ← composePredicateFrom count (index + 1) trail rest
      return (built :: others, parameters)

/-- Composes a wait: its value is that of the last statement of its predicate. -/
def composeWait (trail : Trail) (s : Statement) (chained : Bool) :
    Guarded ComposeError (Built Expression × Trail) := do
  if s.inner.isEmpty then run (frame.fail site .emptyPredicate)
  let (inner, parameters) ←
    composePredicateFrom frame s.inner.length 0 { parameters := trail.parameters } s.inner
  let last ← need .lastStatement inner.getLast?
  let type := if last.variableName.isSome then last.returnType else .boolean
  let value := Expression.wait (inner.flatMap Built.lines) (last.variableName.getD "true")
  let required := site.requiredType .unset frame.methodReturn
  run (frame.checkType site required .wait type)
  let built :=
    Frame.emit site [] value type required (chained || (!required.isUnset && !required.discards))
  return ({ built with isWait := true },
    { trail with previous := some built.returnType, parameters })

/-- Composes one statement of a method. -/
def composeStatement (trail : Trail) (s : Statement) (chained : Bool) :
    Guarded ComposeError (Built Expression × Trail) := do
  let (built, trail) ←
    if s.isWait then composeWait frame site trail s chained
    else
      (stepAction frame site trail s).map fun stepped =>
        (stepped.1.map .simple, stepped.2)
  return (frame.finish built, trail)

/-- Composes the statements of a method from an index on, among `count`. -/
def composeSequence (count : Nat) : Nat → Trail → List Statement →
    Guarded ComposeError (List (Built Expression) × List Parameter)
  | _, trail, [] => .ok ([], trail.parameters)
  | index, trail, s :: rest => do
    let site ← siteOf frame false count index trail.previous s
    let (built, trail) ←
      composeStatement frame site trail s ((rest.head?.map Statement.chain).getD false)
    let (others, parameters) ← composeSequence count (index + 1) trail rest
    return (built :: others, parameters)

end

/-- Composes a method: what it returns is decided by the last of its statements. -/
def compose (frame : Frame) (statements : List Statement) : Guarded ComposeError Composition :=
  if statements.isEmpty then run (.error (.empty frame.method))
  else do
    let (built, parameters) ← composeSequence frame statements.length 0 {} statements
    let last ← need .lastStatement built.getLast?
    let returnType ← run (frame.returnType last)
    return { statements := built, returnType, parameters }

/-! ## Agreement -/

variable {frame : Frame} {site : Site} {s : Statement}

theorem code_eq {o : Operand} (h : ∀ value, o = .literal value → value.isWritable = true) :
    (code o : Guarded ε String) = .ok o.code := by
  cases o with
  | literal value => simp [code, Operand.code, h value rfl]
  | parameter p => rfl

/-- The constants among the operands of writable arguments can be written. -/
theorem codes_eq {args : List Argument} {operands : List Operand} (h : Renders args operands)
    (hargs : ∀ a ∈ args, a.isWritable = true) :
    (codes operands : Guarded ε (List String)) = .ok (operands.map Operand.code) := by
  refine mapM_eq_ok fun o ho => code_eq fun value hvalue => ?_
  obtain ⟨a, ha, hof⟩ := h.exists_argument ho
  have hwritable := hargs a ha
  subst hvalue
  cases a with
  | literal value' type =>
    obtain rfl := Operand.literal.inj (Except.ok.inj hof)
    exact hwritable
  | parameter name keyword =>
    simp only [Operand.ofArgument] at hof
    split at hof
    · exact absurd hof (by simp)
    · exact absurd hof (by simp)

/-- What is made of a type that a keyword stands for. -/
theorem resolved_eq {own : ResultType} {keyword? : Option String} {returnAll : Bool}
    {f : ResultType → α} :
    ((resolve own keyword? returnAll).mapError (Halt.map .type)).map f =
      run (match ResultType.resolve own keyword? returnAll with
        | .ok t => .ok (f t)
        | .error e => .error (.type e)) := by
  rw [resolve_eq, mapError_of]
  cases ResultType.resolve own keyword? returnAll <;> rfl

theorem siteOf_eq {inPredicate : Bool} {count index : Nat} {previous : Option ResultType} :
    siteOf frame inPredicate count index previous s =
      run (frame.siteOf inPredicate count index previous s) :=
  resolved_eq

/-- A statement without action has an element, and the constants of a call can be written. -/
theorem expression_eq {r : Receiver} {required : ResultType} (hkept : s.Kept) (hwritable : s.Writable) :
    expression frame site s r required = run (frame.expression site s r required) := by
  unfold expression Frame.expression
  cases haction : s.action with
  | none =>
    obtain ⟨-, name, hname⟩ := hkept.element_of_action haction
    dsimp only
    rw [hname, need_some, ok_bind, Option.getD_some]
    exact bind_eq_of rfl fun element _ => bind_eq_of rfl fun _ _ => rfl
  | some name =>
    refine bind_eq_of rfl fun action _ => bind_eq_of rfl fun found hfound =>
      bind_eq_of rfl fun _ _ => ?_
    obtain ⟨operands, parameters⟩ := found
    have hrenders := (Frame.operands_eq_ok hfound).1
    dsimp only
    rw [codes_eq hrenders hwritable.args, ok_bind]
    refine bind_eq_of rfl fun invocation _ => ?_
    split
    · exact bind_eq_of rfl fun _ _ => rfl
    · rfl

/-- A matcher that is found has an argument for each of its parameters. -/
theorem render?_eq {name variableName : String} {args : List Argument} {operands : List Operand}
    {kind : MatcherKind} (hkind : MatcherKind.find name args.length = .ok kind)
    (h : Renders args operands) :
    kind.render? variableName (operands.map Operand.code) =
      some (kind.expression variableName (operands.map Operand.code)) := by
  have hlength := MatcherKind.find_parameters hkind
  rw [h.length_eq] at hlength
  unfold MatcherKind.render?
  rw [if_neg (by rw [List.length_map]; omega)]

theorem applyMatcher_eq {m : Matcher} {b : Built Simple} {parameters : List Parameter}
    (hargs : ∀ a ∈ m.args, a.isWritable = true) :
    applyMatcher frame site m b parameters = run (frame.applyMatcher site m b parameters) := by
  unfold applyMatcher Frame.applyMatcher
  cases b.variableName with
  | none => rfl
  | some variableName =>
    dsimp only
    cases hkind : MatcherKind.find m.type m.args.length with
    | error e => rfl
    | ok kind =>
      have hjudged {β : Type} (result : List Operand × List Parameter → β) :
          (run (frame.operands site parameters m.args) >>= fun found =>
            run (frame.checkTypes site (.matcher kind.name) 0 found.1 kind.parameters) >>= fun _ =>
              codes found.1 >>= fun arguments =>
                need (.matcherArgument kind) (kind.render? variableName arguments) >>= fun _ =>
                  pure (result found)) =
          run (frame.operands site parameters m.args >>= fun found =>
            frame.checkTypes site (.matcher kind.name) 0 found.1 kind.parameters >>= fun _ =>
              pure (result found)) := by
        refine bind_eq_of rfl fun found hfound => bind_eq_of rfl fun _ _ => ?_
        have hrenders := (Frame.operands_eq_ok hfound).1
        rw [codes_eq hrenders hargs, ok_bind, need_bind (render?_eq hkind hrenders)]
        rfl
      dsimp only
      cases kind.operand? with
      | none => exact hjudged _
      | some type =>
        dsimp only
        split
        · exact bind_eq_of rfl fun _ _ => hjudged _
        · exact hjudged _

theorem composeAction_eq {lookups : Lookups} (hkept : s.Kept) (hwritable : s.Writable) :
    composeAction frame site lookups s = run (frame.composeAction site lookups s) := by
  unfold composeAction Frame.composeAction
  split
  · rfl
  · dsimp only
    rw [ite_bind]
    refine bind_eq_of rfl fun found _ => bind_eq_of (expression_eq hkept hwritable) fun value _ => ?_
    cases hmatcher : s.matcher with
    | none => rfl
    | some m =>
      refine bind_eq_of (applyMatcher_eq (hwritable.matcher m hmatcher)) fun judged _ => ?_
      split
      · rfl
      · rfl

theorem stepAction_eq {trail : Trail} (hkept : s.Kept) (hwritable : s.Writable) :
    stepAction frame site trail s = run (frame.stepAction site trail s) :=
  bind_eq_of (composeAction_eq hkept hwritable) fun _ _ => bind_eq_of rfl fun _ _ => rfl

theorem composePredicateFrom_eq {count : Nat} : ∀ {ss : List Statement} {index : Nat} {trail : Trail},
    (∀ s ∈ ss, s.Kept) → (∀ s ∈ ss, s.Writable) →
      composePredicateFrom frame count index trail ss =
        run (frame.composePredicateFrom count index trail ss)
  | [], index, trail, _, _ => rfl
  | s :: rest, index, trail, hkept, hwritable => by
    rw [List.forall_mem_cons] at hkept hwritable
    unfold composePredicateFrom Frame.composePredicateFrom
    refine bind_eq_of siteOf_eq fun site _ => ?_
    split
    · rfl
    · exact bind_eq_of (stepAction_eq hkept.1 hwritable.1) fun stepped _ =>
        bind_eq_of (composePredicateFrom_eq hkept.2 hwritable.2) fun others _ => rfl

/-- A predicate that is not empty becomes statements, the last of which is what the wait waits for. -/
theorem composeWait_eq {trail : Trail} {chained : Bool} (hkept : s.Kept) (hwritable : s.Writable) :
    composeWait frame site trail s chained = run (frame.composeWait site trail s chained) := by
  unfold composeWait Frame.composeWait
  by_cases hempty : s.inner = []
  · rw [if_pos (by simp [hempty]), if_pos (by simp [hempty])]
    rfl
  · rw [if_neg (by simpa using hempty), if_neg (by simpa using hempty)]
    refine bind_eq_of (composePredicateFrom_eq (fun s' hs' => hkept.of_inner hs')
      fun s' hs' => hwritable.of_inner hs') fun found hfound => ?_
    obtain ⟨last, hwalk, -⟩ := Frame.composePredicate_threaded hfound
    dsimp only
    rw [List.getLast?_eq_some_getLast (hwalk.ne_nil hempty), need_some, ok_bind, Option.bind_some]
    generalize found.1.getLast (hwalk.ne_nil hempty) = b
    cases b.variableName with
    | none => exact bind_eq_of rfl fun _ _ => rfl
    | some result => exact bind_eq_of rfl fun _ _ => rfl

theorem composeStatement_eq {trail : Trail} {chained : Bool} (hkept : s.Kept)
    (hwritable : s.Writable) :
    composeStatement frame site trail s chained =
      run (frame.composeStatement site trail s chained) := by
  unfold composeStatement Frame.composeStatement
  dsimp only
  rw [ite_bind, ite_bind]
  refine bind_eq_of ?_ fun _ _ => rfl
  split
  · exact composeWait_eq hkept hwritable
  · rw [stepAction_eq hkept hwritable]
    exact of_map.symm

theorem composeSequence_eq {count : Nat} : ∀ {ss : List Statement} {index : Nat} {trail : Trail},
    (∀ s ∈ ss, s.Kept) → (∀ s ∈ ss, s.Writable) →
      composeSequence frame count index trail ss = run (frame.composeSequence count index trail ss)
  | [], index, trail, _, _ => rfl
  | s :: rest, index, trail, hkept, hwritable => by
    rw [List.forall_mem_cons] at hkept hwritable
    unfold composeSequence Frame.composeSequence
    exact bind_eq_of siteOf_eq fun site _ =>
      bind_eq_of (composeStatement_eq hkept.1 hwritable.1) fun stepped _ =>
        bind_eq_of (composeSequence_eq hkept.2 hwritable.2) fun others _ => rfl

/-- **A method is composed without a breach** but for a chain on nothing, if its statements keep their
rules and their constants can be written. -/
theorem compose_eq {ss : List Statement} (hkept : ∀ s ∈ ss, s.Kept) (hwritable : ∀ s ∈ ss, s.Writable) :
    compose frame ss = run (PageObjects.compose frame ss) := by
  unfold compose PageObjects.compose
  by_cases hempty : ss = []
  · subst hempty
    rfl
  · rw [if_neg (by simpa using hempty)]
    refine bind_eq_of (composeSequence_eq hkept hwritable) fun found hfound => ?_
    obtain ⟨last, hwalk, -⟩ := Frame.composeSequence_threaded hfound
    dsimp only
    rw [List.getLast?_eq_some_getLast (hwalk.ne_nil hempty), need_some, ok_bind]
    exact bind_eq_of rfl fun _ _ => rfl

end PageObjects.Guarded
