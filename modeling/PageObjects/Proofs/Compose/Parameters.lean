import Mathlib.Data.List.Induction
import PageObjects.Proofs.Compose.Last
import PageObjects.Proofs.Compose.Scope

/-!
# Parameters of methods

The parameters of a method are collected twice over: a statement collects those of its call and of its
matcher, the method those of its statements, and a wait hands the method's parameters to its predicate
before its own place in the method is reached. Each collection keeps a name once, and refuses it under a
second type. What comes out is nevertheless as if the code were read once from the front: each parameter
that occurs in it, where it occurs first. The specification (4.2) has parameters collected, each once,
into the signature of the method.

* `Renders`: operands in code stand for arguments of the document, one for one.
* `Gathered`: parameters as they are gathered from their occurrences; `Gathered.add` and `Gathered.merge`
  follow the two collections.
* `Frame.composeAction_operands`, `Frame.composePredicate_operands`, `Frame.MethodStep.operands`: the
  operands of a statement, a predicate and a step of a method, and the parameters after them.
* **`compose_parametrised`**: a composed method has the parameters that occur in its code, and no name
  stands for two types.
-/

namespace PageObjects

/-! ## Arguments and operands -/

/-- The arguments in the code of a statement that is no wait: those of its call, then those of its
matcher. A statement without action calls nothing. -/
def Statement.ownArguments (s : Statement) : List Argument :=
  (if s.action.isSome then s.args else []) ++ (s.matcher.map Matcher.args).getD []

/-- The arguments in the code of a statement. A wait has those of the statements of its predicate. -/
def Statement.arguments (s : Statement) : List Argument :=
  if s.isWait then s.inner.flatMap Statement.ownArguments else s.ownArguments

/-- The operands are those that the arguments become. -/
def Renders (args : List Argument) (operands : List Operand) : Prop :=
  args.map Operand.ofArgument = operands.map .ok

namespace Renders

theorem nil : Renders [] [] := rfl

theorem append {args more : List Argument} {operands others : List Operand}
    (h : Renders args operands) (hmore : Renders more others) :
    Renders (args ++ more) (operands ++ others) := by
  unfold Renders at *
  rw [List.map_append, List.map_append, h, hmore]

/-- Every argument has an operand. -/
theorem exists_operand {args : List Argument} {operands : List Operand} (h : Renders args operands)
    {a : Argument} (ha : a ∈ args) : ∃ o ∈ operands, Operand.ofArgument a = .ok o := by
  have hmem : Operand.ofArgument a ∈ operands.map .ok := h ▸ List.mem_map_of_mem ha
  obtain ⟨o, ho, he⟩ := List.mem_map.mp hmem
  exact ⟨o, ho, he.symm⟩

/-- Every operand has an argument. -/
theorem exists_argument {args : List Argument} {operands : List Operand} (h : Renders args operands)
    {o : Operand} (ho : o ∈ operands) : ∃ a ∈ args, Operand.ofArgument a = .ok o := by
  have hmem : (.ok o : Except OperandError Operand) ∈ args.map Operand.ofArgument :=
    h ▸ List.mem_map_of_mem ho
  exact List.mem_map.mp hmem

end Renders

/-- The parameter that an operand is, if it is one. -/
def Operand.parameter? : Operand → Option Parameter
  | .literal _ => none
  | .parameter p => some p

/-- The operands in an expression. -/
def Simple.operands : Simple → List Operand
  | .getter _ => []
  | .call c => c.operands

/-- The operands in a line, those of its expression by `inside`. -/
def Line.operands {ε : Type} (inside : ε → List Operand) : Line ε → List Operand
  | .bind _ _ value => inside value
  | .perform value => inside value
  | .verdict _ _ _ arguments => arguments
  | .give _ => []

/-- The operands in an expression; a wait has those in its closure. -/
def Expression.operands : Expression → List Operand
  | .simple value => value.operands
  | .wait closure _ => closure.flatMap (Line.operands Simple.operands)

/-- The operands in the lines of a statement. -/
def Built.operands {ε : Type} (inside : ε → List Operand) (b : Built ε) : List Operand :=
  b.lines.flatMap (Line.operands inside)

/-- The operands in the code of a method, from the front. -/
def Composition.operands (c : Composition) : List Operand :=
  c.statements.flatMap (Built.operands Expression.operands)

/-- The parameters in the code of a method, as often as they occur in it. -/
def Composition.occurrences (c : Composition) : List Parameter :=
  c.operands.filterMap Operand.parameter?

/-- A parameter of one of the types that arguments can have. -/
def Parameter.IsPrimitive (p : Parameter) : Prop := p.type ∈ ResultType.primitives.map Prod.snd

theorem ResultType.eq_of_same_primitive :
    ∀ t ∈ primitives.map Prod.snd, ∀ t' ∈ primitives.map Prod.snd, t.same t' = true → t = t' := by
  decide

/-- The type that a parameter has in a document decides its type in code, and the other way round. -/
theorem Operand.ofArgument_parameter {a : Argument} {p : Parameter}
    (h : ofArgument a = .ok (.parameter p)) :
    p.IsPrimitive ∧ ∃ keyword, a = .parameter p.name keyword ∧
      ResultType.primitives.lookup keyword = some p.type := by
  cases a with
  | literal value type => exact absurd h (by simp [ofArgument])
  | parameter name keyword =>
    simp only [ofArgument] at h
    split at h
    · rename_i t ht
      obtain rfl := Operand.parameter.inj (Except.ok.inj h)
      exact ⟨List.mem_map.mpr ⟨(keyword, t), mem_of_lookup ht, rfl⟩, keyword, rfl, ht⟩
    · exact absurd h (by simp)

/-! ## Gathering -/

theorem eraseDups_concat {α : Type} [DecidableEq α] (xs : List α) (x : α) :
    (xs ++ [x]).eraseDups = if x ∈ xs then xs.eraseDups else xs.eraseDups ++ [x] := by
  rw [List.eraseDups_append]
  by_cases hx : x ∈ xs
  · simp [List.removeAll, hx]
  · simp [List.removeAll, hx, List.eraseDups_cons]

/-- What is kept once of a list can be kept once of the whole. -/
theorem eraseDups_append_eraseDups {α : Type} [DecidableEq α] (xs ys : List α) :
    (xs ++ ys.eraseDups).eraseDups = (xs ++ ys).eraseDups := by
  induction ys using List.reverseRecOn with
  | nil => simp
  | append_singleton ys y ih =>
    rw [eraseDups_concat, ← List.append_assoc, eraseDups_concat (xs ++ ys)]
    by_cases hy : y ∈ ys
    · rw [if_pos hy, if_pos (List.mem_append_right xs hy), ih]
    · rw [if_neg hy, ← List.append_assoc, eraseDups_concat, ih]
      simp only [List.mem_append, List.mem_eraseDups]

/-- Parameters as they are gathered from occurrences: each once, in the order of the first occurrences,
and no name under two types. -/
structure Gathered (occurrences parameters : List Parameter) : Prop where
  once : parameters = occurrences.eraseDups
  primitive : ∀ p ∈ occurrences, p.IsPrimitive
  agree : ∀ p ∈ occurrences, ∀ q ∈ occurrences, p.name = q.name → p = q

namespace Gathered

variable {occurrences own ps ps' more : List Parameter} {p : Parameter}

theorem nil : Gathered [] [] where
  once := rfl
  primitive := by simp
  agree := by simp

theorem mem_iff (h : Gathered occurrences ps) : p ∈ ps ↔ p ∈ occurrences := by
  rw [h.once, List.mem_eraseDups]

/-- A name that is known has the type that is known, so that nothing is added; one that is not known
occurs for the first time. -/
theorem add (h : Gathered occurrences ps) (hp : p.IsPrimitive) (hadd : addParameter ps p = .ok ps') :
    Gathered (occurrences ++ [p]) ps' := by
  have hprimitive : ∀ q ∈ occurrences ++ [p], q.IsPrimitive := by
    intro q hq
    rcases List.mem_append.mp hq with hold | hnew
    · exact h.primitive q hold
    · obtain rfl := List.mem_singleton.mp hnew
      exact hp
  unfold addParameter at hadd
  split at hadd
  · rename_i hnew
    obtain rfl := Except.ok.inj hadd
    have hname : ∀ q ∈ occurrences, q.name ≠ p.name := fun q hq => by
      simpa using List.find?_eq_none.mp hnew q (h.mem_iff.mpr hq)
    have hfresh : p ∉ occurrences := fun hmem => hname p hmem rfl
    refine ⟨by rw [eraseDups_concat, if_neg hfresh, h.once], hprimitive, ?_⟩
    intro q hq q' hq' heq
    simp only [List.mem_append, List.mem_singleton] at hq hq'
    rcases hq with hq | rfl
    · rcases hq' with hq' | rfl
      · exact h.agree q hq q' hq' heq
      · exact absurd heq (hname q hq)
    · rcases hq' with hq' | rfl
      · exact absurd heq.symm (hname q' hq')
      · rfl
  · rename_i known hknown
    split at hadd
    · rename_i hsame
      obtain rfl := Except.ok.inj hadd
      have hmem : known ∈ occurrences := h.mem_iff.mp (List.mem_of_find?_eq_some hknown)
      have hname : known.name = p.name := by simpa using List.find?_some hknown
      have htype : known.type = p.type :=
        ResultType.eq_of_same_primitive _ (h.primitive known hmem) _ hp hsame
      have hp' : p ∈ occurrences := by
        obtain rfl : known = p := by
          cases known
          cases p
          simp_all
        exact hmem
      have hall : ∀ q ∈ occurrences ++ [p], q ∈ occurrences := by
        intro q hq
        rcases List.mem_append.mp hq with hold | hlast
        · exact hold
        · exact List.mem_singleton.mp hlast ▸ hp'
      exact ⟨by rw [eraseDups_concat, if_pos hp', h.once], hprimitive,
        fun q hq q' hq' => h.agree q (hall q hq) q' (hall q' hq')⟩
    · exact absurd hadd (by simp)

theorem addAll (h : Gathered occurrences ps) (hprimitive : ∀ p ∈ more, p.IsPrimitive)
    (hadd : addParameters ps more = .ok ps') : Gathered (occurrences ++ more) ps' := by
  induction more generalizing occurrences ps with
  | nil =>
    obtain rfl := pure_eq_ok.mp hadd
    simpa using h
  | cons p more ih =>
    rw [List.forall_mem_cons] at hprimitive
    simp only [addParameters, List.foldlM_cons, bind_eq_ok] at hadd
    obtain ⟨next, hnext, hrest⟩ := hadd
    simpa using ih (h.add hprimitive.1 hnext) hprimitive.2 hrest

/-- What a statement has gathered may be added in place of its occurrences. -/
theorem merge (h : Gathered occurrences ps) (hown : Gathered own more)
    (hadd : addParameters ps more = .ok ps') : Gathered (occurrences ++ own) ps' := by
  have hall := h.addAll (fun p hp => hown.primitive p (hown.mem_iff.mp hp)) hadd
  have hmem : ∀ p ∈ occurrences ++ own, p ∈ occurrences ++ more := by
    intro p hp
    rw [List.mem_append] at hp ⊢
    exact hp.imp_right hown.mem_iff.mpr
  exact ⟨by rw [hall.once, hown.once, eraseDups_append_eraseDups],
    fun p hp => hall.primitive p (hmem p hp),
    fun p hp q hq => hall.agree p (hmem p hp) q (hmem q hq)⟩

end Gathered

variable {frame : Frame} {site : Site} {s : Statement} {lookups : Lookups}

theorem Renders.primitive {args : List Argument} {operands : List Operand}
    (h : Renders args operands) : ∀ p ∈ operands.filterMap Operand.parameter?, p.IsPrimitive := by
  intro p hp
  obtain ⟨o, ho, hparameter⟩ := List.mem_filterMap.mp hp
  cases o with
  | literal value => exact absurd hparameter (by simp [Operand.parameter?])
  | parameter q =>
    obtain rfl := Option.some.inj hparameter
    obtain ⟨a, -, ha⟩ := h.exists_argument ho
    exact (Operand.ofArgument_parameter ha).1

/-- A parameter among the arguments is one among the operands. -/
theorem Renders.occurs {args : List Argument} {operands : List Operand} {name keyword : String}
    (h : Renders args operands) (ha : .parameter name keyword ∈ args) :
    ∃ p ∈ operands.filterMap Operand.parameter?, p.name = name ∧
      ResultType.primitives.lookup keyword = some p.type := by
  obtain ⟨o, ho, hoperand⟩ := h.exists_operand ha
  unfold Operand.ofArgument at hoperand
  simp only at hoperand
  split at hoperand
  · rename_i t ht
    obtain rfl := Except.ok.inj hoperand
    exact ⟨⟨name, t⟩, List.mem_filterMap.mpr ⟨_, ho, rfl⟩, rfl, ht⟩
  · exact absurd hoperand (by simp)

/-- The operands of arguments, and the parameters of a statement with theirs. -/
theorem Frame.operands_eq_ok : ∀ {args : List Argument} {ps ps' : List Parameter}
    {operands : List Operand}, frame.operands site ps args = .ok (operands, ps') →
      Renders args operands ∧ addParameters ps (operands.filterMap Operand.parameter?) = .ok ps'
  | [], ps, ps', operands, h => by
    obtain ⟨rfl, rfl⟩ := by simpa [Frame.operands] using h
    exact ⟨.nil, rfl⟩
  | a :: args, ps, ps', operands, h => by
    simp only [Frame.operands, bind_eq_ok, pure_eq_ok] at h
    obtain ⟨⟨first, next⟩, hfirst, ⟨others, ps''⟩, hrest, he⟩ := h
    obtain ⟨rfl, rfl⟩ := Prod.mk.inj he
    obtain ⟨hothers, hadd⟩ := Frame.operands_eq_ok hrest
    have hrenders : ∀ {o : Operand}, Operand.ofArgument a = .ok o →
        Renders (a :: args) (o :: others) := by
      intro o ha
      unfold Renders at *
      rw [List.map_cons, List.map_cons, ha, hothers]
    unfold Frame.operand at hfirst
    split at hfirst
    · exact absurd hfirst Frame.fail_ne_ok
    · rename_i value hvalue
      obtain ⟨rfl, rfl⟩ := Prod.mk.inj (Except.ok.inj hfirst)
      exact ⟨hrenders hvalue, hadd⟩
    · rename_i p hp
      split at hfirst
      · rename_i added hadded
        obtain ⟨rfl, rfl⟩ := Prod.mk.inj (Except.ok.inj hfirst)
        refine ⟨hrenders hp, ?_⟩
        simp only [List.filterMap_cons, Operand.parameter?, addParameters, List.foldlM_cons, hadded,
          ok_bind]
        exact hadd
      · exact absurd hfirst Frame.fail_ne_ok

theorem Frame.collect_eq_ok {ps more ps' : List Parameter} :
    frame.collect site ps more = .ok ps' ↔ addParameters ps more = .ok ps' := by
  unfold Frame.collect
  cases addParameters ps more with
  | error e => simp [Frame.fail]
  | ok found => simp

/-! ## Statements -/

/-- An expression has the operands of the statement's arguments, and the statement their
parameters. -/
theorem Frame.Evaluates.operands {r : Receiver} {required resolved : ResultType} {value : Simple}
    {own : List Parameter} (h : frame.Evaluates site s r required value resolved own) :
    Renders (if s.action.isSome then s.args else []) value.operands ∧
      Gathered (value.operands.filterMap Operand.parameter?) own := by
  cases h with
  | getter haction helement hfits =>
    rw [haction]
    exact ⟨.nil, .nil⟩
  | call haction hof hoperands hcheck hinvocation hfits =>
    obtain ⟨hrenders, hadd⟩ := Frame.operands_eq_ok hoperands
    rw [haction]
    exact ⟨hrenders, by simpa [Simple.operands] using Gathered.nil.addAll hrenders.primitive hadd⟩

/-- The lines that look an element up have no operands. -/
theorem Frame.Reaches.operands {r : Receiver} {lines : List (Line Simple)} {after : Lookups}
    (h : frame.Reaches site lookups s r lines after) :
    lines.flatMap (Line.operands Simple.operands) = [] := by
  cases h with
  | nothing haction => rfl
  | receiver haction haddresses =>
    cases haddresses with
    | chain hchain hchains => rfl
    | element hchain hfinds => cases hfinds <;> rfl

theorem Frame.emit_operands {ε : Type} {inside : ε → List Operand} {before : List (Line ε)}
    {value : ε} {resolved required : ResultType} {binds : Bool} :
    (Frame.emit site before value resolved required binds).operands inside =
      before.flatMap (Line.operands inside) ++ inside value := by
  unfold Frame.emit Built.operands
  split <;> simp [Line.operands]

/-- How the value of a statement is concluded: as it was emitted, or with the verdict of the matcher on
it. -/
theorem Frame.conclude_cases {r : Receiver} {after : Lookups} {resolved : ResultType}
    {lookup : List (Line Simple)} {value : Simple} {own ps : List Parameter} {b : Built Simple}
    (hreaches : frame.Reaches site lookups s r lookup after)
    (hevaluates : frame.Evaluates site s r (frame.ownType site s) value resolved own)
    (h : frame.conclude site (site.requiredType .unset frame.methodReturn) s lookup value resolved
      own = .ok (b, ps)) :
    (s.matcher = none ∧ b = frame.emitted site s lookup value resolved ∧ ps = own) ∨
      ∃ m variableName kind verdict, s.matcher = some m ∧
        (frame.emitted site s lookup value resolved).variableName = some variableName ∧
        MatcherKind.find m.type m.args.length = .ok kind ∧
        frame.operands site own m.args = .ok (verdict, ps) ∧
        b = { frame.emitted site s lookup value resolved with
          variableName := some site.matcherVariable, returnType := .boolean,
          lines := (frame.emitted site s lookup value resolved).lines ++
            [.verdict site.matcherVariable kind variableName verdict] } := by
  have hemitted : ∀ matcher : Option Matcher, s.matcher = matcher →
      Frame.emit site lookup value resolved
        (if matcher.isSome then .unset else site.requiredType .unset frame.methodReturn)
        (!(if matcher.isSome then .unset
            else site.requiredType .unset frame.methodReturn : ResultType).discards &&
          !resolved.isVoid) = frame.emitted site s lookup value resolved := by
    rintro matcher rfl
    rfl
  unfold Frame.conclude at h
  cases hmatcher : s.matcher with
  | none =>
    simp only [hmatcher] at h
    rw [hemitted none hmatcher] at h
    obtain ⟨rfl, rfl⟩ := Prod.mk.inj (Except.ok.inj h)
    exact Or.inl ⟨rfl, rfl, rfl⟩
  | some m =>
    simp only [hmatcher] at h
    rw [hemitted (some m) hmatcher] at h
    obtain ⟨judged, hjudged, h⟩ := bind_eq_ok.mp h
    split at h
    · exact absurd h Frame.fail_ne_ok
    · obtain rfl := Except.ok.inj h
      obtain ⟨variableName, kind, verdict, hvariable, hkind, hverdict, rfl⟩ :=
        Frame.applyMatcher_eq_ok hjudged
      rw [hreaches.filter_emitted hevaluates (by simp [hmatcher]) hvariable]
      exact Or.inr ⟨m, variableName, kind, verdict, rfl, hvariable, hkind, hverdict, rfl⟩

/-- The stages of a composed action: what it is called on is reached, its expression evaluated, and its
value concluded. -/
theorem Frame.composeAction_stages {b : Built Simple} {after : Lookups} {ps : List Parameter}
    (h : frame.composeAction site lookups s = .ok (b, after, ps)) :
    ∃ r lines value resolved own, frame.Reaches site lookups s r lines after ∧
      frame.Evaluates site s r (frame.ownType site s) value resolved own ∧
      frame.conclude site (site.requiredType .unset frame.methodReturn) s lines value resolved own =
        .ok (b, ps) := by
  rw [Frame.composeAction_eq_act] at h
  unfold Frame.act at h
  split at h
  · exact absurd h Frame.fail_ne_ok
  · simp only [bind_eq_ok] at h
    obtain ⟨⟨r, lines, after'⟩, hreach, ⟨value, resolved, own⟩, hexpression, h⟩ := h
    obtain ⟨⟨b', ps'⟩, hconclude, he⟩ := map_eq_ok.mp h
    obtain ⟨rfl, rfl, rfl⟩ := by simpa using he
    refine ⟨r, lines, value, resolved, own, ?_, Frame.expression_evaluates hexpression, hconclude⟩
    unfold Frame.reach at hreach
    split at hreach
    · rename_i haction
      obtain ⟨found, -, he⟩ := map_eq_ok.mp hreach
      obtain ⟨rfl, rfl, rfl⟩ := by simpa using he
      exact .nothing (by simpa using haction)
    · rename_i haction
      exact .receiver (by simpa using haction) (Frame.receiver_addresses hreach)

/-- **The operands of a composed action** are those of its arguments, and its parameters are gathered
from them. -/
theorem Frame.composeAction_operands {b : Built Simple} {after : Lookups} {ps : List Parameter}
    (h : frame.composeAction site lookups s = .ok (b, after, ps)) :
    Renders s.ownArguments (b.operands Simple.operands) ∧
      Gathered ((b.operands Simple.operands).filterMap Operand.parameter?) ps := by
  obtain ⟨r, lines, value, resolved, own, hreaches, hevaluates, hconclude⟩ :=
    Frame.composeAction_stages h
  obtain ⟨hvalue, hown⟩ := hevaluates.operands
  have hemitted : (frame.emitted site s lines value resolved).operands Simple.operands =
      value.operands := by
    rw [Frame.emitted, Frame.emit_operands, hreaches.operands, List.nil_append]
  obtain ⟨hmatcher, rfl, rfl⟩ |
    ⟨m, variableName, kind, verdict, hmatcher, -, -, hverdict, rfl⟩ :=
      Frame.conclude_cases hreaches hevaluates hconclude
  · rw [hemitted, Statement.ownArguments, hmatcher]
    exact ⟨by simpa using hvalue, hown⟩
  · obtain ⟨hrenders, hadd⟩ := Frame.operands_eq_ok hverdict
    have hoperands : Built.operands Simple.operands
        { frame.emitted site s lines value resolved with
          variableName := some site.matcherVariable, returnType := .boolean,
          lines := (frame.emitted site s lines value resolved).lines ++
            [.verdict site.matcherVariable kind variableName verdict] } =
        value.operands ++ verdict := by
      rw [Built.operands, List.flatMap_append, ← Built.operands, hemitted]
      simp [Line.operands]
    rw [hoperands, Statement.ownArguments, hmatcher, List.filterMap_append]
    exact ⟨hvalue.append hrenders, hown.addAll hrenders.primitive hadd⟩

theorem Frame.stepAction_operands {occurrences : List Parameter} {trail after : Trail}
    {b : Built Simple} (hbefore : Gathered occurrences trail.parameters)
    (h : frame.stepAction site trail s = .ok (b, after)) :
    Renders s.ownArguments (b.operands Simple.operands) ∧
      Gathered (occurrences ++ (b.operands Simple.operands).filterMap Operand.parameter?)
        after.parameters := by
  obtain ⟨more, haction, hcollect, -⟩ := Frame.stepAction_eq_ok h
  obtain ⟨hrenders, hown⟩ := Frame.composeAction_operands haction
  exact ⟨hrenders, hbefore.merge hown (Frame.collect_eq_ok.mp hcollect)⟩

/-! ## Sequences -/

/-- **The operands of a composed predicate** are those of the arguments of its statements, and their
parameters are gathered behind those that are known already. -/
theorem Frame.composePredicate_operands {occurrences ps ps' : List Parameter} {ss : List Statement}
    {inner : List (Built Simple)} (hps : Gathered occurrences ps)
    (h : frame.composePredicate ps ss = .ok (inner, ps')) :
    Renders (ss.flatMap Statement.ownArguments) (inner.flatMap (Built.operands Simple.operands)) ∧
      Gathered (occurrences ++
        (inner.flatMap (Built.operands Simple.operands)).filterMap Operand.parameter?) ps' := by
  obtain ⟨last, hwalk, rfl⟩ := Frame.composePredicate_threaded h
  have hinit : Gathered (occurrences ++ []) ({ parameters := ps } : Trail).parameters := by
    simpa using hps
  refine hwalk.history (fun done made trail =>
    Renders (done.flatMap Statement.ownArguments)
        (made.flatMap (Built.operands Simple.operands)) ∧
      Gathered (occurrences ++
        (made.flatMap (Built.operands Simple.operands)).filterMap Operand.parameter?)
        trail.parameters) ?_ ⟨.nil, hinit⟩
  rintro done made before s rest b after ⟨hdone, hbefore⟩ ⟨site, -, -, hstep⟩
  obtain ⟨hrenders, hafter⟩ := Frame.stepAction_operands hbefore hstep
  simp only [List.flatMap_append, List.flatMap_singleton, List.filterMap_append]
  exact ⟨hdone.append hrenders, by simpa using hafter⟩

theorem Built.operands_map {b : Built Simple} :
    (b.map Expression.simple).operands Expression.operands = b.operands Simple.operands := by
  simp only [Built.operands, Built.map, List.flatMap_map]
  refine congrArg (b.lines.flatMap ·) (funext fun line => ?_)
  cases line <;> rfl

theorem Frame.finish_operands (frame : Frame) {b : Built Expression} :
    (frame.finish b).operands Expression.operands = b.operands Expression.operands := by
  have hreturn : (frame.returnLine b).flatMap (Line.operands Expression.operands) = [] := by
    refine List.flatMap_eq_nil_iff.mpr fun line hline => ?_
    obtain ⟨v, rfl⟩ := Frame.mem_returnLine hline
    rfl
  simp only [Built.operands, Frame.finish, List.flatMap_append, hreturn, List.append_nil]

/-- **The operands of a step of a method**, and the parameters after it. -/
theorem Frame.MethodStep.operands {occurrences : List Parameter} {count index : Nat}
    {before after : Trail} {rest : List Statement} {b : Built Expression}
    (hbefore : Gathered occurrences before.parameters)
    (h : frame.MethodStep count index before s rest b after) :
    Renders s.arguments (b.operands Expression.operands) ∧
      Gathered (occurrences ++ (b.operands Expression.operands).filterMap Operand.parameter?)
        after.parameters := by
  obtain ⟨site, -, hstep⟩ := h
  obtain ⟨hwait, b', hwaits, rfl⟩ | ⟨hwait, b', hstep', rfl⟩ := Frame.composeStatement_eq_ok hstep
  · obtain ⟨-, inner, ps, required, -, hpredicate, -, rfl, rfl⟩ := Frame.composeWait_eq_ok hwaits
    obtain ⟨hrenders, hafter⟩ := Frame.composePredicate_operands hbefore hpredicate
    -- the closure has the lines of the predicate one after the other
    have hoperands : ∀ required binds, Built.operands Expression.operands
        { Frame.emit site [] (.wait (inner.flatMap Built.lines) (predicateResult inner))
            (predicateType inner) required binds with isWait := true } =
        inner.flatMap (Built.operands Simple.operands) := by
      intro required binds
      change (Frame.emit site [] _ _ required binds).operands Expression.operands = _
      rw [Frame.emit_operands, Expression.operands, List.flatMap_nil, List.nil_append,
        List.flatMap_assoc]
      rfl
    rw [Frame.finish_operands, hoperands, Statement.arguments, if_pos hwait]
    exact ⟨hrenders, hafter⟩
  · rw [Frame.finish_operands, Built.operands_map, Statement.arguments, if_neg (by simp [hwait])]
    exact Frame.stepAction_operands hbefore hstep'

/-! ## Methods -/

/-- The parameters of a method are those that its code uses. -/
structure Composition.Parametrised (c : Composition) (ss : List Statement) : Prop where
  /-- The operands in the code, from the front, are those of the statements' arguments. -/
  rendered : Renders (ss.flatMap Statement.arguments) c.operands
  /-- The parameters are those among the operands, in the order of their first occurrences. -/
  gathered : c.body.parameters = c.occurrences.eraseDups
  /-- They have different names. -/
  distinct : (c.body.parameters.map Parameter.name).Nodup
  /-- They are of primitive types. -/
  primitive : ∀ p ∈ c.body.parameters, p.type ∈ ResultType.primitives.map Prod.snd
  /-- Wherever a name occurs, it is of the type with which it is declared. -/
  declared : ∀ p ∈ c.occurrences, ∀ q ∈ c.body.parameters, p.name = q.name → p.type = q.type
  /-- No two arguments give one name different types. -/
  agree : ∀ (name keyword keyword' : String),
    .parameter name keyword ∈ ss.flatMap Statement.arguments →
    .parameter name keyword' ∈ ss.flatMap Statement.arguments → keyword = keyword'

theorem ResultType.keyword_inj {keyword keyword' : String} {t : ResultType}
    (h : primitives.lookup keyword = some t) (h' : primitives.lookup keyword' = some t) :
    keyword = keyword' := by
  have hinj : ∀ entry ∈ primitives, ∀ entry' ∈ primitives, entry.2 = entry'.2 →
      entry.1 = entry'.1 := by decide
  exact hinj (keyword, t) (mem_of_lookup h) (keyword', t) (mem_of_lookup h') rfl

/-- The code of a composed method has the operands that its statements' arguments become, and the
method's parameters are gathered from them. -/
theorem compose_gathered {ss : List Statement} {c : Composition} (h : compose frame ss = .ok c) :
    Renders (ss.flatMap Statement.arguments) c.operands ∧ Gathered c.occurrences c.parameters := by
  obtain ⟨last, -, hwalk, -, -, hlast⟩ := compose_threaded h
  obtain ⟨hrendered, hgathered⟩ := hwalk.history (fun done made trail =>
      Renders (done.flatMap Statement.arguments)
          (made.flatMap (Built.operands Expression.operands)) ∧
        Gathered ((made.flatMap (Built.operands Expression.operands)).filterMap
          Operand.parameter?) trail.parameters) (by
    rintro done made before s rest b after ⟨hdone, hbefore⟩ hstep
    obtain ⟨hrenders, hafter⟩ := hstep.operands hbefore
    simp only [List.flatMap_append, List.flatMap_singleton, List.filterMap_append]
    exact ⟨hdone.append hrenders, hafter⟩) ⟨.nil, .nil⟩
  rw [hlast] at hgathered
  exact ⟨hrendered, hgathered⟩

/-- **A composed method has the parameters that its code uses**, with the types that they have there. -/
theorem compose_parametrised {ss : List Statement} {c : Composition} (h : compose frame ss = .ok c) :
    c.Parametrised ss := by
  obtain ⟨hrendered, hgathered⟩ := compose_gathered h
  refine {
    rendered := hrendered
    gathered := hgathered.once
    distinct := ?_
    primitive := fun p hp => hgathered.primitive p (hgathered.mem_iff.mp hp)
    declared := fun p hp q hq hname => by
      rw [hgathered.agree p hp q (hgathered.mem_iff.mp hq) hname]
    agree := ?_ }
  · obtain ⟨last, -, hwalk, -, -, hlast⟩ := compose_threaded h
    have hdistinct : last.Distinct :=
      hwalk.inv_last Trail.Distinct (show Trail.Distinct {} from List.nodup_nil)
        fun hbefore hstep => hstep.distinct hbefore
    rw [Trail.Distinct, hlast] at hdistinct
    exact hdistinct
  · intro name keyword keyword' ha ha'
    obtain ⟨p, hp, hname, htype⟩ := hrendered.occurs ha
    obtain ⟨p', hp', hname', htype'⟩ := hrendered.occurs ha'
    obtain rfl := hgathered.agree p hp p' hp' (hname.trans hname'.symm)
    exact ResultType.keyword_inj htype htype'

/-- A method that types a text, waits until an attribute of the field contains it, and records both: the
parameters `text` and `key` occur in the closure of the wait and outside. -/
def typeText : Frame × List Statement :=
  ({ page :=
       { name := "Form",
         elements :=
           [{ name := "field", type := ResultType.ofElement "field" ["editable"],
              getter := "getFieldElement", selector := some { css := some "input" } }] },
     method := "typeText" },
   [{ element := some "field", action := some "setText", args := [.parameter "text" "string"] },
    { action := some "waitFor", predicate := some
        [{ element := some "field", action := some "getAttribute", args := [.parameter "key" "string"],
           matcher := some ⟨"stringContains", [.parameter "text" "string"]⟩ }] },
    { action := some "record",
      args := [.literal (.int 1) none, .parameter "times" "number", .parameter "key" "string"] }])

theorem typeText_parametrised : ∃ c, compose typeText.1 typeText.2 = .ok c ∧
    c.body.parameters = [⟨"text", .string⟩, ⟨"key", .string⟩, ⟨"times", .number⟩] ∧
    c.Parametrised typeText.2 := by
  have hok : (compose typeText.1 typeText.2).toOption.any (fun c => decide (c.body.parameters =
      [⟨"text", .string⟩, ⟨"key", .string⟩, ⟨"times", .number⟩])) = true := by decide
  obtain ⟨c, hc, hparameters⟩ := exists_eq_ok hok
  exact ⟨c, hc, of_decide_eq_true hparameters, compose_parametrised hc⟩

end PageObjects
