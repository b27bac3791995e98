import PageObjects.Proofs.Compose.Last
import PageObjects.Proofs.Compose.Types

/-!
# Closures of waits

A wait becomes one line of code that spans several lines of text: the code of its predicate, with the
variable that holds the value of the predicate returned at the end. The predicate is composed by the rules
for methods, but on its own: its statements have indices and look-ups of their own, none of them is the
last of the method, and none chains. So its code returns nowhere else, and whatever it reads it has bound
itself. This is step 5 of the Compose Method Builder (specification, 4.2).

* `Line.reads`, `ReadsBound`: the variables that lines read are bound in front of them.
* `Frame.Acts.readsBound`: one statement of a predicate reads what is known before it, or what it binds.
* `Frame.composePredicate_readsBound`: so the code of a predicate reads nothing from outside.
* `Frame.composePredicate_returns`: what it returns.
* **`compose_awaits`**: what a wait of a composed method becomes.
-/

namespace PageObjects

/-! ## Variables that are read -/

/-- The variable that an expression is called on. The page object and the document are none. -/
def Simple.reads : Simple → List String
  | .getter _ => []
  | .call c =>
    if c.receiver ∈ [Receiver.page.code, Receiver.document.code] then [] else [c.receiver]

/-- The variables that a line calls something on, or judges. -/
def Line.reads : Line Simple → List String
  | .bind _ _ value => value.reads
  | .perform value => value.reads
  | .verdict _ _ operand _ => [operand]
  | .give _ => []

/-- The names that lines bind. -/
def boundNames (lines : List (Line Simple)) : List String := lines.filterMap Line.bound?

/-- Every variable that a line reads is known, or bound by a line in front of it. -/
def ReadsBound (known : List String) (lines : List (Line Simple)) : Prop :=
  ∀ front line back, lines = front ++ line :: back → ∀ v ∈ line.reads, v ∈ known ++ boundNames front

namespace ReadsBound

variable {known : List String} {xs ys : List (Line Simple)}

theorem nil : ReadsBound known [] := by
  intro front line back h
  exact absurd h (by simp)

theorem singleton {line : Line Simple} (h : ∀ v ∈ line.reads, v ∈ known) :
    ReadsBound known [line] := by
  intro front line' back heq v hv
  obtain ⟨rfl, rfl, -⟩ : front = [] ∧ line = line' ∧ back = [] := by
    cases front with
    | nil => simpa using heq
    | cons first rest => exact absurd heq (by simp)
  simpa [boundNames] using h v hv

/-- Lines may read what the lines in front of them bind. -/
theorem append (hxs : ReadsBound known xs) (hys : ReadsBound (known ++ boundNames xs) ys) :
    ReadsBound known (xs ++ ys) := by
  intro front line back heq v hv
  rcases List.append_eq_append_iff.mp heq with ⟨middle, rfl, hmiddle⟩ | ⟨middle, rfl, hmiddle⟩
  · -- the line is one of the second part
    simpa [boundNames] using hys middle line back hmiddle v hv
  · cases middle with
    | nil =>
      rw [List.nil_append] at hmiddle
      simpa [boundNames] using hys [] line back hmiddle.symm v hv
    | cons first rest =>
      obtain ⟨rfl, -⟩ := by simpa using hmiddle
      exact hxs front line rest rfl v hv

end ReadsBound

variable {frame : Frame} {site : Site} {s : Statement} {lookups : Lookups} {known : List String}

/-- The variable of the value is bound right in front of the verdict on it. -/
theorem Site.Yields.readsBound {before : List (Line Simple)} {value : Simple} {resolved : ResultType}
    {b : Built Simple} (h : site.Yields before value resolved b) (hbefore : ReadsBound known before)
    (hvalue : ∀ v ∈ value.reads, v ∈ known ++ boundNames before) : ReadsBound known b.lines := by
  cases h with
  | dropped ht =>
    have hline : ReadsBound (known ++ boundNames before) [.perform value] := .singleton hvalue
    exact hbefore.append hline
  | bound hholds =>
    have hline : ReadsBound (known ++ boundNames before)
        [.bind resolved site.variableName value] := .singleton hvalue
    exact hbefore.append hline
  | judged hholds =>
    have hline : ReadsBound (known ++ boundNames before)
        [.bind resolved site.variableName value] := .singleton hvalue
    refine (hbefore.append hline).append (.singleton ?_)
    simp [Line.reads, boundNames, Line.bound?]

/-- What an element finds is bound: by the line that looks it up, or before. -/
theorem Frame.Finds.bound {r : Receiver} {lines : List (Line Simple)} {after : Lookups}
    (hlookups : ∀ entry ∈ lookups, entry.2 ∈ known) (h : frame.Finds site lookups s r lines after) :
    ReadsBound known lines ∧
      (r.code ∈ [Receiver.page.code, Receiver.document.code] ∨ r.code ∈ known ++ boundNames lines) ∧
      ∀ entry ∈ after, entry.2 ∈ known ++ boundNames lines := by
  have hkept : ∀ entry ∈ lookups, ∀ more : List String, entry.2 ∈ known ++ more :=
    fun entry hentry more => List.mem_append_left more (hlookups entry hentry)
  cases h with
  | page hname => exact ⟨.nil, Or.inl (by simp), fun entry hentry => hkept entry hentry _⟩
  | document hname => exact ⟨.nil, Or.inl (by simp), fun entry hentry => hkept entry hentry _⟩
  | @known name variableName element hname helement hbound =>
    exact ⟨.nil, Or.inr (hkept _ (mem_of_lookup hbound) _), fun entry hentry => hkept entry hentry _⟩
  | @fresh name element hname helement hfree =>
    refine ⟨.singleton (by simp [Line.reads, Simple.reads]), Or.inr ?_, ?_⟩
    · simp [Receiver.code, boundNames, Line.bound?]
    · intro entry hentry
      unfold Lookups.bind at hentry
      split at hentry
      · exact hkept entry hentry _
      · rcases List.mem_append.mp hentry with hold | hnew
        · exact hkept entry hold _
        · obtain rfl := List.mem_singleton.mp hnew
          simp [boundNames, Line.bound?]

/-- **A statement of a predicate** reads variables that are known before it, or that it binds first. -/
theorem Frame.Acts.readsBound {b : Built Simple} {after : Lookups} {ps : List Parameter}
    (hpredicate : site.inPredicate = true) (hlookups : ∀ entry ∈ lookups, entry.2 ∈ known)
    (h : frame.Acts site lookups s b after ps) :
    ReadsBound known b.lines ∧ ∀ entry ∈ after, entry.2 ∈ known ++ boundNames b.lines := by
  obtain ⟨hplace, hreaches, hevaluates, hyields⟩ := h
  rename_i r lines value resolved own
  have hchain : s.chain = false := by simpa [hpredicate] using hplace
  obtain ⟨hlines, hreceiver, hafter⟩ : ReadsBound known lines ∧
      (s.action ≠ none → r.code ∈ [Receiver.page.code, Receiver.document.code] ∨
        r.code ∈ known ++ boundNames lines) ∧
      ∀ entry ∈ after, entry.2 ∈ known ++ boundNames lines := by
    cases hreaches with
    | nothing haction =>
      exact ⟨.nil, fun hsome => absurd haction hsome,
        fun entry hentry => List.mem_append_left _ (hlookups entry hentry)⟩
    | receiver haction haddresses =>
      cases haddresses with
      | chain hchained hchains => exact absurd hchained (by simp [hchain])
      | element hunchained hfinds =>
        obtain ⟨hlines, hreceiver, hafter⟩ := hfinds.bound hlookups
        exact ⟨hlines, fun _ => hreceiver, hafter⟩
  have hvalue : ∀ v ∈ value.reads, v ∈ known ++ boundNames lines := by
    cases hevaluates with
    | getter haction helement hfits => simp [Simple.reads]
    | call haction hof hoperands hcheck hinvocation hfits =>
      intro v hv
      simp only [Simple.reads] at hv
      split at hv
      · exact absurd hv (by simp)
      · rename_i hvariable
        obtain rfl := List.mem_singleton.mp hv
        exact (hreceiver (by simp [haction])).resolve_left hvariable
  refine ⟨hyields.readsBound hlines hvalue, fun entry hentry => ?_⟩
  have hmem := hafter entry hentry
  rw [List.mem_append] at hmem ⊢
  refine hmem.imp_right fun hbound => ?_
  cases hyields <;> simp_all [boundNames]

/-- **The code of a predicate** reads nothing but what it binds. -/
theorem Frame.composePredicate_readsBound {ps more : List Parameter} {ss : List Statement}
    {inner : List (Built Simple)} (h : frame.composePredicate ps ss = .ok (inner, more)) :
    ReadsBound [] (inner.flatMap Built.lines) := by
  obtain ⟨last, hwalk, -⟩ := Frame.composePredicate_threaded h
  refine (hwalk.history (fun _ made trail => ReadsBound [] (made.flatMap Built.lines) ∧
    ∀ entry ∈ trail.lookups, entry.2 ∈ boundNames (made.flatMap Built.lines)) ?_
      ⟨.nil, by simp⟩).1
  rintro done made before s rest b after ⟨hmade, hbefore⟩ hstep
  obtain ⟨site, more, hsite, hacts, -⟩ := hstep.acts
  obtain ⟨-, -, -, hpredicate, -⟩ := Frame.siteOf_eq_ok hsite
  obtain ⟨hlines, hafter⟩ := hacts.readsBound hpredicate hbefore
  rw [List.flatMap_append, List.flatMap_singleton]
  refine ⟨hmade.append (by simpa using hlines), fun entry hentry => ?_⟩
  simpa [boundNames] using hafter entry hentry

/-! ## Values of predicates -/

/-- What the closure of a predicate returns, after its last statement `t` at index `k` has become `b`: the
variable `r`, of the given type. -/
structure Returns (t : Statement) (k : Nat) (b : Built Simple) (r : String) (type : ResultType) :
    Prop where
  /-- With a matcher it is the variable of the verdict. -/
  judged : t.matcher ≠ none → b.variableName = some ("pmatcher" ++ toString k)
  /-- Without one it is that of the value, if the statement binds one. -/
  unjudged : t.matcher = none → ∀ v, b.variableName = some v → v = "pstatement" ++ toString k
  /-- The statement declares the variable, under the type. -/
  bound : ∀ v, b.variableName = some v →
    r = v ∧ ∃ line ∈ b.lines, line.bound? = some v ∧ line.boundType? = some type
  /-- Where the statement binds no value, the closure returns true. -/
  unbound : b.variableName = none →
    r = "true" ∧ type = .boolean ∧ ∃ value, b.lines.getLast? = some (.perform value)

/-- The variable that a composed action binds. -/
theorem Frame.composeAction_variable {b : Built Simple} {after : Lookups} {ps : List Parameter}
    (h : frame.composeAction site lookups s = .ok (b, after, ps)) :
    (s.matcher ≠ none → b.variableName = some site.matcherVariable) ∧
      (s.matcher = none → ∀ v, b.variableName = some v → v = site.variableName) := by
  obtain ⟨-, r, lines, value, resolved, own, -, -, hdecides⟩ := Frame.composeAction_eq_ok h
  cases hdecides with
  | judged hmatcher hrequired hb hvariable => exact ⟨fun _ => rfl, fun hnone => absurd hnone hmatcher⟩
  | emitted hmatcher hb =>
    refine ⟨fun hsome => absurd hmatcher hsome, fun _ v hv => ?_⟩
    subst hb
    unfold Frame.emitted Frame.emit at hv
    split at hv
    · exact (Option.some.inj hv).symm
    · exact absurd hv (by simp)

theorem Site.Yields.declares_variable {before : List (Line Simple)} {value : Simple}
    {resolved : ResultType} {b : Built Simple} (h : site.Yields before value resolved b) :
    (∀ v, b.variableName = some v →
      ∃ line ∈ b.lines, line.bound? = some v ∧ line.boundType? = some b.returnType) ∧
    (b.variableName = none → b.lines.getLast? = some (.perform value)) := by
  cases h with
  | dropped ht => exact ⟨fun v hv => absurd hv (by simp), fun _ => by simp⟩
  | bound hholds =>
    refine ⟨fun v hv => ⟨_, List.mem_append_right _ (List.mem_singleton_self _), hv, rfl⟩, ?_⟩
    exact fun hnone => absurd hnone (by simp)
  | judged hholds =>
    refine ⟨fun v hv => ⟨_, List.mem_append_right _ (List.mem_singleton_self _), hv, rfl⟩, ?_⟩
    exact fun hnone => absurd hnone (by simp)

/-- **What the closure of a predicate returns**: the variable of its last statement, or true. -/
theorem Frame.composePredicate_returns {ps more : List Parameter} {ss : List Statement}
    {inner : List (Built Simple)} {t : Statement} {k : Nat} (ht : ss[k]? = some t)
    (hlast : k + 1 = ss.length) (h : frame.composePredicate ps ss = .ok (inner, more)) :
    ∃ b, inner[k]? = some b ∧ Returns t k b (predicateResult inner) (predicateType inner) := by
  obtain ⟨last, hwalk, -⟩ := Frame.composePredicate_threaded h
  obtain ⟨before, b, after, hb, hstep, -⟩ :=
    hwalk.step_at (fun _ => True) trivial (fun _ _ => trivial) ht
  rw [Nat.zero_add] at hstep
  have hgetLast : inner.getLast? = some b := by
    rw [List.getLast?_eq_getElem?, hwalk.length_eq, ← hlast]
    exact hb
  obtain ⟨site, hsite, -, hstep⟩ := hstep
  obtain ⟨-, hindex, -, hpredicate, -⟩ := Frame.siteOf_eq_ok hsite
  obtain ⟨own, haction, -, -⟩ := Frame.stepAction_eq_ok hstep
  obtain ⟨-, -, -, hyields⟩ := Frame.composeAction_acts haction
  obtain ⟨hdeclares, hdropped⟩ := hyields.declares_variable
  obtain ⟨hjudged, hvalue⟩ := Frame.composeAction_variable haction
  refine ⟨b, hb, ?_, ?_, ?_, ?_⟩
  · intro hmatcher
    rw [hjudged hmatcher, Site.matcherVariable, hindex, hpredicate]
    rfl
  · intro hmatcher v hv
    rw [hvalue hmatcher v hv, Site.variableName, hindex, hpredicate]
    rfl
  · intro v hv
    refine ⟨by simp [predicateResult, hgetLast, hv], ?_⟩
    have htype : predicateType inner = b.returnType := by
      simp [predicateType, hgetLast, hv]
    rw [htype]
    exact hdeclares v hv
  · intro hnone
    refine ⟨by simp [predicateResult, hgetLast, hnone], ?_, _, hdropped hnone⟩
    simp [predicateType, hgetLast, hnone]

/-! ## Waits -/

/-- The text of a wait for a closure: its lines, and the line that returns. -/
def awaiting (lines : List String) (result : String) : String :=
  "this.waitFor(() -> \x7b\n" ++ String.join (lines.map (· ++ ";\n")) ++ "return " ++ result ++ ";\n" ++
    "\x7d)"

theorem Expression.text_wait {closure : List (Line Simple)} {result : String} :
    (wait closure result).text = awaiting (closure.map (Line.text Simple.text)) result := by
  have hgive : (Line.give result : Line Simple).text Simple.text = "return " ++ result := by
    unfold Line.text
    rfl
  have hjoin : String.join ((closure ++ [Line.give result]).map fun (line : Line Simple) =>
      line.text Simple.text ++ ";\n") =
      String.join ((closure.map (Line.text Simple.text)).map (· ++ ";\n")) ++
        ("return " ++ result ++ ";\n") := by
    rw [List.map_append, String.join_append, List.map_singleton, hgive, List.map_map,
      String.join_cons, String.join_nil, String.append_empty]
    rfl
  unfold Expression.text awaiting
  dsimp only
  rw [hjoin]
  simp only [String.append_assoc]

/-- Plain lines of a statement, and the line that returns. -/
theorem Frame.finish_codeLines {b : Built Expression}
    (hplain : ∀ line ∈ b.lines, line.Plain Expression.text) : (frame.finish b).emitted.codeLines =
      b.lines.map (Line.text Expression.text) ++
        (frame.finish b).emitted.expectedReturns frame.requiresValue := by
  rw [← Frame.returnLine_text hplain, ← List.map_append]
  rfl

/-- A wait is a plain line if it is of a plain type. -/
theorem Frame.emit_wait_plain {closure : List (Line Simple)} {result : String}
    {type required : ResultType} {binds : Bool} (hvalue : type.holdsValue = true) (htype : type.Plain) :
    ∀ line ∈ (Frame.emit site [] (.wait closure result) type required binds).lines,
      line.Plain Expression.text :=
  (Frame.emit_yields fun _ => hvalue).plain (by simp) Expression.called_wait (by
    intro hbound
    unfold Frame.emit at *
    split
    · exact htype
    · rename_i hdropped
      rw [if_neg hdropped] at hbound
      exact absurd hbound (by simp))

/-- A wait is one line, which binds its value or does not. -/
theorem Frame.emit_wait_text {closure : List (Line Simple)} {result : String}
    {type required : ResultType} {binds : Bool} :
    ∃ front, (front = "" ∨ front = type.simpleName ++ " " ++ site.variableName ++ " = ") ∧
      (Frame.emit site [] (.wait closure result) type required binds).lines.map
        (Line.text Expression.text) =
          [front ++ awaiting (closure.map (Line.text Simple.text)) result] := by
  rw [← Expression.text_wait]
  -- the text of the wait is not looked into
  generalize Expression.wait closure result = value
  unfold Frame.emit
  split
  · exact ⟨_, Or.inr rfl, by unfold Line.text; rfl⟩
  · exact ⟨"", Or.inl rfl, by simp [Line.text]⟩

/-- The wait at index `i` has become `b`: one line for the closure of its predicate `inner`, and the
line that returns if the wait is the last statement of the method. -/
structure Frame.Awaits (frame : Frame) (s : Statement) (i : Nat) (b : Built Expression)
    (inner : List (Built Simple)) : Prop where
  /-- There is a predicate, and none of its statements is a wait or chains. -/
  nonempty : s.inner ≠ []
  actions : ∀ t ∈ s.inner, t.isWait = false ∧ t.chain = false
  /-- It is composed on its own, whatever type the method declares, and each statement at its index in
  the predicate. -/
  composed : ∃ ps more, ∀ type,
    (frame.returning type).composePredicate ps s.inner = .ok (inner, more)
  length : inner.length = s.inner.length
  indices : ∀ (k : Nat) (b' : Built Simple), inner[k]? = some b' → b'.index = k
  /-- The code is one line, with the line that returns. The value is bound, or not. -/
  code : ∃ front, (front = "" ∨
      front = (predicateType inner).simpleName ++ " statement" ++ toString i ++ " = ") ∧
    b.emitted.codeLines = (front ++ awaiting ((inner.flatMap Built.lines).map (Line.text Simple.text))
      (predicateResult inner)) :: b.emitted.expectedReturns frame.requiresValue
  /-- No line of the predicate returns. -/
  plain : ∀ line ∈ (inner.flatMap Built.lines).map (Line.text Simple.text), isReturn line = false
  /-- What is returned is the variable of the last statement, of the type of the bound value. -/
  result : ∃ t b', s.inner.getLast? = some t ∧ inner.getLast? = some b' ∧
    Returns t (s.inner.length - 1) b' (predicateResult inner) (predicateType inner)
  /-- What a line calls something on or judges, a line in front of it binds. -/
  bound : ReadsBound [] (inner.flatMap Built.lines)

/-- The statements of a composed predicate are actions without chain, built at their indices. -/
theorem Frame.PredicateStep.action {count index : Nat} {before after : Trail} {rest : List Statement}
    {b : Built Simple} (h : frame.PredicateStep count index before s rest b after) :
    s.isWait = false ∧ s.chain = false ∧ b.index = index := by
  have hwait : s.isWait = false := h.choose_spec.2.1
  obtain ⟨site, more, hsite, ⟨hplace, -, -, hyields⟩, -⟩ := h.acts
  obtain ⟨-, hindex, -, hpredicate, -⟩ := Frame.siteOf_eq_ok hsite
  refine ⟨hwait, by simpa [hpredicate] using hplace, ?_⟩
  cases hyields <;> simp [hindex]

/-- The lines of a composed predicate do not return. -/
theorem Frame.composePredicate_plain {ps more : List Parameter} {ss : List Statement}
    {inner : List (Built Simple)} (hpage : frame.page.Made)
    (h : frame.composePredicate ps ss = .ok (inner, more)) :
    ∀ line ∈ (inner.flatMap Built.lines).map (Line.text Simple.text), isReturn line = false := by
  obtain ⟨last, hwalk, -⟩ := Frame.composePredicate_threaded h
  have hplain : ∀ b ∈ inner, ∀ line ∈ b.lines, line.Plain Simple.text :=
    hwalk.forall_mem (fun trail => trail.lookups.Legible) (by simp [Lookups.Legible]) (by
      intro i before s rest b after hbefore hstep
      obtain ⟨site, more, -, hacts, -⟩ := hstep.acts
      obtain ⟨hafter, lines, value, resolved, hyields, hlines, hvalue⟩ := hacts.plain hpage hbefore
      exact ⟨hyields.plain hlines hvalue fun _ => hstep.type_plain, hafter⟩)
  intro text htext
  obtain ⟨line, hline, rfl⟩ := List.mem_map.mp htext
  obtain ⟨b, hb, hline⟩ := List.mem_flatMap.mp hline
  exact Line.isReturn_of_plain (hplain b hb line hline)

/-- **What a wait becomes.** In a composed method, every wait has a predicate of actions without chain,
and becomes one line, for the closure of that predicate. The closure returns once, at its end, the variable
that its last statement has bound, and reads no variable that it has not bound itself. -/
theorem compose_awaits {ss : List Statement} {c : Composition} (hpage : frame.page.Made)
    (h : compose frame ss = .ok c) : ∀ (i : Nat) (s : Statement), ss[i]? = some s → s.isWait = true →
      ∃ b inner, c.statements[i]? = some b ∧ frame.Awaits s i b inner := by
  intro i s hs hwait
  obtain ⟨site, previous, inner, ps, more, required, binds, hsite, hinner, hpredicate, hb⟩ :=
    compose_wait h hs hwait
  obtain ⟨last, hwalk, -⟩ := Frame.composePredicate_threaded hpredicate
  have hstep : ∀ {k : Nat} {t : Statement}, s.inner[k]? = some t →
      ∃ b, inner[k]? = some b ∧ t.isWait = false ∧ t.chain = false ∧ b.index = k := by
    intro k t ht
    obtain ⟨before, b, after, hb, hstep, -⟩ :=
      hwalk.step_at (fun _ => True) trivial (fun _ _ => trivial) ht
    rw [Nat.zero_add] at hstep
    exact ⟨b, hb, hstep.action⟩
  have hpositive : 0 < s.inner.length := List.length_pos_iff.mpr hinner
  refine ⟨_, inner, hb, {
    nonempty := hinner
    actions := ?_
    composed := ⟨ps, more, fun _ => Frame.composePredicateFrom_returning.trans hpredicate⟩
    length := hwalk.length_eq
    indices := ?_
    code := ?_
    plain := Frame.composePredicate_plain hpage hpredicate
    result := ?_
    bound := Frame.composePredicate_readsBound hpredicate }⟩
  · intro t ht
    obtain ⟨k, hk⟩ := List.getElem?_of_mem ht
    obtain ⟨-, -, hwait, hchain, -⟩ := hstep hk
    exact ⟨hwait, hchain⟩
  · intro k b' hb'
    have hk : k < s.inner.length := by
      have := (List.getElem?_eq_some_iff.mp hb').1
      rwa [hwalk.length_eq] at this
    obtain ⟨b, hb, -, -, hindex⟩ := hstep (List.getElem?_eq_getElem hk)
    obtain rfl : b = b' := Option.some.inj (hb.symm.trans hb')
    exact hindex
  · obtain ⟨-, hindex, -, hplace, -⟩ := Frame.siteOf_eq_ok hsite
    have hname : (predicateType inner).simpleName ++ " " ++ site.variableName =
        (predicateType inner).simpleName ++ " statement" ++ toString i := by
      have hmark : " statement" = " " ++ "statement" := by decide
      rw [Site.variableName, hindex, hplace, hmark]
      simp only [String.append_assoc]
      rfl
    obtain ⟨front, hfront, htext⟩ := Frame.emit_wait_text
    rw [hname] at hfront
    refine ⟨front, hfront, ?_⟩
    refine (Frame.finish_codeLines ?_).trans (congrArg (· ++ _) htext)
    exact Frame.emit_wait_plain (Frame.predicateType_holdsValue hpredicate)
      (Frame.predicateType_plain hpredicate)
  · obtain ⟨b', hb', hreturns⟩ := Frame.composePredicate_returns
      (List.getElem?_eq_getElem (show s.inner.length - 1 < s.inner.length by omega)) (by omega)
      hpredicate
    refine ⟨_, b', ?_, ?_, hreturns⟩
    · rw [List.getLast?_eq_getElem?]
      exact List.getElem?_eq_getElem _
    · rw [List.getLast?_eq_getElem?, hwalk.length_eq]
      exact hb'

/-- The status of a page. -/
def statusElement : Element := { name := "status", selector := { css := some "s" } }

/-- A method that reads the status of a page, and then waits until the text of the status contains a
word. -/
def awaitReady : Frame × List Statement :=
  ({ page :=
       { name := "Report",
         elements :=
           [{ name := "status", type := ResultType.ofElement "status" [],
              getter := "getStatusElement", selector := some statusElement.selector }] },
     method := "awaitReady" },
   [{ element := some "status", action := some "isVisible" },
    { action := some "waitFor", returnType := some "boolean", predicate := some
        [{ element := some "status", action := some "getText",
           matcher := some ⟨"stringContains", [.literal (.text "ready") none]⟩ }] }])

theorem awaitReady_made : awaitReady.1.page.Made :=
  .declare (e := statusElement) (.empty "Report" "") rfl rfl

theorem awaitReady_awaits : ∃ c b inner s, compose awaitReady.1 awaitReady.2 = .ok c ∧
    awaitReady.2[1]? = some s ∧ c.statements[1]? = some b ∧ b.variableName = some "statement1" ∧
    awaitReady.1.Awaits s 1 b inner := by
  have hok : (compose awaitReady.1 awaitReady.2).toOption.any (fun c =>
      (c.statements[1]?.bind Built.variableName) == some "statement1") = true := by decide
  obtain ⟨c, hc, hvariable⟩ := exists_eq_ok hok
  obtain ⟨b, inner, hb, hawaits⟩ := compose_awaits awaitReady_made hc 1 _ rfl rfl
  rw [hb] at hvariable
  exact ⟨c, b, inner, _, hc, rfl, hb, by simpa using hvariable, hawaits⟩

end PageObjects
