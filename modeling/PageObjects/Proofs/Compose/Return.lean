import PageObjects.Proofs.Compose.Chain
import PageObjects.Proofs.Page
import PageObjects.Proofs.SameType

/-!
# Returning

The line that returns is told from the other lines of a body by how it begins, and the type of the
method is decided apart from it (Compose Method Builder, specification 4.2). Both agree: exactly the last
statement returns, in its last line, and it does so exactly when the method is of a type that values have.
No other line begins like the one that returns, because the types of declarations are plain and the
variables in front of a call hold no blank. Nothing keeps a caller of the builder from giving a method a
type that is not plain, as no keyword stands for; then the last statement may be taken to return already.

* `Line.Plain`, `Line.isReturn_of_plain`: the lines of a statement before the one that returns.
* `Frame.MethodStep.plain`: every step of a method builds such lines only, unless it is the last one and
  of the type of the method.
* **`compose_disciplined`**: what a composed body binds, declares and returns, statement by
  statement, and what its type says about the line that returns.
* `not_disciplined_of_named`: a method with a type that is named like the word that returns.
-/

namespace PageObjects

/-! ## Lines that return -/

/-- A text that begins with something that is called and holds no blank. -/
def Called (text : String) : Prop := ∃ front rest, text = front ++ "." ++ rest ∧ ' ' ∉ front.toList

/-- A line that cannot be taken for one that returns: it begins with the name of a plain type, or
with something that is called. -/
def Line.Plain {ε : Type} (text : ε → String) : Line ε → Prop
  | .bind type _ _ => type.holdsValue = true ∧ type.Plain
  | .perform value => Called (text value)
  | .verdict _ _ _ _ => True
  | .give _ => False

theorem isReturn_of_called {line : String} (h : Called line) : isReturn line = false := by
  obtain ⟨front, rest, rfl, hblank⟩ := h
  rw [isReturn, Bool.eq_false_iff]
  intro hreturn
  have hprefix := List.isPrefixOf_iff_prefix.mp hreturn
  rw [String.toList_append, String.toList_append, List.append_assoc] at hprefix
  -- the blank would have to stand before the point
  have hfront := Text.prefix_of_notMem hprefix (by decide : '.' ∉ "return ".toList)
  exact hblank (hfront.subset (by decide))

/-- A plain line does not begin like the one that returns. -/
theorem Line.isReturn_of_plain {ε : Type} {text : ε → String} {line : Line ε}
    (h : line.Plain text) : isReturn (line.text text) = false := by
  cases line with
  | bind type name value =>
    rw [Line.text, String.append_assoc, String.append_assoc]
    exact (isReturn_bind h.1 _).mpr h.2
  | perform value => exact isReturn_of_called h
  | verdict name matcher operand arguments =>
    refine isReturn_of_head? ?_
    simp [Line.text]
  | give value => exact absurd h id

theorem Line.plain_map {line : Line Simple} (h : line.Plain Simple.text) :
    (line.map Expression.simple).Plain Expression.text := by
  cases line with
  | bind type name value => exact h
  | perform value => exact h
  | verdict name matcher operand arguments => trivial
  | give value => exact h

/-! ## Look-ups -/

/-- The variables of look-ups hold no blank. -/
def Lookups.Legible (lookups : Lookups) : Prop := ∀ entry ∈ lookups, ' ' ∉ entry.2.toList

variable {frame : Frame} {site : Site} {s : Statement} {lookups : Lookups}

theorem Naming.blank_notMem_index {i : Int} : ' ' ∉ (toString i).toList := by
  cases i with
  | ofNat n =>
    intro hblank
    exact absurd (Text.isDigit_of_mem_index (n := n) hblank) (by decide)
  | negSucc n =>
    intro hblank
    have htext : (toString (Int.negSucc n)).toList = '-' :: (toString (n + 1)).toList := by
      simp [toString, Int.repr]
    rw [htext] at hblank
    rcases List.mem_cons.mp hblank with hminus | hdigit
    · exact absurd hminus (by decide)
    · exact absurd (Text.isDigit_of_mem_index hdigit) (by decide)

/-- The variable of an element holds no blank. -/
theorem Site.blank_notMem_elementVariable {name : String} (h : Text.isIdentifier name = true) :
    ' ' ∉ (site.elementVariable name).toList := by
  simp only [Site.elementVariable, Naming.elementVariable, String.toList_append, List.mem_append,
    not_or]
  refine ⟨⟨?_, Text.blank_notMem_of_isIdentifier h⟩, Naming.blank_notMem_index⟩
  unfold Naming.predicateMark
  split <;> decide

theorem Lookups.Legible.bind {name variableName : String} (h : lookups.Legible)
    (hvariable : ' ' ∉ variableName.toList) : (lookups.bind name variableName).Legible := by
  unfold Lookups.bind
  split
  · exact h
  · intro entry hentry
    rcases List.mem_append.mp hentry with hold | hnew
    · exact h entry hold
    · obtain rfl := List.mem_singleton.mp hnew
      exact hvariable

/-- What a statement is called on holds no blank, and the lines that look it up are plain. -/
theorem Frame.Addresses.plain {r : Receiver} {lines : List (Line Simple)} {after : Lookups}
    (hpage : frame.page.Made) (hlookups : lookups.Legible)
    (h : frame.Addresses site lookups s r lines after) :
    ' ' ∉ r.code.toList ∧ (∀ line ∈ lines, line.Plain Simple.text) ∧ after.Legible := by
  cases h with
  | chain hchain hchains =>
    obtain ⟨-, -, -⟩ := hchains
    refine ⟨?_, by simp, hlookups⟩
    simp only [Receiver.code, Naming.chainVariable, String.toList_append, List.mem_append, not_or]
    exact ⟨by decide, Naming.blank_notMem_index⟩
  | element hchain hfinds =>
    cases hfinds with
    | page hname => exact ⟨by decide, by simp, hlookups⟩
    | document hname => exact ⟨by decide, by simp, hlookups⟩
    | @known name variableName element hname helement hbound =>
      exact ⟨hlookups (name, variableName) (mem_of_lookup hbound), by simp, hlookups⟩
    | @fresh name element hname helement hfree =>
      have hvariable : ' ' ∉ (site.elementVariable name).toList := by
        refine Site.blank_notMem_elementVariable ?_
        rw [← Page.name_of_find? helement]
        exact hpage.isIdentifier_name element (List.mem_of_find?_eq_some helement)
      refine ⟨hvariable, ?_, hlookups.bind hvariable⟩
      intro line hline
      obtain rfl := List.mem_singleton.mp hline
      exact ⟨PageElement.returnType_holdsValue, PageElement.returnType_plain⟩

/-! ## Expressions -/

/-- A call begins with what it is made on. -/
theorem Call.called {c : Call} (h : ' ' ∉ c.receiver.toList) : Called c.text := by
  unfold Call.text
  cases c.spread with
  | single => exact ⟨c.receiver, c.invocation, rfl, h⟩
  | forEach =>
    refine ⟨c.receiver, "forEach(element -> element." ++ c.invocation ++ ")", ?_, h⟩
    simp [String.append_assoc, ← String.toList_inj]
  | map =>
    refine ⟨c.receiver, "stream().map(element -> element." ++ c.invocation ++
      ").collect(Collectors.toList())", ?_, h⟩
    simp [String.append_assoc, ← String.toList_inj]
  | flatMap =>
    refine ⟨c.receiver, "stream().flatMap(element -> element." ++ c.invocation ++
      ".stream()).collect(Collectors.toList())", ?_, h⟩
    simp [String.append_assoc, ← String.toList_inj]

/-- What begins with `this.` is called on the page object. -/
theorem called_of_this {text : String} (h : "this.".toList <+: text.toList) : Called text := by
  obtain ⟨rest, hrest⟩ := h
  exact ⟨"this", String.ofList rest, by rw [← String.toList_inj, ← hrest]; simp, by decide⟩

/-- A wait is called on the page object. -/
theorem Expression.called_wait {closure : List (Line Simple)} {result : String} :
    Called (Expression.wait closure result).text := by
  unfold Expression.text
  refine called_of_this ?_
  simp only [String.toList_append, List.append_assoc]
  exact List.IsPrefix.trans ⟨"waitFor(() -> \x7b\n".toList, by simp⟩ (List.prefix_append _ _)

/-- An expression begins with what it is called on. -/
theorem Frame.Evaluates.called {r : Receiver} {required resolved : ResultType} {value : Simple}
    {parameters : List Parameter} (hreceiver : s.action ≠ none → ' ' ∉ r.code.toList)
    (h : frame.Evaluates site s r required value resolved parameters) : Called value.text := by
  cases h with
  | @getter element haction helement hfits =>
    refine called_of_this ?_
    rw [Simple.text, String.toList_append, String.toList_append, List.append_assoc]
    exact List.prefix_append _ _
  | call haction hof hoperands hcheck hinvocation hfits =>
    exact Call.called (hreceiver (by simp [haction]))

/-! ## Statements -/

/-- Around a value that begins with a call, a statement is built of plain lines, unless it is of a
type that is not plain. -/
theorem Site.Yields.plain {ε : Type} {text : ε → String} {before : List (Line ε)} {value : ε}
    {resolved : ResultType} {b : Built ε} (h : site.Yields before value resolved b)
    (hbefore : ∀ line ∈ before, line.Plain text) (hvalue : Called (text value))
    (htype : b.variableName.isSome = true → b.returnType.Plain) :
    ∀ line ∈ b.lines, line.Plain text := by
  cases h with
  | dropped ht =>
    intro line hline
    rcases List.mem_append.mp hline with hold | hnew
    · exact hbefore line hold
    · obtain rfl := List.mem_singleton.mp hnew
      exact hvalue
  | bound hholds =>
    intro line hline
    rcases List.mem_append.mp hline with hold | hnew
    · exact hbefore line hold
    · obtain rfl := List.mem_singleton.mp hnew
      exact ⟨hholds, htype rfl⟩
  | judged hholds hresolved =>
    intro line hline
    simp only [List.mem_append, List.mem_singleton] at hline
    rcases hline with (hold | rfl) | rfl
    · exact hbefore line hold
    · exact ⟨hholds, hresolved⟩
    · trivial

/-- A statement is of a plain type, or of the type of its value. -/
theorem Site.Yields.type_plain {ε : Type} {before : List (Line ε)} {value : ε} {resolved : ResultType}
    {b : Built ε} (h : site.Yields before value resolved b) :
    b.returnType.Plain ∨ b.returnType = resolved := by
  cases h with
  | @dropped t isWait ht => cases t <;> simp_all [ResultType.isSelf, ResultType.Plain]
  | bound hholds => exact Or.inr rfl
  | judged hholds hplain => exact Or.inl ResultType.boolean_plain

/-- A composed action looks up in plain lines, and its value begins with a call. -/
theorem Frame.Acts.plain {b : Built Simple} {after : Lookups} {ps : List Parameter}
    (hpage : frame.page.Made) (hlookups : lookups.Legible) (h : frame.Acts site lookups s b after ps) :
    after.Legible ∧ ∃ before value resolved, site.Yields before value resolved b ∧
      (∀ line ∈ before, line.Plain Simple.text) ∧ Called value.text := by
  obtain ⟨-, hreaches, hevaluates, hyields⟩ := h
  cases hreaches with
  | nothing haction =>
    exact ⟨hlookups, _, _, _, hyields, by simp, hevaluates.called (absurd haction)⟩
  | receiver haction haddresses =>
    obtain ⟨hcode, hlookup, hafter⟩ := haddresses.plain hpage hlookups
    exact ⟨hafter, _, _, _, hyields, hlookup, hevaluates.called fun _ => hcode⟩

/-- A type that is asked for is plain, or it is the type of the method, asked of the last statement. -/
theorem Frame.requiredType_plain {inPredicate : Bool} {count index : Nat} {previous : Option ResultType}
    (hsite : frame.siteOf inPredicate count index previous s = .ok site) :
    (site.requiredType .unset frame.methodReturn).Plain ∨
      site.isLast = true ∧ site.requiredType .unset frame.methodReturn = frame.methodReturn := by
  unfold Site.requiredType
  split
  · exact Or.inl (Page.resolve_plain (Frame.siteOf_eq_ok hsite).1)
  · split
    · rename_i hlast
      exact Or.inr ⟨(Bool.and_eq_true_iff.mp hlast).1, rfl⟩
    · exact Or.inl trivial

/-- An action is of a plain type, or it is the last statement and of the type of the method. -/
theorem Frame.Acts.type_plain {inPredicate : Bool} {count index : Nat} {previous : Option ResultType}
    {b : Built Simple} {after : Lookups} {ps : List Parameter}
    (hsite : frame.siteOf inPredicate count index previous s = .ok site)
    (h : frame.Acts site lookups s b after ps) :
    b.returnType.Plain ∨ site.isLast = true ∧ b.returnType = frame.methodReturn := by
  obtain ⟨-, -, hevaluates, hyields⟩ := h
  rcases hyields.type_plain with hplain | htype
  · exact Or.inl hplain
  · rw [htype]
    rcases hevaluates.type_plain with hplain | rfl
    · exact Or.inl hplain
    · unfold Frame.ownType
      split
      · exact Or.inl trivial
      · exact Frame.requiredType_plain hsite

/-- A statement of a predicate is of a plain type: the type of the method is not asked for in it. -/
theorem Frame.PredicateStep.type_plain {count index : Nat} {before after : Trail}
    {rest : List Statement} {b : Built Simple}
    (h : frame.PredicateStep count index before s rest b after) : b.returnType.Plain := by
  obtain ⟨site, more, hsite, hacts, -⟩ := h.acts
  rcases hacts.type_plain hsite with hplain | ⟨hlast, -⟩
  · exact hplain
  · exact absurd hlast (by simp [(Frame.siteOf_eq_ok hsite).2.2.2.2.1])

/-- The type of a composed predicate is plain. -/
theorem Frame.predicateType_plain {parameters ps : List Parameter} {ss : List Statement}
    {inner : List (Built Simple)} (h : frame.composePredicate parameters ss = .ok (inner, ps)) :
    (predicateType inner).Plain := by
  obtain ⟨last, hwalk, -⟩ := Frame.composePredicate_threaded h
  have hbuilt : ∀ b ∈ inner, b.returnType.Plain :=
    hwalk.forall_mem (fun _ => True) trivial fun _ hstep => ⟨hstep.type_plain, trivial⟩
  unfold predicateType
  split
  · rename_i b v hlast hvariable
    exact hbuilt b (List.mem_of_getLast? hlast)
  · exact ResultType.boolean_plain

/-- **A step of a method builds plain lines**, around a value that begins with a call, and then the line
that returns. The statement is of a plain type, or it is the last one and of the type of the method. It has
one of the three shapes, and the look-ups after it are as legible as those before. -/
theorem Frame.MethodStep.plain {count index : Nat} {before after : Trail} {rest : List Statement}
    {b : Built Expression} (hpage : frame.page.Made) (hlookups : before.lookups.Legible)
    (h : frame.MethodStep count index before s rest b after) :
    after.lookups.Legible ∧ ∃ site b' lines value resolved,
      frame.siteOf false count index before.previous s = .ok site ∧
      site.Yields lines value resolved b' ∧
      (∀ line ∈ lines, line.Plain Expression.text) ∧ Called value.text ∧
      (b'.returnType.Plain ∨ index + 1 = count ∧ b'.returnType = frame.methodReturn) ∧
      b = frame.finish b' := by
  obtain ⟨site, hsite, hstep⟩ := h
  obtain ⟨-, b', hwaits, rfl⟩ | ⟨-, b', hstep', rfl⟩ := Frame.composeStatement_cases hstep
  · cases hwaits with
    | @mk inner ps _ hinner hpredicate hyields =>
      have htype : b'.returnType.Plain := by
        rcases hyields.type_plain with hplain | htype
        · exact hplain
        · exact htype ▸ Frame.predicateType_plain hpredicate
      exact ⟨hlookups, site, b', _, _, _, hsite, hyields, by simp, Expression.called_wait,
        Or.inl htype, rfl⟩
  · obtain ⟨more, hacts, -, -⟩ := Frame.stepAction_acts hstep'
    obtain ⟨hafter, lines, value, resolved, hyields, hlines, hvalue⟩ := hacts.plain hpage hlookups
    have hlast := (Frame.siteOf_eq_ok hsite).2.2.2.2.1
    refine ⟨hafter, site, b'.map Expression.simple, _, _, _, hsite, hyields.map Expression.simple,
      ?_, hvalue, ?_, rfl⟩
    · intro line hline
      obtain ⟨line', hline', rfl⟩ := List.mem_map.mp hline
      exact Line.plain_map (hlines line' hline')
    · refine (hacts.type_plain hsite).imp_right fun ⟨hlast', htype⟩ => ⟨?_, htype⟩
      simpa [hlast] using hlast'

/-! ## Emitted statements -/

namespace Emitted

/-- The lines of a statement that do not return. -/
def code (e : Emitted) : List String := e.codeLines.filter fun line => !isReturn line

/-- The lines of a statement that return. -/
def returns (e : Emitted) : List String := e.codeLines.filter isReturn

/-- The lines with which a statement has to return. The last statement returns its variable; without
one it returns the page object, if it is of the page object's type or a value is required. -/
def expectedReturns (e : Emitted) (requiresValue : Bool) : List String :=
  match e.isLast, e.variableName with
  | false, _ => []
  | true, some v => ["return " ++ v]
  | true, none => if e.returnType.isSelf || requiresValue then ["return this"] else []

/-- The statement at index `i` of `count`, as it binds its value. -/
structure Binds (e : Emitted) (i count : Nat) : Prop where
  /-- The statement knows its index. -/
  index : e.index = i
  /-- The last statement, and no other, is marked as the last. -/
  isLast : e.isLast = true ↔ i + 1 = count
  /-- A statement that binds nothing yields nothing, or the page object. -/
  unbound : e.variableName = none → e.returnType.isVoid = true ∨ e.returnType.isSelf = true
  /-- A variable is named by the index. -/
  named : ∀ v, e.variableName = some v →
    v = "statement" ++ toString i ∨ v = "matcher" ++ toString i
  /-- A variable holds a value. -/
  holdsValue : ∀ v, e.variableName = some v → e.returnType.isVoid = false ∧
    e.returnType.isSelf = false ∧ e.returnType.isUnset = false

/-- The statement at index `i` of `count`, as it declares and returns what it binds. -/
structure Disciplined (e : Emitted) (requiresValue : Bool) (i count : Nat) : Prop
    extends e.Binds i count where
  /-- The last line that does not return declares the variable. -/
  declared : ∀ v, e.variableName = some v → ∃ value,
    e.code.getLast? = some (e.returnType.simpleName ++ " " ++ v ++ " = " ++ value)
  /-- The lines that return stand behind the others. -/
  codeLines : e.codeLines = e.code ++ e.returns
  /-- They are the expected ones. -/
  returns : e.returns = e.expectedReturns requiresValue

/-- The last of `count` statements, whose declaration stands behind all other lines and is taken for the
line that returns. -/
structure Mistaken (e : Emitted) (i count : Nat) : Prop extends e.Binds i count where
  last : i + 1 = count
  codeLines : e.codeLines = e.code ++ e.returns
  returns : ∃ v value, e.variableName = some v ∧
    e.returns = [e.returnType.simpleName ++ " " ++ v ++ " = " ++ value]

end Emitted

/-- The body of a method of `count` statements, whose type agrees with the line that returns. -/
structure Body.Agrees (body : Body) (requiresValue : Bool) (count : Nat) : Prop where
  /-- Every statement becomes one. -/
  length : body.statements.length = count
  /-- There is a last statement. Where a value is required it returns; else it returns unless the
  method is of no type, and its own type is that of the method. -/
  type : ∃ last, body.statements.getLast? = some last ∧
    (requiresValue = true → last.returns ≠ []) ∧
    (requiresValue = false → (body.returnType.isVoid = true ↔ last.returns = []) ∧
      body.returnType.same last.returnType = true)

/-- The body of a method of `count` statements, all of which are disciplined. -/
structure Body.Disciplined (body : Body) (requiresValue : Bool) (count : Nat) : Prop
    extends body.Agrees requiresValue count where
  /-- Every statement binds and returns as it has to. -/
  statements : ∀ (i : Nat) (e : Emitted), body.statements[i]? = some e →
    e.Disciplined requiresValue i count

/-- Plain lines with a line that returns behind them are told apart. -/
theorem Frame.finish_lines (frame : Frame) {b : Built Expression}
    (h : ∀ line ∈ b.lines, line.Plain Expression.text) :
    (frame.finish b).emitted.code = b.lines.map (Line.text Expression.text) ∧
    (frame.finish b).emitted.returns = (frame.returnLine b).map (Line.text Expression.text) := by
  have hplain : ∀ line ∈ b.lines.map (Line.text Expression.text), isReturn line = false := by
    intro line hline
    obtain ⟨line', hline', rfl⟩ := List.mem_map.mp hline
    exact Line.isReturn_of_plain (h line' hline')
  have hreturn : ∀ line ∈ (frame.returnLine b).map (Line.text Expression.text),
      isReturn line = true := by
    intro line hline
    obtain ⟨line', hline', rfl⟩ := List.mem_map.mp hline
    obtain ⟨v, rfl⟩ := Frame.mem_returnLine hline'
    exact isReturn_give
  simp only [Emitted.code, Emitted.returns, Built.emitted, Frame.finish, List.map_append,
    List.filter_append]
  rw [List.filter_eq_self.mpr (by simpa using hplain),
    List.filter_eq_nil_iff.mpr (by simpa using hreturn),
    List.filter_eq_nil_iff.mpr (by simpa using hplain),
    List.filter_eq_self.mpr hreturn]
  simp

/-- Behind plain lines the line that returns is the expected one. -/
theorem Frame.returnLine_text {b : Built Expression}
    (hplain : ∀ line ∈ b.lines, line.Plain Expression.text) :
    (frame.returnLine b).map (Line.text Expression.text) =
      (frame.finish b).emitted.expectedReturns frame.requiresValue := by
  have hreturns : b.lines.any (·.returns Expression.text) = false := by
    rw [List.any_eq_false]
    intro line hline
    simpa [Line.returns] using Line.isReturn_of_plain (hplain line hline)
  simp only [Frame.returnLine, Emitted.expectedReturns, Built.emitted, Frame.finish, hreturns,
    Bool.or_false]
  cases b.isLast with
  | false => rfl
  | true =>
    cases b.variableName with
    | some v => rfl
    | none =>
      by_cases hgives : (b.returnType.isSelf || frame.requiresValue) = true
      · simp only [hgives, if_true, Bool.not_true, Bool.false_eq_true, if_false]
        rfl
      · simp only [hgives, Bool.not_true, Bool.false_eq_true, if_false]
        rfl

section Yields

variable {count i : Nat} {previous : Option ResultType} {lines : List (Line Expression)}
  {value : Expression} {resolved : ResultType} {b : Built Expression}

/-- A statement that is built at its site binds its value. -/
theorem Site.Yields.binds (hsite : frame.siteOf false count i previous s = .ok site)
    (h : site.Yields lines value resolved b) : (frame.finish b).emitted.Binds i count := by
  obtain ⟨-, hindex, -, hpredicate, hlast, -⟩ := Frame.siteOf_eq_ok hsite
  have hstatement : site.variableName = "statement" ++ toString i := by
    rw [Site.variableName, hindex, hpredicate]
    rfl
  have hmatcher : site.matcherVariable = "matcher" ++ toString i := by
    rw [Site.matcherVariable, hindex, hpredicate]
    rfl
  have hholds : ∀ t : ResultType, t.holdsValue = true →
      t.isVoid = false ∧ t.isSelf = false ∧ t.isUnset = false := by
    intro t ht
    exact ResultType.holdsValue_iff.mp ht
  refine {
    index := ?_
    isLast := ?_
    unbound := ?_
    named := ?_
    holdsValue := ?_ }
  · cases h <;> simp [Built.emitted, Frame.finish, hindex]
  · cases h <;> simp [Built.emitted, Frame.finish, hlast]
  · cases h with
    | dropped ht => exact fun _ => ht.imp_left ResultType.isVoid_iff.mpr
    | bound hvalue => exact fun hnone => absurd hnone (by simp [Built.emitted, Frame.finish])
    | judged hvalue => exact fun hnone => absurd hnone (by simp [Built.emitted, Frame.finish])
  · cases h with
    | dropped ht => exact fun v hv => absurd hv (by simp [Built.emitted, Frame.finish])
    | bound hvalue => exact fun v hv => Or.inl ((Option.some.inj hv).symm.trans hstatement)
    | judged hvalue => exact fun v hv => Or.inr ((Option.some.inj hv).symm.trans hmatcher)
  · cases h with
    | dropped ht => exact fun v hv => absurd hv (by simp [Built.emitted, Frame.finish])
    | bound hvalue => exact fun v hv => hholds _ hvalue
    | judged hvalue => exact fun v hv => hholds _ rfl

/-- A statement that is built at its site, of plain lines, is disciplined. -/
theorem Site.Yields.disciplined (hsite : frame.siteOf false count i previous s = .ok site)
    (h : site.Yields lines value resolved b) (hplain : ∀ line ∈ b.lines, line.Plain Expression.text) :
    (frame.finish b).emitted.Disciplined frame.requiresValue i count := by
  obtain ⟨hcode, hreturns⟩ := frame.finish_lines hplain
  refine {
    toBinds := h.binds hsite
    declared := ?_
    codeLines := ?_
    returns := by rw [hreturns, Frame.returnLine_text hplain] }
  · intro v hv
    rw [hcode]
    cases h with
    | dropped ht => exact absurd hv (by simp [Built.emitted, Frame.finish])
    | bound hvalue =>
      obtain rfl := Option.some.inj hv
      exact ⟨value.text, by simp [Line.text, Built.emitted, Frame.finish]⟩
    | @judged kind operands isWait hvalue =>
      obtain rfl := Option.some.inj hv
      exact ⟨kind.expression site.variableName (operands.map Operand.code), by
        simp [Line.text, Built.emitted, Frame.finish, ResultType.boolean, ResultType.simple,
          ResultType.simpleName]⟩
  · rw [hcode, hreturns]
    simp [Built.emitted, Frame.finish]

/-- A last statement that binds a value of a type which is not plain is mistaken: its declaration keeps
the line that returns away. -/
theorem Site.Yields.mistaken (hsite : frame.siteOf false count i previous s = .ok site)
    (h : site.Yields lines value resolved b) (hlast : i + 1 = count)
    (hplain : ∀ line ∈ lines, line.Plain Expression.text) (hbound : b.variableName.isSome = true)
    (htype : ¬ b.returnType.Plain) : (frame.finish b).emitted.Mistaken i count := by
  have hbinds := h.binds hsite
  cases h with
  | dropped ht => exact absurd hbound (by simp)
  | judged hvalue => exact absurd ResultType.boolean_plain htype
  | bound hvalue =>
    have hdeclaration : isReturn (resolved.simpleName ++ " " ++ site.variableName ++ " = " ++
        value.text) = true := by
      rw [← Bool.not_eq_false, String.append_assoc, String.append_assoc, isReturn_bind hvalue]
      exact htype
    have hothers : ∀ line ∈ lines.map (Line.text Expression.text), isReturn line = false := by
      intro line hline
      obtain ⟨line', hline', rfl⟩ := List.mem_map.mp hline
      exact Line.isReturn_of_plain (hplain line' hline')
    have hnone : ∀ line ∈ lines.map (Line.text Expression.text), ¬ isReturn line = true := by
      simpa using hothers
    have hall : ∀ line ∈ lines.map (Line.text Expression.text), (!isReturn line) = true := by
      simpa using hothers
    refine { toBinds := hbinds, last := hlast, codeLines := ?_, returns := ⟨_, value.text, rfl, ?_⟩ }
    all_goals
      simp only [Emitted.code, Emitted.returns, Built.emitted, Frame.finish, Frame.returnLine,
        List.any_append, List.any_cons, Line.returns, Line.text, hdeclaration, List.map_append,
        List.map_cons, List.map_nil, List.filter_append, Bool.true_or, Bool.or_true, if_true,
        List.append_nil]
      rw [List.filter_eq_nil_iff.mpr hnone]
      simp [hdeclaration, List.filter_eq_self.mpr hall]

end Yields

/-! ## Bodies -/

theorem ResultType.isVoid_of_same {a b : ResultType} (h : a.same b = true) :
    a.isVoid = b.isVoid := by
  cases a <;> cases b <;> simp_all [same, isVoid]

/-- A method that need not return a value is of the type of its last statement. -/
theorem Frame.returnType_same {b : Built Expression} {t : ResultType}
    (hvalue : frame.requiresValue = false) (h : frame.returnType b = .ok t) :
    t.same b.returnType = true := by
  unfold Frame.returnType at h
  rw [hvalue, if_neg Bool.false_ne_true] at h
  split at h
  · obtain rfl := Except.ok.inj h
    exact ResultType.same_refl _
  · split at h
    · rename_i hsame
      obtain rfl := Except.ok.inj h
      exact hsame
    · exact absurd h (by simp)

/-- The last statement returns if a value is required, and else unless it yields nothing. -/
theorem Emitted.Disciplined.returns_of_last {e : Emitted} {requiresValue : Bool} {i count : Nat}
    (h : e.Disciplined requiresValue i count) (hlast : i + 1 = count) :
    e.returns = [] ↔ requiresValue = false ∧ e.returnType.isVoid = true := by
  rw [h.returns, Emitted.expectedReturns, h.isLast.mpr hlast]
  cases hv : e.variableName with
  | some v => simp [(h.holdsValue v hv).1]
  | none =>
    rcases h.unbound hv with hvoid | hself
    · cases ht : e.returnType <;> simp_all [ResultType.isVoid, ResultType.isSelf]
    · cases ht : e.returnType <;> simp_all [ResultType.isVoid, ResultType.isSelf]

/-- What a disciplined statement binds is of a plain type: else its declaration would begin like a line
that returns. -/
theorem Emitted.Disciplined.plain {e : Emitted} {requiresValue : Bool} {i count : Nat}
    (h : e.Disciplined requiresValue i count) (hv : e.variableName.isSome = true) :
    e.returnType.Plain := by
  obtain ⟨v, hv⟩ := Option.isSome_iff_exists.mp hv
  obtain ⟨value, hdeclared⟩ := h.declared v hv
  have hline := (List.mem_filter.mp (List.mem_of_getLast? hdeclared)).2
  refine (isReturn_bind (ResultType.holdsValue_iff.mpr (h.holdsValue v hv))
    (v ++ (" = " ++ value))).mp ?_
  simpa [String.append_assoc] using hline

/-- A statement of a composed method is of a plain type, or it is the last one and of the type that the
method declares. It is disciplined if what it binds is of a plain type, and mistaken else. -/
theorem compose_statement_disciplined {ss : List Statement} {c : Composition} {i : Nat} {e : Emitted}
    (hpage : frame.page.Made) (h : compose frame ss = .ok c) (he : c.body.statements[i]? = some e) :
    (e.returnType.Plain ∨ i + 1 = ss.length ∧ e.returnType = frame.methodReturn) ∧
      ((e.variableName.isSome = true → e.returnType.Plain) →
        e.Disciplined frame.requiresValue i ss.length) ∧
      (e.variableName.isSome = true → ¬ e.returnType.Plain → e.Mistaken i ss.length) := by
  obtain ⟨trail, -, hwalk, -⟩ := compose_threaded h
  have hi : i < ss.length := by
    have := (List.getElem?_eq_some_iff.mp he).1
    simpa [Composition.body, hwalk.length_eq] using this
  obtain ⟨before, b, after, hb, hstep, hbefore⟩ :=
    hwalk.step_at (fun trail => trail.lookups.Legible) (by simp [Lookups.Legible])
      (fun hbefore hstep => (hstep.plain hpage hbefore).1) (List.getElem?_eq_getElem hi)
  obtain ⟨-, site, b', lines, value, resolved, hsite, hyields, hlines, hvalue, htype, rfl⟩ :=
    hstep.plain hpage hbefore
  rw [Nat.zero_add] at hsite htype
  obtain rfl : (frame.finish b').emitted = e := by
    simpa [Composition.body, hb] using he
  refine ⟨htype, fun hplain => hyields.disciplined hsite (hyields.plain hlines hvalue hplain),
    fun hbound hmistaken => ?_⟩
  have hlast := (htype.resolve_left hmistaken).1
  exact hyields.mistaken hsite hlast hlines hbound hmistaken

/-- The last statement of a composed method returns if a value is required, and else unless it yields
nothing. -/
theorem compose_returns {ss : List Statement} {c : Composition} {i : Nat} {e : Emitted}
    (hpage : frame.page.Made) (h : compose frame ss = .ok c) (he : c.body.statements[i]? = some e)
    (hlast : i + 1 = ss.length) :
    e.returns = [] ↔ frame.requiresValue = false ∧ e.returnType.isVoid = true := by
  obtain ⟨-, hdisciplined, hmistaken⟩ := compose_statement_disciplined hpage h he
  by_cases hplain : e.variableName.isSome = true → e.returnType.Plain
  · exact (hdisciplined hplain).returns_of_last hlast
  · obtain ⟨hbound, htype⟩ := Classical.not_imp.mp hplain
    have hmistaken := hmistaken hbound htype
    obtain ⟨v, value, hv, hreturns⟩ := hmistaken.returns
    refine iff_of_false (by simp [hreturns]) ?_
    simp [(hmistaken.holdsValue v hv).1]

/-- The type of a composed body agrees with the line that returns. -/
theorem compose_agrees {ss : List Statement} {c : Composition} (hpage : frame.page.Made)
    (h : compose frame ss = .ok c) : c.body.Agrees frame.requiresValue ss.length := by
  obtain ⟨trail, b, hwalk, hb, htype, -⟩ := compose_threaded h
  have hlength := hwalk.length_eq
  refine ⟨by simpa [Composition.body] using hlength, b.emitted, ?_, ?_⟩
  · simp [Composition.body, hb]
  · rw [List.getLast?_eq_getElem?] at hb
    have hpositive : 0 < c.statements.length := by
      have := (List.getElem?_eq_some_iff.mp hb).1
      omega
    have hlast := @compose_returns _ _ _ (c.statements.length - 1) b.emitted hpage h
      (by simp [Composition.body, hb]) (by omega)
    refine ⟨?_, ?_⟩
    · intro hvalue hnone
      exact absurd (hlast.mp hnone).1 (by simp [hvalue])
    · intro hvalue
      have hsame := Frame.returnType_same hvalue htype
      refine ⟨?_, hsame⟩
      rw [hlast]
      simp only [hvalue, true_and, Composition.body, Built.emitted]
      rw [ResultType.isVoid_of_same hsame]

/-- A method is of a plain type if the one that it declares is plain, or open. -/
theorem Frame.returnType_plain {b : Built Expression} {t : ResultType}
    (hreturn : frame.methodReturn.Plain) (hb : b.returnType.Plain) (h : frame.returnType b = .ok t) :
    t.Plain := by
  unfold Frame.returnType at h
  split at h
  · obtain rfl := Except.ok.inj h
    exact (by decide : ResultType.object.Plain)
  · split at h
    · obtain rfl := Except.ok.inj h
      exact hb
    · split at h
      · obtain rfl := Except.ok.inj h
        exact hreturn
      · exact absurd h (by simp)

/-- The types that a page has: what keywords and references stand for on it, and the types of its
elements. -/
def Page.Offers (page : Page) (t : ResultType) : Prop :=
  (∃ keyword? all, page.resolve keyword? all = .ok t) ∨ ∃ element ∈ page.elements, t = element.returnType

theorem Page.Offers.plain {page : Page} {t : ResultType} (h : page.Offers t) : t.Plain := by
  rcases h with ⟨keyword?, all, hresolve⟩ | ⟨element, -, rfl⟩
  · exact Page.resolve_plain hresolve
  · exact PageElement.returnType_plain

/-- **Composed bodies are disciplined**, and their types agree with the line that returns, unless a
statement binds a value of a type whose declaration is taken for a line that returns. That can only be the
last one, of the type that the method declares, and then it returns in no other line. A page has no such
type, and none is inferred by a composition that was not given one. -/
theorem compose_disciplined {ss : List Statement} {c : Composition} (hpage : frame.page.Made)
    (h : compose frame ss = .ok c) :
    c.body.Agrees frame.requiresValue ss.length ∧
    (∀ (i : Nat) (e : Emitted), c.body.statements[i]? = some e →
      ((e.variableName.isSome = true → e.returnType.Plain) →
        e.Disciplined frame.requiresValue i ss.length) ∧
      (e.variableName.isSome = true → ¬ e.returnType.Plain →
        e.returnType = frame.methodReturn ∧ e.Mistaken i ss.length)) ∧
    (frame.methodReturn.Plain →
      c.body.Disciplined frame.requiresValue ss.length ∧ c.returnType.Plain) ∧
    (frame.page.Offers frame.methodReturn → frame.methodReturn.Plain) := by
  refine ⟨compose_agrees hpage h, fun i e he => ?_, fun hreturn => ?_, Page.Offers.plain⟩
  · obtain ⟨htype, hdisciplined, hmistaken⟩ := compose_statement_disciplined hpage h he
    exact ⟨hdisciplined, fun hbound hnamed =>
      ⟨(htype.resolve_left hnamed).2, hmistaken hbound hnamed⟩⟩
  · have hplain : ∀ (i : Nat) (e : Emitted), c.body.statements[i]? = some e → e.returnType.Plain := by
      intro i e he
      rcases (compose_statement_disciplined hpage h he).1 with htype | ⟨-, htype⟩
      · exact htype
      · exact htype ▸ hreturn
    refine ⟨⟨compose_agrees hpage h, fun i e he => ?_⟩, ?_⟩
    · exact (compose_statement_disciplined hpage h he).2.1 fun _ => hplain i e he
    · obtain ⟨-, b, -, hb, hreturnType, -⟩ := compose_threaded h
      rw [List.getLast?_eq_getElem?] at hb
      have hlast := hplain (c.statements.length - 1) b.emitted (by simp [Composition.body, hb])
      exact Frame.returnType_plain hreturn hlast hreturnType

theorem clickLinks_disciplined : ∃ c, compose clickLinks.1 clickLinks.2 = .ok c ∧
    c.body.Disciplined false 2 := by
  obtain ⟨c, hc⟩ := clickLinks_composed
  refine ⟨c, hc, ((compose_disciplined ?_ hc).2.2.1 trivial).1⟩
  exact .declare (e := linksElement) (.empty "Links" "") rfl rfl

/-- A page object of a page. -/
def footerElement : Element :=
  { name := "footer", kind := .pageObject "my-app/footer", selector := { css := some "a" } }

/-- A method that opens the footer of a page and declares a type which is named like the word that
returns. -/
def openFooter : Frame × Statement :=
  ({ page :=
       { name := "Page",
         elements :=
           [{ name := "footer", type := { name := "Footer", package := "my.app" }, getter := "getFooter",
              selector := some footerElement.selector }] },
     method := "open", methodReturn := .simple "return" },
   { element := some "footer", action := some "open" })

/-- **Declarations can be taken for lines that return**: where a method declares a type of such a name,
its last statement binds a variable and does not return it. -/
theorem not_disciplined_of_named : ¬ ∀ (frame : Frame) (ss : List Statement) (c : Composition),
    frame.page.Made → compose frame ss = .ok c →
      c.body.Disciplined frame.requiresValue ss.length := by
  intro hall
  have hmade : openFooter.1.page.Made := .declare (e := footerElement) (.empty "Page" "") rfl rfl
  have hbound : (compose openFooter.1 [openFooter.2]).toOption.any (fun c => decide
      ((c.body.statements[0]?.map fun e => (e.variableName, e.returnType)) =
        some (some "statement0", .simple "return"))) = true := by
    decide
  obtain ⟨c, hc, hbound⟩ := exists_eq_ok hbound
  obtain ⟨e, he, hfacts⟩ := Option.map_eq_some_iff.mp (of_decide_eq_true hbound)
  obtain ⟨hvariable, htype⟩ := Prod.mk.inj hfacts
  have hplain := ((hall _ _ c hmade hc).statements 0 e he).plain (by simp [hvariable])
  rw [htype] at hplain
  exact absurd hplain (by decide)

end PageObjects
