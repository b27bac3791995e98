import PageObjects.Proofs.Compose.Emission

/-!
# Chains

A chained statement is called on the variable of the statement before it. The name of that variable is
computed from the index alone; whether the statement before binds a variable of that name depends on
its declaration, its type, its matcher and whether it is a wait. The two agree because a chain asks
the type before it to be that of an element or of a page object, and only a statement that has bound
its own variable has such a type. The name is that of `chain_operand` in the Statement Context
(specification, 4.1).

* `Site.Yields.variable_of_chainable`: a statement with a type to chain on has bound its variable.
* **`compose_chain`**: every chained statement of a composed method is called on the value of the
  statement before it, element by element exactly when that value is a list.
-/

namespace PageObjects

/-- The expression that a line evaluates. -/
def Line.value? {ε : Type} : Line ε → Option ε
  | .bind _ _ value => some value
  | .perform value => some value
  | _ => none

/-- The expressions that a statement evaluates. -/
def Built.values {ε : Type} (b : Built ε) : List ε := b.lines.filterMap Line.value?

@[simp] theorem Line.value?_map {ε δ : Type} {f : ε → δ} {line : Line ε} :
    (line.map f).value? = line.value?.map f := by
  cases line <;> rfl

theorem Built.values_map {ε δ : Type} {f : ε → δ} {b : Built ε} :
    (b.map f).values = b.values.map f := by
  simp only [Built.values, Built.map, List.filterMap_map, List.map_filterMap]
  congr 1
  funext line
  exact Line.value?_map

variable {frame : Frame} {site : Site} {s : Statement}

/-! ## Lines of a statement -/

theorem Site.Yields.values_append {ε : Type} {before : List (Line ε)} {value : ε} {resolved : ResultType}
    {b : Built ε} (h : site.Yields before value resolved b) :
    b.values = before.filterMap Line.value? ++ [value] := by
  cases h with
  | dropped ht => simp [Built.values, Line.value?]
  | bound hvalue => simp [Built.values, Line.value?]
  | judged hvalue => simp [Built.values, Line.value?]

theorem Site.Yields.values_eq {ε : Type} {value : ε} {resolved : ResultType} {b : Built ε}
    (h : site.Yields [] value resolved b) : b.values = [value] := h.values_append

theorem Frame.emit_values {ε : Type} {value : ε} {resolved required : ResultType} {binds : Bool} :
    (Frame.emit site [] value resolved required binds).values = [value] := by
  unfold Frame.emit
  split <;> rfl

/-- The line that returns evaluates nothing. -/
theorem Frame.finish_values (frame : Frame) {b : Built Expression} :
    (frame.finish b).values = b.values := by
  have hreturn : (frame.returnLine b).filterMap Line.value? = [] :=
    Frame.filterMap_returnLine fun _ => rfl
  simp only [Built.values, Frame.finish, List.filterMap_append, hreturn, List.append_nil]

/-! ## The statement before a chain -/

/-- A matcher's verdict is nothing to chain on, and a dropped value neither. -/
theorem Site.Yields.variable_of_chainable {ε : Type} {before : List (Line ε)} {value : ε}
    {resolved : ResultType} {b : Built ε} (h : site.Yields before value resolved b)
    (hchainable : b.returnType.chainable = true) :
    b.variableName = some site.variableName ∧
      .bind b.returnType site.variableName value ∈ b.lines := by
  cases h with
  | @dropped t isWait ht =>
    rcases ht with rfl | hself
    · exact absurd hchainable Bool.false_ne_true
    · cases t <;> simp_all [ResultType.chainable, ResultType.isSelf]
  | bound hvalue => exact ⟨rfl, by simp⟩
  | judged hvalue => exact absurd hchainable Bool.false_ne_true

/-- A chained statement of a document calls an action. -/
theorem Statement.action_of_chain (hchecked : s.check = .ok s) (hchain : s.chain = true) :
    s.action ≠ none := by
  intro hnone
  unfold Statement.check at hchecked
  rw [hchain, hnone] at hchecked
  cases hs : s.element with
  | none => rw [hs] at hchecked; exact absurd hchecked (by simp)
  | some element => rw [hs] at hchecked; exact absurd hchecked (by simp)

/-- What a chained statement that is no wait evaluates: one call, on the value before it. -/
theorem Frame.MethodStep.values_of_chain {count index : Nat} {before after : Trail}
    {rest : List Statement} {b : Built Expression}
    (h : frame.MethodStep count index before s rest b after) (hchecked : s.check = .ok s)
    (hchain : s.chain = true) (hwait : s.isWait = false) :
    0 < index ∧ ∃ previous call, before.previous = some previous ∧ previous.chainable = true ∧
      b.values = [.simple (.call call)] ∧ s.action = some call.action ∧
      call.receiver = Naming.chainVariable index ∧
      (call.spread = .single ↔ previous.isList = false) := by
  obtain ⟨site, hsite, hstep⟩ := h
  obtain ⟨-, hindex, hprevious, -, -, -⟩ := Frame.siteOf_eq_ok hsite
  obtain ⟨hwait', -⟩ | ⟨-, b', hstep', rfl⟩ := Frame.composeStatement_cases hstep
  · exact absurd hwait' (by simp [hwait])
  · have haction := Statement.action_of_chain hchecked hchain
    obtain ⟨more, ⟨-, hreaches, hevaluates, hyields⟩, -, -⟩ := Frame.stepAction_acts hstep'
    obtain ⟨⟨hbefore, hchainable, hpositive⟩, rfl, -⟩ := (hreaches.addresses haction).chains hchain
    cases hevaluates with
    | getter hnone _ _ => exact absurd hnone haction
    | call hname hof hoperands hcheck hinvocation hfits =>
      have hvalues := (hyields.map Expression.simple).values_eq
      rw [← frame.finish_values] at hvalues
      refine ⟨by omega, _, _, hprevious ▸ hbefore, hchainable, hvalues, hname, ?_,
        spreadOf_single_iff⟩
      rw [← hindex]
      rfl

/-- A statement that leaves a type to chain on has bound its variable. -/
theorem Frame.MethodStep.variable_of_chainable {count index : Nat} {before after : Trail}
    {rest : List Statement} {b : Built Expression} {type : ResultType}
    (h : frame.MethodStep count index before s rest b after) (htype : after.previous = some type)
    (hchainable : type.chainable = true) : b.variableName = some ("statement" ++ toString index) := by
  obtain ⟨site, hsite, hafter, lines, value, resolved, b', hyields, rfl⟩ := h.yields
  obtain ⟨-, hindex, -, hpredicate, -, -⟩ := Frame.siteOf_eq_ok hsite
  obtain rfl : type = b'.returnType := Option.some.inj (htype.symm.trans hafter)
  have hvariable := (hyields.variable_of_chainable hchainable).1
  rw [Site.variableName, hindex, hpredicate] at hvariable
  exact hvariable

/-! ## Soundness -/

/-- A statement is chained on the value of the statement before it. The value has a type that can be
chained on, a line binds it to the variable of its index, and the statement calls `action` on that
variable, element by element exactly when the value is a list. -/
structure Built.ChainedOn (previous b : Built Expression) (index : Nat) (action : Option String) :
    Prop where
  /-- The value before is held by the variable of its index. -/
  bound : previous.variableName = some ("statement" ++ toString index)
  /-- A line of the code declares that variable, with the type of the value. -/
  declared : ∃ expression, previous.returnType.simpleName ++ " " ++
    ("statement" ++ toString index) ++ " = " ++ expression ∈ previous.emitted.codeLines
  /-- The value is an element or a page object, or a list of those. -/
  chainable : previous.returnType.chainable = true
  /-- The statement's only expression is a call on the variable, spread over a list only. -/
  called : ∃ call, b.values = [.simple (.call call)] ∧ some call.action = action ∧
    call.receiver = "statement" ++ toString index ∧
    (call.spread ≠ .single ↔ previous.returnType.isList = true)

/-- **Chains are sound.** In a composed method, a chained statement that is no wait has a statement
before it, and is chained on the value of that. -/
theorem compose_chain {ss : List Statement} {c : Composition} {i : Nat}
    (h : compose frame ss = .ok c) (hs : ss[i]? = some s) (hchecked : s.check = .ok s)
    (hchain : s.chain = true) (hwait : s.isWait = false) :
    0 < i ∧ ∃ previous b, c.statements[i - 1]? = some previous ∧ c.statements[i]? = some b ∧
      previous.ChainedOn b (i - 1) s.action := by
  obtain ⟨last, -, hwalk, -⟩ := compose_threaded h
  cases i with
  | zero =>
    -- the first statement has nothing before it
    obtain ⟨before, b, after, -, hstep, -⟩ :=
      hwalk.step_at (fun _ => True) trivial (fun _ _ => trivial) hs
    exact absurd (hstep.values_of_chain hchecked hchain hwait).1 (by simp)
  | succ i =>
    have hi : i < ss.length := by
      have := (List.getElem?_eq_some_iff.mp hs).1
      omega
    obtain ⟨before, previous, middle, b, after, hprevious, hb, hfirst, hsecond⟩ :=
      hwalk.link (List.getElem?_eq_getElem hi) hs
    refine ⟨by omega, previous, b, hprevious, hb, ?_⟩
    obtain ⟨-, type, call, hmiddle, hchainable, hvalues, haction, hreceiver, hspread⟩ :=
      hsecond.values_of_chain hchecked hchain hwait
    obtain ⟨site, hsite, hleft, lines, value, resolved, b', hyields, rfl⟩ := hfirst.yields
    obtain rfl : type = (frame.finish b').returnType := by
      rw [hleft] at hmiddle
      exact (Option.some.inj hmiddle).symm
    have hname : site.variableName = "statement" ++ toString i := by
      obtain ⟨-, hindex, -, hpredicate, -, -⟩ := Frame.siteOf_eq_ok hsite
      rw [Site.variableName, hindex, hpredicate, Nat.zero_add]
      rfl
    obtain ⟨hvariable, hline⟩ := hyields.variable_of_chainable hchainable
    rw [hname] at hvariable hline
    exact {
      bound := hvariable
      declared := ⟨value.text, List.mem_map.mpr ⟨_, List.mem_append_left _ hline, rfl⟩⟩
      chainable := hchainable
      called := by
        refine ⟨call, hvalues, haction.symm, ?_, ?_⟩
        · rw [hreceiver, Naming.chainVariable, show ((0 + (i + 1) : Nat) : Int) - 1 = i by omega]
          rfl
        · rw [Ne, hspread]
          simp [Frame.finish] }

/-- The links of a page. -/
def linksElement : Element :=
  { name := "links", kind := .basic ["clickable"],
    selector := { css := some "a", returnAll := true } }

/-- A method that clicks every link of a page: the element `links` is a list. -/
def clickLinks : Frame × List Statement :=
  ({ page :=
       { name := "Links",
         elements :=
           [{ name := "links", type := ResultType.ofElement "links" ["clickable"],
              getter := "getLinksElement", isList := true,
              selector := some linksElement.selector }] },
     method := "clickAll" },
   [{ element := some "links" }, { action := some "click", chain := true }])

theorem clickLinks_composed : ∃ c, compose clickLinks.1 clickLinks.2 = .ok c := by
  have hok : (compose clickLinks.1 clickLinks.2).toOption.any (fun _ => true) = true := by decide
  obtain ⟨c, hc, -⟩ := exists_eq_ok hok
  exact ⟨c, hc⟩

theorem clickLinks_chained : ∃ c previous b, compose clickLinks.1 clickLinks.2 = .ok c ∧
    c.statements[0]? = some previous ∧ c.statements[1]? = some b ∧
    previous.ChainedOn b 0 (some "click") := by
  obtain ⟨c, hc⟩ := clickLinks_composed
  obtain ⟨-, previous, b, hprevious, hb, hchained⟩ :=
    compose_chain hc (i := 1) (s := { action := some "click", chain := true }) rfl rfl rfl rfl
  exact ⟨c, previous, b, hc, hprevious, hb, hchained⟩

end PageObjects
