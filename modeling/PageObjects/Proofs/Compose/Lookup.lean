import PageObjects.Proofs.Compose.Honoured
import PageObjects.Proofs.Compose.Scope

/-!
# Look-ups of elements

The first statement of a sequence that calls an action on an element looks the element up, and the others
call their actions on the variable that it has bound. What a sequence has looked up is carried along as a
list of variables; here it is told from the statements alone, as the index of the first one that calls an
action on the element. Waits, chains and statements without action are passed over, and a predicate
begins anew. The specification (4.2) binds a look-up the first time an element is used in a sequence.

* `Frame.callsOn`: the statements that need the variable of an element.
* `Frame.Uses`: what one statement does with the look-ups; `Frame.Acts.uses` and
  `Frame.MethodStep.uses` say that every statement does one of the two.
* `Frame.LookedUp`: the look-ups after some statements, told from these; `Frame.LookedUp.step`: every
  statement keeps them so.
* **`PageClass.ofSource_looksUp`**: in every sequence of every method of a page class, an element that
  actions are called on is looked up once, before the first of them, by its getter.
-/

namespace PageObjects

/-! ## What is looked up -/

/-- The statement calls an action on the element of a name, and neither chains nor waits. -/
def Frame.callsOn (frame : Frame) (name : String) (s : Statement) : Bool :=
  !s.isWait && !s.chain && s.action.isSome && s.element.or frame.defaultElement == some name

/-- The line that looks an element up by its getter. -/
def Getter.lookup (g : Getter) (variableName : String) : Line Expression :=
  .bind g.returnType variableName (.simple (.getter g.getterName))

/-- The statement evaluates `value` behind the lines `front`, and nothing after it. -/
def Built.EvaluatesAfter {ε : Type} (b : Built ε) (front : List (Line ε)) (value : ε) : Prop :=
  ∃ line rest, b.lines = front ++ line :: rest ∧ line.value? = some value ∧
    ∀ after ∈ rest, after.value? = none

/-- The look-ups of a statement: the lines that evaluate anything, but the one with its value. -/
def Built.lookups (b : Built Expression) : List (Line Expression) :=
  (b.lines.filter fun line => line.value?.isSome).dropLast

/-- The look-ups of an element in a sequence, each with the index of its statement. -/
def lookupsOf (inPredicate : Bool) (name : String) (bs : List (Built Expression)) :
    List (Nat × Line Expression) :=
  bs.zipIdx.flatMap fun (b, i) =>
    (b.lookups.filter fun line =>
      line.bound? == some (Naming.elementVariable name i inPredicate)).map (i, ·)

/-- In a sequence, the getter looks the element of a name up for all statements that call actions on the
element, and the first of them is the one at index `first`. -/
structure Frame.LooksUp (frame : Frame) (inPredicate : Bool) (ss : List Statement)
    (bs : List (Built Expression)) (name : String) (first : Nat) (g : Getter) : Prop where
  /-- The getter is that of the element. -/
  element : g.elementName = name
  /-- The line that looks up calls the getter, under the type with which the getter is declared. -/
  text : ∀ v, (g.lookup v).text Expression.text =
      g.returnType.simpleName ++ " " ++ v ++ " = this." ++ g.getterName ++ "()" ∧
    g.declaration = g.returnType.simpleName ++ " " ++ g.getterName ++ "()"
  /-- The element is looked up once, in the first of the statements. -/
  once : lookupsOf inPredicate name bs =
    [(first, g.lookup (Naming.elementVariable name first inPredicate))]
  /-- Every one of the statements calls its action on the variable, the first one behind the look-up. -/
  calls : ∀ (i : Nat) (s : Statement), ss[i]? = some s → frame.callsOn name s = true →
    ∃ (b : Built Expression) (call : Call), bs[i]? = some b ∧ b.EvaluatesAfter
      (if i = first then [g.lookup (Naming.elementVariable name first inPredicate)] else [])
      (.simple (.call call)) ∧
    call.receiver = Naming.elementVariable name first inPredicate ∧ s.action = some call.action

/-- In a sequence, every element that actions are called on is looked up by one of the getters. What
stands for the page object and for the document is no element. -/
def Frame.LooksUpIn (frame : Frame) (getters : List Getter) (inPredicate : Bool)
    (ss : List Statement) (bs : List (Built Expression)) : Prop :=
  ∀ (name : String) (first : Nat), name ≠ "self" → name ≠ "document" →
    ss.findIdx? (frame.callsOn name) = some first →
      ∃ g ∈ getters, frame.LooksUp inPredicate ss bs name first g

/-- In the sequence of a composed method, and in the predicate of each wait on its own, every element
that actions are called on is looked up by one of the getters. -/
structure Composition.LooksUp (c : Composition) (getters : List Getter) (frame : Frame)
    (ss : List Statement) : Prop where
  own : frame.LooksUpIn getters false ss c.statements
  waits : ∀ (i : Nat) (s : Statement), ss[i]? = some s → s.isWait = true →
    ∃ (b : Built Expression) (inner : List (Built Simple)) (result : String),
      c.statements[i]? = some b ∧ b.values = [.wait (inner.flatMap Built.lines) result] ∧
      inner.length = s.inner.length ∧
      frame.LooksUpIn getters true s.inner (inner.map (Built.map .simple))

variable {frame : Frame} {site : Site} {s : Statement} {lookups : Lookups}

/-! ## Lines -/

theorem Getter.lookup_text (g : Getter) (v : String) : (g.lookup v).text Expression.text =
    g.returnType.simpleName ++ " " ++ v ++ " = this." ++ g.getterName ++ "()" := by
  have hline : (g.lookup v).text Expression.text =
      g.returnType.simpleName ++ " " ++ v ++ " = " ++ ("this." ++ g.getterName ++ "()") := rfl
  have hcall : " = this." = " = " ++ "this." := by decide
  rw [hline, hcall]
  simp only [String.append_assoc]

namespace Built.EvaluatesAfter

theorem map {ε δ : Type} {b : Built ε} {front : List (Line ε)} {value : ε} (f : ε → δ)
    (h : b.EvaluatesAfter front value) :
    (b.map f).EvaluatesAfter (front.map (Line.map f)) (f value) := by
  obtain ⟨line, rest, hlines, hvalue, hrest⟩ := h
  refine ⟨line.map f, rest.map (Line.map f), ?_, by rw [Line.value?_map, hvalue]; rfl, ?_⟩
  · rw [Built.map, hlines, List.map_append, List.map_cons]
  · intro after hafter
    obtain ⟨after', hafter', rfl⟩ := List.mem_map.mp hafter
    rw [Line.value?_map, hrest after' hafter']
    rfl

/-- The line that returns evaluates nothing. -/
theorem finish {b : Built Expression} {front : List (Line Expression)} {value : Expression}
    (h : b.EvaluatesAfter front value) : (frame.finish b).EvaluatesAfter front value := by
  obtain ⟨line, rest, hlines, hvalue, hrest⟩ := h
  refine ⟨line, rest ++ frame.returnLine b, ?_, hvalue, ?_⟩
  · rw [Frame.finish, hlines, List.append_assoc, List.cons_append]
  · intro after hafter
    rcases List.mem_append.mp hafter with hbefore | hreturn
    · exact hrest after hbefore
    · obtain ⟨v, rfl⟩ := Frame.mem_returnLine hreturn
      rfl

/-- What stands in front of the value are the look-ups, if it evaluates something in every line. -/
theorem lookups_eq {b : Built Expression} {front : List (Line Expression)} {value : Expression}
    (hfront : ∀ line ∈ front, line.value?.isSome = true) (h : b.EvaluatesAfter front value) :
    b.lookups = front := by
  obtain ⟨line, rest, hlines, hvalue, hrest⟩ := h
  have hnone : rest.filter (fun line => line.value?.isSome) = [] := by
    rw [List.filter_eq_nil_iff]
    intro after hafter
    simp [hrest after hafter]
  rw [Built.lookups, hlines, List.filter_append, List.filter_eq_self.mpr hfront,
    List.filter_cons_of_pos (by simp [hvalue]), hnone, List.dropLast_concat]

end Built.EvaluatesAfter

theorem Site.Yields.evaluatesAfter {ε : Type} {before : List (Line ε)} {value : ε}
    {resolved : ResultType} {b : Built ε} (h : site.Yields before value resolved b) :
    b.EvaluatesAfter before value := by
  cases h with
  | dropped ht => exact ⟨_, [], rfl, rfl, by simp⟩
  | bound hvalue => exact ⟨_, [], rfl, rfl, by simp⟩
  | judged hvalue => exact ⟨_, _, List.append_assoc _ _ _, rfl, by simp [Line.value?]⟩

/-! ## Variables -/

theorem Lookups.lookup_bind_self {name variableName : String} :
    (lookups.bind name variableName).lookup name =
      some ((lookups.lookup name).getD variableName) := by
  unfold Lookups.bind
  split
  · rename_i hknown
    obtain ⟨v, hv⟩ := Option.isSome_iff_exists.mp hknown
    rw [hv]
    rfl
  · rename_i hfree
    rw [List.lookup_append, Option.not_isSome_iff_eq_none.mp hfree]
    simp

theorem Lookups.lookup_bind_of_ne {name other variableName : String} (hne : name ≠ other) :
    (lookups.bind other variableName).lookup name = lookups.lookup name := by
  unfold Lookups.bind
  split
  · rfl
  · have hother : [(other, variableName)].lookup name = none := by
      rw [List.lookup_eq_none_iff]
      simpa using hne
    rw [List.lookup_append, hother, Option.or_none]

/-! ## Statements -/

/-- What a statement does with the look-ups of its sequence: it calls an action on no element, or it
calls one on the variable of an element, which it looks up if no statement before it has. -/
inductive Frame.Uses (frame : Frame) (inPredicate : Bool) (index : Nat) (before : Lookups)
    (s : Statement) : Built Expression → Lookups → Prop
  | nothing {b : Built Expression} {value : Expression}
      (hcalls : ∀ name, frame.callsOn name s = true → name = "self" ∨ name = "document")
      (hvalue : b.EvaluatesAfter [] value) : Uses frame inPredicate index before s b before
  | element {b : Built Expression} {name variableName action : String} {element : PageElement}
      {operands : List Operand} {spread : Spread}
      (hcalls : ∀ other, frame.callsOn other s = true ↔ name = other)
      (hfind : frame.page.find? name = some element)
      (hvariable : variableName =
        (before.lookup name).getD (Naming.elementVariable name index inPredicate))
      (hvalue : b.EvaluatesAfter
        (if before.lookup name = none then [(Getter.ofElement element).lookup variableName] else [])
        (.simple (.call { receiver := variableName, action, operands, spread })))
      (haction : s.action = some action) :
      Uses frame inPredicate index before s b (before.bind name variableName)

theorem Frame.callsOn_iff {name : String} : frame.callsOn name s = true ↔ s.isWait = false ∧
    s.chain = false ∧ s.action ≠ none ∧ s.element.or frame.defaultElement = some name := by
  simp [callsOn, and_assoc, Option.isSome_iff_ne_none]

/-- **A composed action** uses the look-ups before it. -/
theorem Frame.Acts.uses {index : Nat} {b : Built Simple} {after : Lookups} {ps : List Parameter}
    (hindex : site.index = index) (hwait : s.isWait = false)
    (h : frame.Acts site lookups s b after ps) :
    frame.Uses site.inPredicate index lookups s (b.map .simple) after := by
  obtain ⟨-, hreaches, hevaluates, hyields⟩ := h
  have hvalue := hyields.evaluatesAfter.map Expression.simple
  cases hreaches with
  | nothing haction =>
    exact .nothing (fun name hcalls => absurd haction (callsOn_iff.mp hcalls).2.2.1) hvalue
  | receiver haction haddresses =>
    cases haddresses with
    | chain hchain hchains =>
      refine .nothing (fun name hcalls => ?_) hvalue
      exact absurd (callsOn_iff.mp hcalls).2.1 (by simp [hchain])
    | element hchain hfinds =>
      have hcalls : ∀ {name : String}, s.element.or frame.defaultElement = some name →
          ∀ other, frame.callsOn other s = true ↔ name = other := by
        intro name hname other
        rw [callsOn_iff, hname]
        simp [hwait, hchain, haction]
      cases hevaluates with
      | getter hnone helement hfits => exact absurd hnone haction
      | @call action _ operands _ invocation hname hof hoperands hcheck hinvocation hfits =>
        cases hfinds with
        | page hpage =>
          refine .nothing (fun name hcallsOn => Or.inl ?_) hvalue
          simpa [(callsOn_iff.mp hcallsOn).2.2.2] using hpage
        | document hdocument =>
          refine .nothing (fun name hcallsOn => Or.inr ?_) hvalue
          simpa [(callsOn_iff.mp hcallsOn).2.2.2] using hdocument
        | @known name variableName element hon helement hbound =>
          have hbind : lookups.bind name variableName = lookups := by
            simp [Lookups.bind, hbound]
          have huses : frame.Uses site.inPredicate index lookups s (b.map .simple)
              (lookups.bind name variableName) :=
            .element (hcalls hon) helement (by rw [hbound, Option.getD_some])
              (by simpa [hbound, Receiver.code] using hvalue) hname
          rwa [hbind] at huses
        | @fresh name element hon helement hfree =>
          have hvariable : site.elementVariable name = (lookups.lookup name).getD
              (Naming.elementVariable name index site.inPredicate) := by
            rw [hfree, Site.elementVariable, hindex]
            rfl
          have hlookup : (b.map .simple).EvaluatesAfter
              (if lookups.lookup name = none then
                [(Getter.ofElement element).lookup (site.elementVariable name)] else [])
              (.simple (.call ⟨site.elementVariable name, action, operands, (spreadOf site
                (.value (site.elementVariable name) name element.type element.isList false)
                invocation).1⟩)) := by
            rw [if_pos hfree]
            exact hvalue
          exact .element (hcalls hon) helement hvariable hlookup hname

/-- **A step of a method** uses the look-ups before it. -/
theorem Frame.MethodStep.uses {count index : Nat} {before after : Trail} {rest : List Statement}
    {b : Built Expression} (h : frame.MethodStep count index before s rest b after) :
    frame.Uses false index before.lookups s b after.lookups := by
  obtain ⟨site, hsite, hstep⟩ := h
  obtain ⟨-, hindex, -, hpredicate, -, -⟩ := Frame.siteOf_eq_ok hsite
  obtain ⟨hwait, b', hwaits, rfl⟩ | ⟨hwait, b', hstep', rfl⟩ := Frame.composeStatement_cases hstep
  · cases hwaits with
    | mk hinner hcomposed hyields =>
      refine .nothing (fun name hcalls => ?_) hyields.evaluatesAfter.finish
      exact absurd (callsOn_iff.mp hcalls).1 (by simp [hwait])
  · obtain ⟨more, hacts, -, -⟩ := Frame.stepAction_acts hstep'
    have huses := hacts.uses hindex hwait
    rw [hpredicate] at huses
    generalize after.lookups = left at huses
    cases huses with
    | nothing hcalls hvalue => exact .nothing hcalls hvalue.finish
    | element hcalls hfind hvariable hvalue haction =>
      exact .element hcalls hfind hvariable hvalue.finish haction

/-- **A step of a predicate** uses the look-ups of its own sequence. -/
theorem Frame.PredicateStep.uses {count index : Nat} {before after : Trail} {rest : List Statement}
    {b : Built Simple} (h : frame.PredicateStep count index before s rest b after) :
    frame.Uses true index before.lookups s (b.map .simple) after.lookups := by
  have hwait : s.isWait = false := h.choose_spec.2.1
  obtain ⟨site, more, hsite, hacts, -⟩ := h.acts
  obtain ⟨-, hindex, -, hpredicate, -, -⟩ := Frame.siteOf_eq_ok hsite
  rw [← hpredicate]
  exact hacts.uses hindex hwait

/-! ## Sequences -/

/-- The look-up of an element by the statement at an index. -/
def Frame.lookupAt (frame : Frame) (inPredicate : Bool) (name : String) (index : Nat) :
    Option (Nat × Line Expression) :=
  (frame.page.find? name).map fun element =>
    (index, (Getter.ofElement element).lookup (Naming.elementVariable name index inPredicate))

/-- The look-ups after some statements, as far as they are of the element of a name: the element has
the variable of the first statement that calls an action on it, and is looked up there and nowhere
else. -/
structure Frame.LookedUp (frame : Frame) (inPredicate : Bool) (name : String) (done : List Statement)
    (made : List (Built Expression)) (lookups : Lookups) : Prop where
  length : made.length = done.length
  variableName : lookups.lookup name = (done.findIdx? (frame.callsOn name)).map fun (i : Nat) =>
    Naming.elementVariable name i inPredicate
  once : lookupsOf inPredicate name made =
    ((done.findIdx? (frame.callsOn name)).bind (frame.lookupAt inPredicate name)).toList

theorem lookupsOf_concat {inPredicate : Bool} {name : String} {bs : List (Built Expression)}
    {b : Built Expression} : lookupsOf inPredicate name (bs ++ [b]) = lookupsOf inPredicate name bs ++
      (b.lookups.filter fun line => line.bound? ==
        some (Naming.elementVariable name bs.length inPredicate)).map (bs.length, ·) := by
  simp [lookupsOf, List.zipIdx_append]

theorem findIdx?_concat {α : Type} {p : α → Bool} (xs : List α) (x : α) :
    (xs ++ [x]).findIdx? p = (xs.findIdx? p).or (if p x = true then some xs.length else none) := by
  rw [List.findIdx?_append, List.findIdx?_singleton]
  split <;> simp

namespace Frame.LookedUp

variable {inPredicate : Bool} {name : String} {done : List Statement}
  {made : List (Built Expression)} {after : Lookups} {b : Built Expression}

theorem nil : frame.LookedUp inPredicate name [] [] [] := ⟨rfl, rfl, rfl⟩

/-- A statement that calls nothing on the element, and looks up other elements only, leaves it as it
is. -/
theorem pass (h : frame.LookedUp inPredicate name done made lookups)
    (hcalls : frame.callsOn name s = false) (hafter : after.lookup name = lookups.lookup name)
    (hlookups : ∀ line ∈ b.lookups,
      line.bound? ≠ some (Naming.elementVariable name made.length inPredicate)) :
    frame.LookedUp inPredicate name (done ++ [s]) (made ++ [b]) after := by
  have hindex : (done ++ [s]).findIdx? (frame.callsOn name) = done.findIdx? (frame.callsOn name) := by
    rw [findIdx?_concat, hcalls]
    simp
  refine ⟨by simp [h.length], by rw [hindex, hafter, h.variableName], ?_⟩
  rw [hindex, lookupsOf_concat, h.once, List.filter_eq_nil_iff.mpr (by simpa using hlookups),
    List.map_nil, List.append_nil]

/-- **Every statement keeps the account of the look-ups.** -/
theorem step (hself : name ≠ "self") (hdocument : name ≠ "document")
    (h : frame.LookedUp inPredicate name done made lookups)
    (huses : frame.Uses inPredicate done.length lookups s b after) :
    frame.LookedUp inPredicate name (done ++ [s]) (made ++ [b]) after := by
  cases huses with
  | nothing hcalls hvalue =>
    refine h.pass ?_ rfl (by simp [hvalue.lookups_eq (by simp)])
    rw [Bool.eq_false_iff]
    intro hcallsOn
    rcases hcalls name hcallsOn with hname | hname
    · exact hself hname
    · exact hdocument hname
  | @element other variableName action element operands spread hcalls hfind hvariable hvalue haction =>
    have hfront : ∀ line ∈ (if lookups.lookup other = none then
        [(Getter.ofElement element).lookup variableName] else []), line.value?.isSome = true := by
      intro line hline
      split at hline
      · exact List.mem_singleton.mp hline ▸ rfl
      · exact absurd hline (by simp)
    have hlookups := hvalue.lookups_eq hfront
    by_cases hname : other = name
    · subst hname
      have hcallsOn : frame.callsOn other s = true := (hcalls other).mpr rfl
      cases hknown : lookups.lookup other with
      | some known =>
        -- the element has its variable already
        rw [hknown, if_neg (by simp)] at hlookups
        have hbefore := h.variableName
        rw [hknown] at hbefore
        obtain ⟨first, hfirst, hfirst'⟩ := Option.map_eq_some_iff.mp hbefore.symm
        have hindex : (done ++ [s]).findIdx? (frame.callsOn other) = some first := by
          rw [findIdx?_concat, hfirst]
          rfl
        refine ⟨by simp [h.length], ?_, ?_⟩
        · rw [hindex, Lookups.lookup_bind_self, hknown, Option.map_some, hfirst']
          rfl
        · rw [hindex, lookupsOf_concat, hlookups, h.once, hfirst]
          simp
      | none =>
        -- the statement is the first to need it
        rw [hknown, if_pos rfl] at hlookups
        rw [hknown, Option.getD_none] at hvariable
        have hbefore := h.variableName
        rw [hknown, eq_comm, Option.map_eq_none_iff] at hbefore
        have hindex : (done ++ [s]).findIdx? (frame.callsOn other) = some done.length := by
          rw [findIdx?_concat, hbefore, if_pos hcallsOn]
          rfl
        refine ⟨by simp [h.length], ?_, ?_⟩
        · rw [hindex, Lookups.lookup_bind_self, hknown, hvariable]
          rfl
        · rw [hindex, lookupsOf_concat, hlookups, h.once, hbefore, h.length, hvariable]
          simp [Frame.lookupAt, hfind, Getter.lookup, Line.bound?]
    · refine h.pass ?_ (Lookups.lookup_bind_of_ne (Ne.symm hname)) ?_
      · rw [Bool.eq_false_iff]
        exact fun hcallsOn => hname ((hcalls name).mp hcallsOn)
      · rw [hlookups]
        intro line hline
        split at hline
        · rename_i hfree
          obtain rfl := List.mem_singleton.mp hline
          rw [hfree, Option.getD_none] at hvariable
          rw [h.length, hvariable]
          intro hbound
          exact hname (Declaration.elementVariable_inj (Option.some.inj hbound))
        · exact absurd hline (by simp)

end Frame.LookedUp

/-- A statement that calls an action on an element calls it on the variable of the first one that does,
and looks the element up if it is that one. -/
theorem Frame.Uses.of_callsOn {inPredicate : Bool} {name : String} {i first : Nat} {after : Lookups}
    {b : Built Expression} (hself : name ≠ "self") (hdocument : name ≠ "document")
    (hcallsOn : frame.callsOn name s = true) (hle : first ≤ i)
    (hvariable : lookups.lookup name =
      if first < i then some (Naming.elementVariable name first inPredicate) else none)
    (huses : frame.Uses inPredicate i lookups s b after) :
    ∃ (call : Call) (element : PageElement), frame.page.find? name = some element ∧
      b.EvaluatesAfter (if i = first then [(Getter.ofElement element).lookup
        (Naming.elementVariable name first inPredicate)] else []) (.simple (.call call)) ∧
      call.receiver = Naming.elementVariable name first inPredicate ∧
      s.action = some call.action := by
  cases huses with
  | nothing hcalls hvalue =>
    rcases hcalls name hcallsOn with hname | hname
    · exact absurd hname hself
    · exact absurd hname hdocument
  | @element other variableName action element operands spread hcalls hfind hv hvalue haction =>
    obtain rfl := (hcalls name).mp hcallsOn
    refine ⟨⟨variableName, action, operands, spread⟩, element, hfind, ?_⟩
    rcases Nat.eq_or_lt_of_le hle with rfl | hlt
    · -- nothing in front of the statement has looked the element up
      rw [if_neg (Nat.lt_irrefl first)] at hvariable
      rw [hvariable, Option.getD_none] at hv
      subst hv
      rw [if_pos hvariable] at hvalue
      rw [if_pos rfl]
      exact ⟨hvalue, rfl, haction⟩
    · -- the first of the statements has
      rw [if_pos hlt] at hvariable
      rw [hvariable, Option.getD_some] at hv
      subst hv
      rw [if_neg (by simp [hvariable])] at hvalue
      rw [if_neg (by omega)]
      exact ⟨hvalue, rfl, haction⟩

/-- **A sequence whose statements use the look-ups** looks up every element that it calls actions on. -/
theorem Frame.looksUpIn_of_uses {inPredicate : Bool} {ss : List Statement}
    {bs : List (Built Expression)} {trail last : Trail} (hempty : trail.lookups = [])
    (h : Threaded (fun i before s _ b after =>
      frame.Uses inPredicate i before.lookups s b after.lookups) 0 trail ss bs last) :
    frame.LooksUpIn (frame.page.elements.map Getter.ofElement) inPredicate ss bs := by
  intro name first hself hdocument hfirst
  have hinit : frame.LookedUp inPredicate name [] [] trail.lookups := by
    rw [hempty]
    exact .nil
  have hall := h.history (fun done made trail =>
      frame.LookedUp inPredicate name done made trail.lookups)
    (fun hbefore huses => hbefore.step hself hdocument huses) hinit
  obtain ⟨hbound, hcalled, hleast⟩ := List.findIdx?_eq_some_iff_getElem.mp hfirst
  have husing : ∀ (i : Nat) (s : Statement), ss[i]? = some s → frame.callsOn name s = true →
      ∃ (b : Built Expression) (call : Call) (element : PageElement), bs[i]? = some b ∧
        frame.page.find? name = some element ∧
        b.EvaluatesAfter (if i = first then [(Getter.ofElement element).lookup
          (Naming.elementVariable name first inPredicate)] else []) (.simple (.call call)) ∧
        call.receiver = Naming.elementVariable name first inPredicate ∧
        s.action = some call.action := by
    intro i s hs hcallsOn
    obtain ⟨before, b, after, hb, huses, hbefore⟩ := h.step_after (fun done made trail =>
        frame.LookedUp inPredicate name done made trail.lookups)
      (fun hbefore huses => hbefore.step hself hdocument huses) hinit hs
    have hle : first ≤ i := by
      have hnot : ¬ i < first := fun hlt => hleast i hlt (by
        rwa [(List.getElem?_eq_some_iff.mp hs).2])
      omega
    have hvariable := hbefore.variableName
    rw [List.findIdx?_take, hfirst] at hvariable
    obtain ⟨call, element, hcall⟩ := huses.of_callsOn hself hdocument hcallsOn hle (by
      rw [hvariable]
      split <;> simp_all [Option.guard])
    exact ⟨b, call, element, hb, hcall⟩
  obtain ⟨b, call, element, hb, hfind, -⟩ :=
    husing first _ (List.getElem?_eq_getElem hbound) hcalled
  refine ⟨Getter.ofElement element, List.mem_map_of_mem (List.mem_of_find?_eq_some hfind), {
    element := Page.name_of_find? hfind
    text := fun v => ⟨Getter.lookup_text _ v, rfl⟩
    once := ?_
    calls := ?_ }⟩
  · rw [hall.once, hfirst, Option.bind_some, Frame.lookupAt, hfind]
    rfl
  · intro i s hs hcallsOn
    obtain ⟨b, call, element', hb, hfind', hcall⟩ := husing i s hs hcallsOn
    obtain rfl : element = element' := Option.some.inj (hfind.symm.trans hfind')
    exact ⟨b, call, hb, hcall⟩

/-! ## Methods -/

/-- **Elements are looked up once**, in the sequence of a composed method and in every predicate. -/
theorem compose_looksUp {ss : List Statement} {c : Composition} (h : compose frame ss = .ok c) :
    c.LooksUp (frame.page.elements.map Getter.ofElement) frame ss where
  own := by
    obtain ⟨last, -, hwalk, -⟩ := compose_threaded h
    exact Frame.looksUpIn_of_uses rfl (hwalk.imp fun hstep => hstep.uses)
  waits i s hs hwait := by
    obtain ⟨site, previous, inner, ps, more, required, binds, -, -, hpredicate, hb⟩ :=
      compose_wait h hs hwait
    obtain ⟨last, hwalk, -⟩ := Frame.composePredicate_threaded hpredicate
    refine ⟨_, inner, predicateResult inner, hb, ?_, hwalk.length_eq, ?_⟩
    · rw [Frame.finish_values]
      exact Frame.emit_values
    · exact Frame.looksUpIn_of_uses rfl (hwalk.map (Built.map Expression.simple) fun hstep =>
        hstep.uses)

/-- **In every method of a page class**, and in the predicate of each of its waits, an element that
actions are called on is looked up once, before the first of them, by the getter that the class declares
for it. No element goes by the names of the page object and of the document. -/
theorem PageClass.ofSource_looksUp {source : Source} {name package : String} {pc : PageClass}
    (h : ofSource source name package = .ok pc) :
    (∀ g ∈ pc.elements, g.elementName ≠ "self" ∧ g.elementName ≠ "document") ∧
    ∀ m ∈ pc.allMethods, (∃ frame ss c, Composes source name package m frame ss c) ∧
      ∀ frame ss c, Composes source name package m frame ss c →
        m.body = c.body ∧ c.LooksUp pc.elements frame ss := by
  obtain ⟨d, page, methods, beforeLoad, hload, hpage, -, hpc⟩ := ofSource_eq_ok h
  refine ⟨?_, fun m hm => ⟨ofSource_composes h m hm, ?_⟩⟩
  · intro g hg
    rw [hpc] at hg
    obtain ⟨element, helement, rfl⟩ := List.mem_map.mp hg
    exact (pageOf_made (Document.load_kept hload) hpage).unreserved element helement
  · intro frame ss c hcomposes
    obtain ⟨-, -, -, hcompose, ⟨methodName, description, isPublic, rfl⟩, -⟩ := hcomposes.made
    refine ⟨rfl, ?_⟩
    rw [hcomposes.elements h]
    exact compose_looksUp hcompose

/-- A page object with two buttons. It waits for its root before loading; its method clicks the first
button around a wait that reads the same button, evaluates to the list of the others, and clicks
each. -/
def buttonsSource : Source :=
  let element (name : String) (all : Bool) : Json := .object
    [("name", .text name), ("type", .list [.text "clickable"]),
      ("selector", .object [("css", .text "b"), ("returnAll", .bool all)])]
  let call (name action : String) : Json := .object
    [("element", .text name), ("apply", .text action)]
  .value (.object
    [("elements", .list [element "first" false, element "others" true]),
    ("beforeLoad", .list [.object [("apply", .text "isPresent")],
      .object [("apply", .text "isVisible")]]),
    ("methods", .list [.object [("name", .text "clickAll"), ("compose", .list
      [call "first" "click",
      .object [("apply", .text "waitFor"), ("predicate", .list
        [call "first" "isVisible", call "first" "isEnabled"])],
      call "first" "click",
      .object [("element", .text "others")],
      .object [("apply", .text "click"), ("chain", .bool true)]])]])])

theorem buttonsSource_looksUp : ∃ pc, PageClass.ofSource buttonsSource "Page" "" = .ok pc ∧
    (pc.allMethods.map fun m => m.body.codeLines.take 2) =
      [["FirstElement first0 = this.getFirstElement()", "first0.click()"],
        ["RootElement root0 = this.getRootElement()", "Boolean statement0 = root0.isPresent()"]] ∧
    (∀ g ∈ pc.elements, g.elementName ≠ "self" ∧ g.elementName ≠ "document") ∧
    ∀ m ∈ pc.allMethods, (∃ frame ss c, PageClass.Composes buttonsSource "Page" "" m frame ss c) ∧
      ∀ frame ss c, PageClass.Composes buttonsSource "Page" "" m frame ss c →
        m.body = c.body ∧ c.LooksUp pc.elements frame ss := by
  have hok : (PageClass.ofSource buttonsSource "Page" "").toOption.any (fun pc =>
      decide ((pc.allMethods.map fun m => m.body.codeLines.take 2) =
        [["FirstElement first0 = this.getFirstElement()", "first0.click()"],
          ["RootElement root0 = this.getRootElement()", "Boolean statement0 = root0.isPresent()"]])) =
      true := by decide
  obtain ⟨pc, hpc, hlines⟩ := exists_eq_ok hok
  exact ⟨pc, hpc, of_decide_eq_true hlines, PageClass.ofSource_looksUp hpc⟩

end PageObjects
