import PageObjects.Proofs.Compose.Last

/-!
# Inherited types

A last statement that declares no type has to be of the type that its method declares. To write that
declaration on the statement as well changes nothing, with one exception. A declaration says two
things: the type of a value, and whether all matches are asked for, that is, whether the lists of a
call on each value of a list are joined. The method hands down only the first of the two. So where the
method declares a list, and its last statement is called on each value of a list without catalog, the
statement that declares the list joins the lists of its invocations, and the one that inherits the
declaration makes a list of lists, which is not of the type of the method. What a method hands down is
`declared_return_type` of the Statement Context (specification, 4.1); whether lists are joined is
`is_flat_map`.

* `Frame.JoinsLists`: the exception.
* `Frame.composeUnder_call`: a call without catalog, under a type that it has to have.
* **`compose_inherited`**: what comes of the two methods, in every other case and in the exception.
* `not_compose_inherited`: the two do differ.
-/

namespace PageObjects

variable {frame : Frame} {site : Site} {s : Statement}

/-! ## Lists of lists -/

/-- The declaration of the method, handed down to the statement after a value of the type `previous`,
would join lists: it declares a list, and the statement is an action without matcher that is called on
each value of a list without catalog. -/
structure Frame.JoinsLists (frame : Frame) (previous : Option ResultType) (s : Statement) : Prop where
  list : frame.methodReturn.isList = true
  wait : s.isWait = false
  action : s.action ≠ none
  matcher : s.matcher = none
  each : ∃ type all, frame.calledOn previous s = some (.list (.named type) all) ∧
    type.isBasicElement = false

/-- A declared list is a list of values of a named type, and asks for all matches. -/
theorem ResultType.resolve_isList {own t : ResultType} {keyword? : Option String} {all : Bool}
    (hown : own.isList = false) (h : resolve own keyword? all = .ok t) (hlist : t.isList = true) :
    all = true ∧ ∃ type, t = .list (.named type) true := by
  unfold resolve at h
  obtain ⟨resolved, hresolved, h⟩ := bind_eq_ok.mp h
  have hplain : resolved.isList = false := by
    cases keyword? with
    | none =>
      obtain rfl := Except.ok.inj hresolved
      rfl
    | some keyword =>
      simp only [ofKeyword?, ofKeyword] at hresolved
      split at hresolved
      · obtain rfl := Except.ok.inj hresolved
        rfl
      · split at hresolved
        · obtain rfl := Except.ok.inj hresolved
          exact hown
        · split at hresolved
          · rename_i primitive hprimitive
            obtain rfl := Except.ok.inj hresolved
            have hentries : ∀ entry ∈ primitives, entry.2.isList = false := by decide
            exact hentries (keyword, primitive) (mem_of_lookup hprimitive)
          · split at hresolved
            · obtain ⟨named, -, rfl⟩ := map_eq_ok.mp hresolved
              rfl
            · exact absurd hresolved (by simp)
  split at h
  · obtain rfl := Except.ok.inj h
    exact ⟨rfl, _, rfl⟩
  · exact absurd h (by simp)
  · obtain rfl := Except.ok.inj h
    exact absurd hlist (by simp [hplain])

/-- No type is that of the lists of it. -/
theorem ResultType.same_list {t : ResultType} {all : Bool} : t.same (.list t all) = false := by
  induction t generalizing all with
  | list element many ih => exact ih
  | _ => rfl

/-- A statement that is called on a list without catalog has each of its values as receiver. -/
theorem Frame.receiver_of_calledOn {lookups after : Lookups} {lines : List (Line Simple)}
    {r : Receiver} {type : NamedType} {all : Bool}
    (hon : frame.calledOn site.previous s = some (.list (.named type) all))
    (h : frame.receiver site lookups s = .ok (r, lines, after)) :
    ∃ variableName name isChain, r = .value variableName name type true isChain ∧
      (isChain = true → site.followsList = true) := by
  unfold Frame.receiver at h
  split at h
  · rename_i hchain
    obtain ⟨r', hreceiver, he⟩ := map_eq_ok.mp h
    obtain ⟨rfl, -, -⟩ := by simpa using he
    obtain ⟨previous, type', hprevious, htype, -, -, rfl⟩ := Frame.chainReceiver_eq_ok hreceiver
    rw [Frame.calledOn, if_pos hchain, hprevious] at hon
    obtain rfl := Option.some.inj hon
    obtain rfl : type' = type := by simpa [eq_comm] using htype
    exact ⟨_, _, true, rfl, fun _ => by simp [Site.followsList, hprevious, ResultType.isList]⟩
  · rename_i hchain
    unfold Frame.elementReceiver at h
    unfold Frame.calledOn at hon
    rw [if_neg hchain] at hon
    split at h
    · rename_i hname
      exact absurd hon (by simp [hname])
    · rename_i name hname
      simp only [hname] at hon
      split at h
      · rename_i hself
        exact absurd hon (by simp [hself])
      · split at h
        · rename_i hdocument
          exact absurd hon (by simp [hdocument])
        · rename_i hself hdocument
          split at h
          · exact absurd h (by simp)
          · rename_i element hfind
            simp only [hself, hdocument, Bool.or_self, Bool.false_eq_true, if_false,
              Frame.findElement_eq_ok.mp hfind, Option.map_some, Option.some.injEq,
              PageElement.returnType] at hon
            have helement : element.type = type ∧ element.isList = true := by
              split at hon
              · rename_i hlist
                exact ⟨ResultType.named.inj (ResultType.list.inj hon).1, hlist⟩
              · exact absurd hon (by simp)
            obtain ⟨rfl, hlist⟩ := helement
            split at h
            · rename_i variableName hbound
              obtain ⟨rfl, -, -⟩ := by simpa using h
              exact ⟨variableName, name, false, by rw [hlist], by simp⟩
            · obtain ⟨rfl, -, -⟩ := by simpa using h
              exact ⟨_, name, false, by rw [hlist], by simp⟩

/-! ## Calls without catalog -/

theorem ResultType.holdsValue_of_isList {t : ResultType} (h : t.isList = true) :
    t.isUnset = false ∧ t.discards = false ∧ t.isVoid = false := by
  cases t <;> simp_all [isList, isUnset, discards, isVoid, isSelf]

/-- A call without catalog is of the type that it has to have, put together as the receiver asks
for. -/
theorem Frame.expression_of_actionOf {name : String} {r : Receiver} {required : ResultType}
    (haction : s.action = some name) (hof : frame.actionOf site name r = .ok none)
    (hrequired : required.isList = true) :
    frame.expression site s r required = (frame.operands site [] s.args).map fun found =>
      (.call { receiver := r.code, action := name, operands := found.1,
               spread := (spreadOf site r required).1 },
        (spreadOf site r required).2, found.2) := by
  obtain ⟨hset, hkept, -⟩ := ResultType.holdsValue_of_isList hrequired
  have hinvocation : frame.invocationType site name required none = .ok required := by
    simp [invocationType, hset, hkept]
  unfold expression
  simp only [haction, hof, ok_bind]
  cases frame.operands site [] s.args with
  | error e => rfl
  | ok found =>
    simp only [ok_bind, checkOperands, hinvocation]
    rfl

/-- The operands of a statement, and the parameters of the method with those of the statement. -/
def Frame.given (frame : Frame) (site : Site) (parameters : List Parameter) (s : Statement) :
    Except ComposeError (List Operand × List Parameter) := do
  let (operands, more) ← frame.operands site [] s.args
  let parameters ← frame.collect site parameters more
  return (operands, parameters)

/-- The statement of a call that is spread over its receiver, and yields `t`. -/
def Site.called (site : Site) (lines : List (Line Simple)) (call : Call) (t : ResultType) :
    Built Expression :=
  (Frame.emit site lines (.call call) t t true).map .simple

/-- **A call without catalog, under a list that it has to be.** Nothing is checked but its operands,
and its value is bound. -/
theorem Frame.composeUnder_call {name : String} {r : Receiver} {lines : List (Line Simple)}
    {after : Lookups} {required t : ResultType} {spread : Spread} {trail : Trail} {chained : Bool}
    (hplace : site.inPredicate = false) (hwait : s.isWait = false) (hmatcher : s.matcher = none)
    (haction : s.action = some name)
    (hreceiver : frame.receiver site trail.lookups s = .ok (r, lines, after))
    (hof : frame.actionOf site name r = .ok none) (hrequired : required.isList = true)
    (hspread : spreadOf site r required = (spread, t)) (ht : t.isList = true) :
    frame.composeUnder site required trail s chained =
      (frame.given site trail.parameters s).map fun found =>
        (frame.finish (site.called lines
            { receiver := r.code, action := name, operands := found.1, spread } t),
          { lookups := after, previous := some t, parameters := found.2 }) := by
  have hreach : frame.reach site trail.lookups s = .ok (r, lines, after) := by
    rw [reach, haction]
    exact hreceiver
  obtain ⟨-, hkept, -⟩ := ResultType.holdsValue_of_isList hrequired
  obtain ⟨-, -, hvalue⟩ := ResultType.holdsValue_of_isList ht
  unfold composeUnder act conclude given
  simp only [hwait, hplace, hmatcher, hreach, ok_bind, Bool.and_false, Bool.false_eq_true, if_false,
    Option.isSome_none, expression_of_actionOf haction hof hrequired, hspread]
  cases frame.operands site [] s.args with
  | error e => rfl
  | ok found =>
    simp only [Except.map, ok_bind, hkept, hvalue, Bool.not_false, Bool.and_self]
    cases frame.collect site trail.parameters found.2 with
    | error e => rfl
    | ok ps => rfl

/-- A statement whose receiver cannot be reached fails as the receiver does. -/
theorem Frame.composeUnder_of_receiver {name : String} {required : ResultType} {trail : Trail}
    {chained : Bool} {e : ComposeError} (hplace : site.inPredicate = false) (hwait : s.isWait = false)
    (haction : s.action = some name) (hreceiver : frame.receiver site trail.lookups s = .error e) :
    frame.composeUnder site required trail s chained = .error e := by
  have hreach : frame.reach site trail.lookups s = .error e := by
    rw [reach, haction]
    exact hreceiver
  unfold composeUnder act
  simp only [hwait, hplace, hreach, Bool.and_false]
  rfl

/-! ## Last statements -/

theorem Frame.composeStatement_previous {trail after : Trail} {chained : Bool} {b : Built Expression}
    (h : frame.composeStatement site trail s chained = .ok (b, after)) :
    after.previous = some b.returnType := by
  obtain ⟨-, b', hwaits, rfl⟩ | ⟨-, b', hstep, rfl⟩ := composeStatement_cases h
  · cases hwaits
    rfl
  · obtain ⟨-, -, -, hprevious⟩ := stepAction_acts hstep
    exact hprevious

/-- The statements in front leave the type of the last of them. -/
theorem Frame.composeFront_previous {count : Nat} {next : Bool} :
    ∀ {init : List Statement} {index : Nat} {trail after : Trail} {bs : List (Built Expression)},
      frame.composeFront count next index trail init = .ok (bs, after) →
        bs.length = init.length ∧
          after.previous = (bs.getLast?.map Built.returnType).or trail.previous
  | [], index, trail, after, bs, h => by
    obtain ⟨rfl, rfl⟩ := by simpa [composeFront] using h
    exact ⟨rfl, rfl⟩
  | s :: rest, index, trail, after, bs, h => by
    simp only [composeFront, bind_eq_ok, pure_eq_ok] at h
    obtain ⟨site, -, ⟨b, middle⟩, hstatement, ⟨others, after'⟩, hrest, he⟩ := h
    obtain ⟨rfl, rfl⟩ := Prod.mk.inj he
    obtain ⟨hlength, hprevious⟩ := composeFront_previous hrest
    refine ⟨by simp [hlength], ?_⟩
    rw [hprevious, composeStatement_previous hstatement, List.getLast?_cons]
    cases others.getLast? <;> rfl

theorem Composition.previousAt_length {front : List (Built Expression)} {b : Built Expression}
    {c : Composition} (h : c.statements = front ++ [b]) :
    c.previousAt front.length = front.getLast?.map Built.returnType := by
  rcases List.eq_nil_or_concat front with rfl | ⟨init, last, rfl⟩
  · rfl
  · simp [previousAt, h]

/-- The site of a statement that declares nothing, and that of the statement with a declaration. -/
theorem Frame.siteOf_declaring {count index : Nat} {previous : Option ResultType} {t : ResultType}
    {keyword? : Option String} {all : Bool} (hnone : s.returnType = none)
    (hone : s.returnAll = false) (hresolve : frame.page.resolve keyword? all = .ok t) :
    ∃ site, frame.siteOf false count index previous s = .ok site ∧ site.declared = .unset ∧
      frame.siteOf false count index previous (s.declaring keyword? all) =
        .ok (site.declaring t all) := by
  have hunset : frame.page.resolve s.returnType s.returnAll = .ok .unset := by
    rw [hnone, hone]
    rfl
  refine ⟨_, by unfold siteOf; rw [hunset], rfl, ?_⟩
  unfold siteOf
  have hwritten : frame.page.resolve (s.declaring keyword? all).returnType
      (s.declaring keyword? all).returnAll = .ok t := hresolve
  rw [hwritten]
  rfl

/-- The last statement of a method has to be of the method's type, with or without that declaration. -/
theorem Frame.siteOf_last {index : Nat} {previous : Option ResultType} {keyword? : Option String}
    {all : Bool} (hnone : s.returnType = none) (hone : s.returnAll = false)
    (hresolve : frame.page.resolve keyword? all = .ok frame.methodReturn) :
    ∃ site, frame.siteOf false (index + 1) index previous s = .ok site ∧
      site.requiredType .unset frame.methodReturn = frame.methodReturn ∧
      frame.siteOf false (index + 1) index previous (s.declaring keyword? all) =
        .ok (site.declaring frame.methodReturn all) := by
  obtain ⟨site, hsite, hunset, hwritten⟩ := siteOf_declaring hnone hone hresolve
  obtain ⟨-, -, -, -, hlast, -⟩ := siteOf_eq_ok hsite
  refine ⟨site, hsite, Site.requiredType_of_isLast (by simp [hlast]) ?_, hwritten⟩
  simp [Site.declares, hunset, ResultType.isUnset]

theorem Site.requiredType_declaring {t : ResultType} {all : Bool} :
    (site.declaring t all).requiredType .unset t = t := by
  unfold requiredType declares
  cases t <;> simp [declaring, ResultType.isUnset]

/-- Both last statements have to be of the type of the method. -/
theorem Frame.composeLast_eq_under {index : Nat} {front : List (Built Expression) × Trail}
    {t : ResultType} (hsite : frame.siteOf false (index + 1) index front.2.previous s = .ok site)
    (hrequired : site.requiredType .unset frame.methodReturn = t) :
    frame.composeLast index front s = do
      let (last, trail) ← frame.composeUnder site t front.2 s false
      let returnType ← frame.returnType last
      return { statements := front.1 ++ [last], returnType, parameters := trail.parameters } := by
  unfold composeLast
  rw [hsite, ok_bind, composeStatement_eq_under, hrequired]

/-- A call without catalog that joins no lists makes none, or is called on one value. -/
theorem Frame.not_isList_of_not_joins {name : String} {r : Receiver} {lines : List (Line Simple)}
    {lookups after : Lookups} (hwait : s.isWait = false) (haction : s.action = some name)
    (hreceiver : frame.receiver site lookups s = .ok (r, lines, after))
    (hof : frame.actionOf site name r = .ok none) (h : ¬ frame.JoinsLists site.previous s) :
    s.matcher ≠ none ∨ r.isList = false ∨ frame.methodReturn.isList = false := by
  by_cases hmatcher : s.matcher = none
  · cases hlist : frame.methodReturn.isList with
    | false => exact Or.inr (Or.inr rfl)
    | true =>
      refine Or.inr (Or.inl ?_)
      obtain rfl | ⟨variableName, element, type, isList, isChain, rfl, hbasic⟩ :=
        Frame.actionOf_eq_none hof
      · rfl
      · cases isList with
        | false => rfl
        | true =>
          obtain ⟨all, hon⟩ := Frame.receiver_calledOn hreceiver
          exact absurd ⟨hlist, hwait, by simp [haction], hmatcher, type, all, hon, hbasic⟩ h
  · exact Or.inl hmatcher

section Declaring

variable {index : Nat} {front : List (Built Expression) × Trail} {keyword? : Option String}
  {all : Bool}

/-- Where no lists are joined, the last statement does not depend on its declaration. -/
theorem Frame.composeLast_not_joins (hnone : s.returnType = none) (hone : s.returnAll = false)
    (hresolve : frame.page.resolve keyword? all = .ok frame.methodReturn)
    (hjoins : ¬ frame.JoinsLists front.2.previous s) :
    frame.composeLast index front s =
      frame.composeLast index front (s.declaring keyword? all) := by
  obtain ⟨site, hsite, hrequired, hwritten⟩ := siteOf_last hnone hone hresolve
  obtain ⟨-, -, hprevious, -⟩ := siteOf_eq_ok hsite
  have halike : frame.composeUnder (site.declaring frame.methodReturn all) frame.methodReturn front.2
      (s.declaring keyword? all) false = frame.composeUnder site frame.methodReturn front.2 s false :=
    Frame.composeUnder_alike keyword? fun hwait => Or.inr
      fun name r lines after haction hreceiver hof =>
        not_isList_of_not_joins hwait haction hreceiver hof (hprevious ▸ hjoins)
  rw [composeLast_eq_under hsite hrequired, composeLast_eq_under hwritten Site.requiredType_declaring,
    halike]

/-- Where lists are joined, the last statements fail alike, or the one without declaration makes a list
of lists of the method's type, and the other a list of that type. -/
theorem Frame.composeLast_joins (hnone : s.returnType = none) (hone : s.returnAll = false)
    (hresolve : frame.page.resolve keyword? all = .ok frame.methodReturn)
    (hjoins : frame.JoinsLists front.2.previous s) :
    (∃ e, frame.composeLast index front s = .error e ∧
      frame.composeLast index front (s.declaring keyword? all) = .error e) ∨
    ∃ mapped joined ps, mapped.index = index ∧
      mapped.returnType = .list frame.methodReturn false ∧
      frame.methodReturn.same joined.returnType = true ∧
      frame.composeLast index front s = (frame.returnType mapped).map (fun t =>
        { statements := front.1 ++ [mapped], returnType := t, parameters := ps }) ∧
      frame.composeLast index front (s.declaring keyword? all) =
        (frame.returnType joined).map (fun t =>
          { statements := front.1 ++ [joined], returnType := t, parameters := ps }) := by
  obtain ⟨site, hsite, hrequired, hwritten⟩ := siteOf_last hnone hone hresolve
  obtain ⟨-, hindex, hprevious, hpredicate, -, hsiteAll⟩ := siteOf_eq_ok hsite
  rw [composeLast_eq_under hsite hrequired, composeLast_eq_under hwritten Site.requiredType_declaring]
  obtain ⟨hlist, hwait, haction, hmatcher, type, many, hon, hbasic⟩ := hjoins
  obtain ⟨name, haction⟩ := Option.ne_none_iff_exists'.mp haction
  obtain ⟨rfl, declared, hdeclared⟩ := ResultType.resolve_isList rfl hresolve hlist
  cases hreceiver : frame.receiver site front.2.lookups s with
  | error e =>
    have hunder : frame.composeUnder site frame.methodReturn front.2 s false = .error e :=
      composeUnder_of_receiver hpredicate hwait haction hreceiver
    have hunder' : frame.composeUnder (site.declaring frame.methodReturn true) frame.methodReturn
        front.2 (s.declaring keyword? true) false = .error e :=
      composeUnder_of_receiver hpredicate hwait haction hreceiver
    exact Or.inl ⟨e, by rw [hunder]; rfl, by rw [hunder']; rfl⟩
  | ok found =>
    obtain ⟨r, lines, after⟩ := found
    obtain ⟨variableName, element, isChain, rfl, hchain⟩ :=
      receiver_of_calledOn (hprevious ▸ hon) hreceiver
    have hof : frame.actionOf site name (.value variableName element type true isChain) = .ok none := by
      have hnone : type.interfaces = none := by
        simpa [NamedType.isBasicElement] using hbasic
      unfold actionOf
      simp only [hnone]
    -- the two sites ask for the same invocations, and put them together in two ways
    have hmap : spreadOf site (.value variableName element type true isChain) frame.methodReturn =
        (.map, .list frame.methodReturn false) := by
      rw [hdeclared]
      cases isChain <;> simp [spreadOf, Site.flattensChain, hsiteAll, hone]
    have hflat : spreadOf (site.declaring frame.methodReturn true)
        (.value variableName element type true isChain) frame.methodReturn =
        (.flatMap, .list (.named declared) false) := by
      rw [hdeclared]
      cases isChain with
      | false => rfl
      | true =>
        have hfollows := hchain rfl
        simp [spreadOf, Site.flattensChain, Site.followsList, Site.declaring] at hfollows ⊢
        exact hfollows
    have hunder : frame.composeUnder site frame.methodReturn front.2 s false = _ :=
      composeUnder_call hpredicate hwait hmatcher haction hreceiver hof hlist hmap rfl
    have hunder' : frame.composeUnder (site.declaring frame.methodReturn true) frame.methodReturn
        front.2 (s.declaring keyword? true) false = _ :=
      composeUnder_call hpredicate hwait hmatcher haction hreceiver hof hlist hflat rfl
    have hoperands : frame.operands (site.declaring frame.methodReturn true) [] s.args =
        frame.operands site [] s.args := Frame.operands_alike
    have hgiven : frame.given (site.declaring frame.methodReturn true) front.2.parameters
        (s.declaring keyword? true) = frame.given site front.2.parameters s := by
      unfold given
      rw [← hoperands]
      rfl
    rw [hunder, hunder', hgiven]
    cases frame.given site front.2.parameters s with
    | error e => exact Or.inl ⟨e, rfl, rfl⟩
    | ok found =>
      refine Or.inr ⟨_, _, found.2, ?_, rfl, ?_, rfl, rfl⟩
      · change site.index.toNat = index
        rw [hindex, Int.toNat_natCast]
      · rw [hdeclared]
        exact ResultType.same_refl (.named declared)

end Declaring

/-! ## Methods -/

/-- What becomes of a method of the statements `init` and a last one without declaration, `s`, compared
with the method in which the last one is `written` with the declaration of the method. -/
structure Frame.Inherits (frame : Frame) (init : List Statement) (s written : Statement) :
    Prop where
  /-- Unless the written declaration joins lists, the two methods are the same, or fail alike. -/
  same : (∀ c, compose frame (init ++ [written]) = .ok c →
      ¬ frame.JoinsLists (c.previousAt init.length) s) →
    compose frame (init ++ [s]) = compose frame (init ++ [written])
  /-- Where it does, the inherited declaration leads to a conflict of the method's type. -/
  conflict : ∀ c, compose frame (init ++ [written]) = .ok c →
    frame.JoinsLists (c.previousAt init.length) s → frame.requiresValue = false →
    compose frame (init ++ [s]) =
      .error (.returnType frame.method init.length frame.methodReturn (.list frame.methodReturn false))
  /-- Where any value will do, the one method ends in a list of lists, and the other in a list. -/
  nested : ∀ c, compose frame (init ++ [written]) = .ok c →
    frame.JoinsLists (c.previousAt init.length) s → frame.requiresValue = true →
    ∃ front joined mapped, c.statements = front ++ [joined] ∧
      frame.methodReturn.same joined.returnType = true ∧
      mapped.returnType = .list frame.methodReturn false ∧
      compose frame (init ++ [s]) = .ok { c with statements := front ++ [mapped] }

section Inherits

variable {init : List Statement} {written : Statement}

theorem Frame.Inherits.of_eq
    (h : compose frame (init ++ [s]) = compose frame (init ++ [written]))
    (hjoins : ∀ c, compose frame (init ++ [written]) = .ok c →
      ¬ frame.JoinsLists (c.previousAt init.length) s) : frame.Inherits init s written :=
  ⟨fun _ => h, fun c hc hj => absurd hj (hjoins c hc), fun c hc hj => absurd hj (hjoins c hc)⟩

theorem Frame.Inherits.of_error {e : ComposeError} (hs : compose frame (init ++ [s]) = .error e)
    (hwritten : compose frame (init ++ [written]) = .error e) : frame.Inherits init s written :=
  .of_eq (hs.trans hwritten.symm) fun c hc => absurd (hwritten.symm.trans hc) (by simp)

/-- The methods of a list of lists and of a list, under a list that the method declares. -/
theorem Frame.Inherits.of_joins {front : List (Built Expression)} {mapped joined : Built Expression}
    {ps : List Parameter} (hlist : frame.methodReturn.isList = true)
    (hindex : mapped.index = init.length)
    (hmapped : mapped.returnType = .list frame.methodReturn false)
    (hjoined : frame.methodReturn.same joined.returnType = true)
    (hs : compose frame (init ++ [s]) = (frame.returnType mapped).map fun t =>
      { statements := front ++ [mapped], returnType := t, parameters := ps })
    (hwritten : compose frame (init ++ [written]) = (frame.returnType joined).map fun t =>
      { statements := front ++ [joined], returnType := t, parameters := ps })
    (hjoins : ∀ c, compose frame (init ++ [written]) = .ok c →
      frame.JoinsLists (c.previousAt init.length) s) : frame.Inherits init s written := by
  obtain ⟨hset, -, -⟩ := ResultType.holdsValue_of_isList hlist
  cases hvalue : frame.requiresValue with
  | false =>
    have hjoinedType : frame.returnType joined = .ok frame.methodReturn := by
      simp [Frame.returnType, hvalue, hset, hjoined]
    have hmappedType : frame.returnType mapped = .error (.returnType frame.method init.length
        frame.methodReturn (.list frame.methodReturn false)) := by
      simp [Frame.returnType, hvalue, hset, hmapped, hindex, ResultType.same_list]
    rw [hjoinedType] at hwritten
    rw [hmappedType] at hs
    exact ⟨fun hnot => absurd (hjoins _ hwritten) (hnot _ hwritten), fun c hc hj _ => hs,
      fun c hc hj hv => absurd hv (by simp [hvalue])⟩
  | true =>
    have htype : ∀ b, frame.returnType b = .ok .object := fun b => by
      simp [Frame.returnType, hvalue]
    rw [htype] at hwritten hs
    refine ⟨fun hnot => absurd (hjoins _ hwritten) (hnot _ hwritten),
      fun c hc hj hv => absurd hv (by simp [hvalue]), fun c hc hj _ => ?_⟩
    obtain rfl := Except.ok.inj (hwritten.symm.trans hc)
    exact ⟨front, joined, mapped, rfl, hjoined, hmapped, hs⟩

end Inherits

/-- The last statement follows the value of the statements in front. -/
theorem Frame.composeLast_previousAt {init : List Statement} {count : Nat} {next : Bool}
    {front : List (Built Expression) × Trail} {c : Composition}
    (hfront : frame.composeFront count next 0 {} init = .ok front)
    (hlast : frame.composeLast init.length front s = .ok c) :
    c.previousAt init.length = front.2.previous := by
  obtain ⟨hlength, hprevious⟩ := composeFront_previous hfront
  unfold composeLast at hlast
  simp only [bind_eq_ok, pure_eq_ok] at hlast
  obtain ⟨site, -, ⟨b, after⟩, -, t, -, rfl⟩ := hlast
  rw [hprevious, ← hlength, Composition.previousAt_length rfl]
  exact (Option.or_none).symm

/-- **A method hands its declaration down to its last statement.** To write the declaration there as
well changes nothing, unless it makes the statement join lists. -/
theorem compose_inherited {init : List Statement} {keyword? : Option String} {all : Bool}
    (hnone : s.returnType = none) (hone : s.returnAll = false)
    (hresolve : frame.page.resolve keyword? all = .ok frame.methodReturn) :
    frame.Inherits init s (s.declaring keyword? all) := by
  -- the statements in front do not see the declaration, so the two methods part at the last one
  have hchain : (s.declaring keyword? all).chain = s.chain := rfl
  cases hfront : frame.composeFront (init.length + 1) s.chain 0 {} init with
  | error e =>
    have hs : compose frame (init ++ [s]) = .error e := by rw [compose_concat, hfront]; rfl
    have hwritten : compose frame (init ++ [s.declaring keyword? all]) = .error e := by
      rw [compose_concat, hchain, hfront]; rfl
    exact .of_error hs hwritten
  | ok front =>
    have hs : compose frame (init ++ [s]) = frame.composeLast init.length front s := by
      rw [compose_concat, hfront, ok_bind]
    have hwritten : compose frame (init ++ [s.declaring keyword? all]) =
        frame.composeLast init.length front (s.declaring keyword? all) := by
      rw [compose_concat, hchain, hfront, ok_bind]
    have hat : ∀ c, compose frame (init ++ [s.declaring keyword? all]) = .ok c →
        c.previousAt init.length = front.2.previous :=
      fun c hc => Frame.composeLast_previousAt hfront (hwritten.symm.trans hc)
    by_cases hjoins : frame.JoinsLists front.2.previous s
    · obtain ⟨e, hse, hde⟩ | ⟨mapped, joined, ps, hindex, hmapped, hjoined, hsm, hdj⟩ :=
        Frame.composeLast_joins hnone hone hresolve hjoins
      · exact .of_error (hs.trans hse) (hwritten.trans hde)
      · exact .of_joins hjoins.list hindex hmapped hjoined (hs.trans hsm) (hwritten.trans hdj)
          fun c hc => (hat c hc).symm ▸ hjoins
    · refine .of_eq ?_ fun c hc => (hat c hc).symm ▸ hjoins
      calc compose frame (init ++ [s])
          = frame.composeLast init.length front s := hs
        _ = frame.composeLast init.length front (s.declaring keyword? all) :=
          Frame.composeLast_not_joins hnone hone hresolve hjoins
        _ = compose frame (init ++ [s.declaring keyword? all]) := hwritten.symm

/-- A method that returns the names of the items of every menu of a page. -/
def itemNames : Frame × Statement :=
  ({ page :=
       { name := "Page",
         elements :=
           [{ name := "menus", type := { name := "Menu", package := "my.app.pageobjects" },
              getter := "getMenus", isList := true,
              selector := some { css := some "a", returnAll := true } }] },
     method := "test", methodReturn := .list .string true },
   { element := some "menus", action := some "getItemNames" })

/-- With the declaration on the statement the names of all menus are joined. -/
theorem itemNames_written :
    ∃ c, compose itemNames.1 [itemNames.2.declaring (some "string") true] = .ok c := by
  have hok : (compose itemNames.1 [itemNames.2.declaring (some "string") true]).toOption.any
      (fun _ => true) = true := by decide
  obtain ⟨c, hc, -⟩ := exists_eq_ok hok
  exact ⟨c, hc⟩

theorem itemNames_inherited :
    (∃ c, compose itemNames.1 [itemNames.2.declaring (some "string") true] = .ok c) ∧
      compose itemNames.1 [itemNames.2] =
        .error (.returnType "test" 0 (.list .string true) (.list (.list .string true) false)) := by
  obtain ⟨c, hc⟩ := itemNames_written
  have hjoins : itemNames.1.JoinsLists (c.previousAt 0) itemNames.2 :=
    ⟨rfl, rfl, by simp [itemNames], rfl, _, _, rfl, rfl⟩
  have hinherits : itemNames.1.Inherits [] itemNames.2
      (itemNames.2.declaring (some "string") true) := compose_inherited rfl rfl rfl
  exact ⟨⟨c, hc⟩, hinherits.conflict c hc hjoins rfl⟩

/-- **An inherited declaration is not always a written one.** -/
theorem not_compose_inherited : ¬ ∀ (frame : Frame) (init : List Statement) (s : Statement)
    (keyword? : Option String) (all : Bool), s.returnType = none → s.returnAll = false →
      frame.page.resolve keyword? all = .ok frame.methodReturn →
      (compose frame (init ++ [s])).toOption =
        (compose frame (init ++ [s.declaring keyword? all])).toOption := by
  intro hall
  have hsame := hall itemNames.1 [] itemNames.2 (some "string") true rfl rfl rfl
  obtain ⟨c, hc⟩ := itemNames_written
  have hfails : (compose itemNames.1 [itemNames.2]).toOption.isSome = false := by decide
  rw [List.nil_append, List.nil_append, hc] at hsame
  rw [hsame] at hfails
  exact absurd hfails (by simp [Except.toOption])

end PageObjects
