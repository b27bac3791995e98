import PageObjects.Proofs.Compose.Scope

/-!
# Types of variables

Every variable of a composed method, in its sequence or in the closure of a wait, has a type that the
method was given: that of an element, one that the method or a statement declares, or one of the
actions. Nothing is made of these but lists: a call on each value of a list makes a list, which it may
only do after a list that it was given.

* `Composition.variableTypes`: the types of all variables.
* `TypeFamily`: properties of types that are kept by what a composition makes of types.
* `Frame.Given`: what the method was given has the property.
* `Frame.Acts.family`, `Frame.composePredicate_family`, `Frame.MethodStep.family`: one statement.
* **`compose_family`**: then so have the types of all variables.
-/

namespace PageObjects

/-! ## Variables -/

/-- The type of the variable that a line binds. -/
def Line.boundType? {ε : Type} : Line ε → Option ResultType
  | .bind type _ _ => some type
  | .verdict _ _ _ _ => some .boolean
  | _ => none

/-- The types of the variables that the lines of a statement bind. -/
def Built.types {ε : Type} (b : Built ε) : List ResultType := b.lines.filterMap Line.boundType?

/-- The types of the variables of a statement, with those in the closure of a wait. -/
def Built.variableTypes (b : Built Expression) : List ResultType :=
  b.types ++ b.closures.flatMap fun closure => closure.filterMap Line.boundType?

/-- The types of the variables of a method. -/
def Composition.variableTypes (c : Composition) : List ResultType :=
  c.statements.flatMap Built.variableTypes

/-! ## Families of types -/

/-- A property of types that is kept by what a composition makes of types. -/
structure TypeFamily (P : ResultType → Prop) : Prop where
  /-- Types of no values. -/
  valueless : ∀ t : ResultType, t.holdsValue = false → P t
  /-- The types of actions. -/
  action : ∀ t ∈ Action.returnTypes, P t
  /-- A call on each value of a list makes a list. -/
  map : ∀ element all t, P (.list element all) → P t → P (.list t false)
  /-- Lists that are joined make a list. -/
  join : ∀ element all, P (.list element all) → P (.list element false)

theorem TypeFamily.boolean {P : ResultType → Prop} (h : TypeFamily P) : P .boolean :=
  h.action .boolean (by decide)

/-- What a method and its statements are given has a property: the types of elements, and the types
that they declare. -/
structure Frame.Given (frame : Frame) (P : ResultType → Prop) (ss : List Statement) : Prop where
  family : TypeFamily P
  elements : ∀ name element, frame.page.find? name = some element → P element.returnType
  methodReturn : P frame.methodReturn
  declared : ∀ s ∈ ss, ∀ s' ∈ s :: s.inner, ∀ t,
    frame.page.resolve s'.returnType s'.returnAll = .ok t → P t

variable {frame : Frame} {site : Site} {s : Statement} {lookups : Lookups} {P : ResultType → Prop}

/-! ## Values -/

/-- What a statement looks up has the type of an element. -/
theorem Frame.Addresses.lookups_forall {r : Receiver} {lines : List (Line Simple)} {after : Lookups}
    (helements : ∀ name element, frame.page.find? name = some element → P element.returnType)
    (h : frame.Addresses site lookups s r lines after) :
    ∀ t ∈ lines.filterMap Line.boundType?, P t := by
  cases h with
  | chain hchain hchains => simp
  | element hchain hfinds =>
    cases hfinds with
    | fresh hname helement hfree =>
      intro t ht
      obtain rfl := List.mem_singleton.mp ht
      exact helements _ _ helement
    | _ => simp

/-- A list that a statement is called on has the property. -/
theorem Frame.Addresses.list_of_family {r : Receiver} {lines : List (Line Simple)} {after : Lookups}
    (helements : ∀ name element, frame.page.find? name = some element → P element.returnType)
    (hprevious : ∀ t ∈ site.previous, P t) (h : frame.Addresses site lookups s r lines after)
    (hisList : r.isList = true) : ∃ element all, P (.list element all) := by
  have hlist : ∀ {name element}, frame.page.find? name = some element → element.isList = true →
      ∃ element all, P (.list element all) := by
    intro name element hfind hlist
    have hreturn := helements name element hfind
    rw [PageElement.returnType, if_pos hlist] at hreturn
    exact ⟨_, _, hreturn⟩
  cases h with
  | chain hchain hchains =>
    obtain ⟨hbefore, -, -⟩ := hchains
    rename_i previous type
    -- a chain on each value of a list follows a list that has the property
    cases previous with
    | list element all => exact ⟨element, all, hprevious _ hbefore⟩
    | _ => exact absurd hisList (by simp [Receiver.isList, ResultType.isList])
  | element hchain hfinds =>
    cases hfinds with
    | page hname => exact absurd hisList (by simp [Receiver.isList])
    | document hname => exact absurd hisList (by simp [Receiver.isList])
    | known hname helement hbound => exact hlist helement hisList
    | fresh hname helement hfree => exact hlist helement hisList

theorem spreadOf_family (hfamily : TypeFamily P) {r : Receiver} {t : ResultType}
    (hlist : r.isList = true → ∃ element all, P (.list element all)) (ht : P t) :
    P (spreadOf site r t).2 := by
  unfold spreadOf
  split
  · obtain ⟨element, all, hgiven⟩ := hlist rfl
    split
    · exact ht
    · split_ifs
      · exact hfamily.join _ _ ht
      · exact hfamily.map _ _ _ hgiven ht
      · exact hfamily.join _ _ ht
      · exact hfamily.map _ _ _ hgiven ht
    · exact hfamily.map _ _ _ hgiven ht
  · exact ht

theorem Frame.invocationType_family (hfamily : TypeFamily P) {name : String}
    {required t : ResultType} {action : Option Action} (hrequired : P required)
    (hreturns : ∀ a, action = some a → a.returns ∈ Action.returnTypes)
    (h : frame.invocationType site name required action = .ok t) : P t := by
  unfold Frame.invocationType at h
  split at h
  · obtain rfl := Except.ok.inj h
    split
    · exact hfamily.valueless .void rfl
    · exact hrequired
  · rename_i a
    split at h
    · exact absurd h Frame.fail_ne_ok
    · obtain rfl := Except.ok.inj h
      exact hfamily.action _ (hreturns a rfl)

theorem Frame.Evaluates.family (hfamily : TypeFamily P) {r : Receiver}
    {required resolved : ResultType} {value : Simple} {parameters : List Parameter}
    (helements : ∀ name element, frame.page.find? name = some element → P element.returnType)
    (hrequired : P required)
    (hlist : s.action ≠ none → r.isList = true → ∃ element all, P (.list element all))
    (h : frame.Evaluates site s r required value resolved parameters) : P resolved := by
  cases h with
  | getter haction helement hfits => exact helements _ _ helement
  | call haction hof hoperands hcheck hinvocation hfits =>
    refine spreadOf_family hfamily (hlist (by simp [haction])) ?_
    refine Frame.invocationType_family hfamily hrequired ?_ hinvocation
    rintro a rfl
    exact Frame.actionOf_returns hof

/-! ## Statements -/

/-- A statement binds what it looks up, its value, and the verdict on it. -/
theorem Site.Yields.types_forall {ε : Type} {before : List (Line ε)} {value : ε} {resolved : ResultType}
    {b : Built ε} (h : site.Yields before value resolved b)
    (hvalueless : ∀ t : ResultType, t.holdsValue = false → P t) (hboolean : P .boolean)
    (hbefore : ∀ t ∈ before.filterMap Line.boundType?, P t) (hresolved : P resolved) :
    (∀ t ∈ b.types, P t) ∧ P b.returnType := by
  cases h with
  | @dropped t isWait ht =>
    refine ⟨by simpa [Built.types, Line.boundType?] using hbefore, hvalueless t ?_⟩
    rcases ht with rfl | hself
    · rfl
    · cases t <;> simp_all [ResultType.isSelf, ResultType.holdsValue]
  | bound hholds =>
    refine ⟨fun t ht => ?_, hresolved⟩
    simp only [Built.types, List.filterMap_append, List.mem_append] at ht
    rcases ht with hold | hnew
    · exact hbefore t hold
    · obtain rfl := List.mem_singleton.mp hnew
      exact hresolved
  | judged hholds =>
    refine ⟨fun t ht => ?_, hboolean⟩
    simp only [Built.types, List.filterMap_append, List.mem_append] at ht
    rcases ht with (hold | hvalue) | hverdict
    · exact hbefore t hold
    · obtain rfl := List.mem_singleton.mp hvalue
      exact hresolved
    · obtain rfl := List.mem_singleton.mp hverdict
      exact hboolean

/-- What a statement has to be has the property if its declarations have. -/
theorem Site.requiredType_family (hfamily : TypeFamily P) {methodReturn : ResultType}
    (hmethod : P methodReturn) (hdeclared : P site.declared) :
    P (site.requiredType .unset methodReturn) := by
  unfold Site.requiredType
  split
  · exact hdeclared
  · split
    · exact hmethod
    · exact hfamily.valueless .unset rfl

/-- An action that follows a value with the property leaves one, and binds none without. -/
theorem Frame.Acts.family {ss : List Statement} (hgiven : frame.Given P ss)
    (hdeclared : P site.declared) (hprevious : ∀ t ∈ site.previous, P t) {b : Built Simple}
    {after : Lookups} {ps : List Parameter} (h : frame.Acts site lookups s b after ps) :
    (∀ t ∈ b.types, P t) ∧ P b.returnType := by
  obtain ⟨-, hreaches, hevaluates, hyields⟩ := h
  have hown : P (frame.ownType site s) := by
    unfold Frame.ownType
    split
    · exact hgiven.family.valueless .unset rfl
    · exact Site.requiredType_family hgiven.family hgiven.methodReturn hdeclared
  cases hreaches with
  | nothing haction =>
    exact hyields.types_forall hgiven.family.valueless hgiven.family.boolean (by simp)
      (hevaluates.family hgiven.family hgiven.elements hown (absurd haction))
  | receiver haction haddresses =>
    have hlines := haddresses.lookups_forall hgiven.elements
    exact hyields.types_forall hgiven.family.valueless hgiven.family.boolean hlines
      (hevaluates.family hgiven.family hgiven.elements hown fun _ =>
        haddresses.list_of_family hgiven.elements hprevious)

/-! ## Predicates and methods -/

/-- The type of the value before the next statement has the property. -/
def Trail.Has (trail : Trail) (P : ResultType → Prop) : Prop := ∀ t ∈ trail.previous, P t

/-- A step of a predicate binds variables with the property, and leaves a value with it. -/
theorem Frame.PredicateStep.family {ss : List Statement} (hgiven : frame.Given P ss)
    (hdeclared : ∀ t, frame.page.resolve s.returnType s.returnAll = .ok t → P t)
    {count index : Nat} {before after : Trail} {rest : List Statement} {b : Built Simple}
    (hbefore : before.Has P) (h : frame.PredicateStep count index before s rest b after) :
    ((∀ t ∈ b.types, P t) ∧ P b.returnType) ∧ after.Has P := by
  obtain ⟨site, hsite, -, hstep⟩ := h
  obtain ⟨hresolved, -, hprevious, -⟩ := Frame.siteOf_eq_ok hsite
  obtain ⟨more, hacts, -, hafter⟩ := Frame.stepAction_acts hstep
  have hbuilt := hacts.family hgiven (hdeclared _ hresolved) (hprevious ▸ hbefore)
  refine ⟨hbuilt, fun t ht => ?_⟩
  obtain rfl : b.returnType = t := by simpa [hafter] using ht
  exact hbuilt.2

/-- The variables of a closure are those of its statements, and its value is that of one of them or a truth
value. -/
theorem closure_forall (hboolean : P .boolean) {bs : List (Built Simple)}
    (h : ∀ b ∈ bs, (∀ t ∈ b.types, P t) ∧ P b.returnType) :
    (∀ t ∈ (bs.flatMap Built.lines).filterMap Line.boundType?, P t) ∧ P (predicateType bs) := by
  refine ⟨fun t ht => ?_, ?_⟩
  · rw [List.filterMap_flatMap] at ht
    obtain ⟨b, hb, ht⟩ := List.mem_flatMap.mp ht
    exact (h b hb).1 t ht
  · unfold predicateType
    split
    · rename_i b v hlast hvariable
      exact (h b (List.mem_of_getLast? hlast)).2
    · exact hboolean

/-- The closure of a wait binds variables with the property, and its value has it. -/
theorem Frame.composePredicate_family {ss inner : List Statement} (hgiven : frame.Given P ss)
    (hdeclared : ∀ s ∈ inner, ∀ t, frame.page.resolve s.returnType s.returnAll = .ok t → P t)
    {ps ps' : List Parameter} {bs : List (Built Simple)}
    (h : frame.composePredicate ps inner = .ok (bs, ps')) :
    (∀ t ∈ (bs.flatMap Built.lines).filterMap Line.boundType?, P t) ∧ P (predicateType bs) := by
  obtain ⟨last, hwalk, -⟩ := Frame.composePredicate_threaded h
  refine closure_forall hgiven.family.boolean ?_
  exact hwalk.attach.forall_mem (fun trail => trail.Has P) (by simp [Trail.Has])
    fun hbefore hstep => hstep.2.family hgiven (hdeclared _ hstep.1) hbefore

/-- The line that returns binds nothing. -/
theorem Frame.finish_types (frame : Frame) {b : Built Expression} :
    (frame.finish b).types = b.types := by
  have hreturn : (frame.returnLine b).filterMap Line.boundType? = [] :=
    Frame.filterMap_returnLine fun _ => rfl
  simp only [Built.types, Frame.finish, List.filterMap_append, hreturn, List.append_nil]

theorem Built.types_map {ε δ : Type} {f : ε → δ} {b : Built ε} : (b.map f).types = b.types := by
  have hline : ∀ line : Line ε, (line.map f).boundType? = line.boundType? := by
    intro line
    cases line <;> rfl
  simp only [Built.types, Built.map, List.filterMap_map, Function.comp_def, hline]

/-- An action has no variables but its own. -/
theorem Frame.finish_variableTypes (frame : Frame) {b : Built Simple} :
    (frame.finish (b.map Expression.simple)).variableTypes = b.types := by
  have hclosures : (frame.finish (b.map Expression.simple)).closures = [] := by
    rw [Built.closures, Frame.finish_values, ← Built.closures, Built.closures_map_simple]
  rw [Built.variableTypes, hclosures, Frame.finish_types, Built.types_map, List.flatMap_nil,
    List.append_nil]

/-- A wait has its own variable and those of its closure. -/
theorem Site.Yields.variableTypes (frame : Frame) {closure : List (Line Simple)} {result : String}
    {resolved : ResultType} {b : Built Expression}
    (h : site.Yields [] (.wait closure result) resolved b) :
    (frame.finish b).variableTypes = b.types ++ closure.filterMap Line.boundType? := by
  have hclosures : (frame.finish b).closures = [closure] := by
    rw [Built.closures, Frame.finish_values, h.values_eq]
    rfl
  rw [Built.variableTypes, hclosures, Frame.finish_types, List.flatMap_singleton]

/-- **A step of a method** binds variables with the property, in its closures as well, and leaves a
value with it. -/
theorem Frame.MethodStep.family {ss : List Statement} (hgiven : frame.Given P ss) (hs : s ∈ ss)
    {count index : Nat} {before after : Trail} {rest : List Statement} {b : Built Expression}
    (hbefore : before.Has P) (h : frame.MethodStep count index before s rest b after) :
    (∀ t ∈ b.variableTypes, P t) ∧ after.Has P := by
  obtain ⟨site, hsite, hstep⟩ := h
  obtain ⟨hresolved, -, hprevious, -⟩ := Frame.siteOf_eq_ok hsite
  obtain ⟨-, b', hwaits, rfl⟩ | ⟨-, b', hstep', rfl⟩ := Frame.composeStatement_cases hstep
  · cases hwaits with
    | @mk inner ps _ hinner hpredicate hyields =>
      obtain ⟨hclosure, htype⟩ := Frame.composePredicate_family hgiven
        (fun s' hs' => hgiven.declared s hs s' (List.mem_cons_of_mem s hs')) hpredicate
      obtain ⟨htypes, hreturn⟩ := hyields.types_forall hgiven.family.valueless hgiven.family.boolean
        (by simp) htype
      refine ⟨fun t ht => ?_, ?_⟩
      · rw [hyields.variableTypes] at ht
        rcases List.mem_append.mp ht with hown | hinside
        · exact htypes t hown
        · exact hclosure t hinside
      · intro t ht
        obtain rfl := Option.some.inj ht
        exact hreturn
  · obtain ⟨more, hacts, -, hafter⟩ := Frame.stepAction_acts hstep'
    obtain ⟨htypes, hreturn⟩ := hacts.family hgiven
      (hgiven.declared s hs s List.mem_cons_self _ hresolved) (hprevious ▸ hbefore)
    refine ⟨fun t ht => ?_, fun t ht => ?_⟩
    · rw [frame.finish_variableTypes] at ht
      exact htypes t ht
    · obtain rfl : b'.returnType = t := by simpa [hafter] using ht
      exact hreturn

/-- **The types of all variables** of a composed method have every property of the types that the
method was given. -/
theorem compose_family {ss : List Statement} {c : Composition} (hgiven : frame.Given P ss)
    (h : compose frame ss = .ok c) : ∀ t ∈ c.variableTypes, P t := by
  obtain ⟨last, -, hwalk, -⟩ := compose_threaded h
  -- the walk carries the type of the value before each statement
  have hbuilt : ∀ b ∈ c.statements, ∀ t ∈ b.variableTypes, P t :=
    hwalk.attach.forall_mem (fun trail => trail.Has P) (by simp [Trail.Has])
      fun hbefore hstep => hstep.2.family hgiven hstep.1 hbefore
  intro t ht
  obtain ⟨b, hb, ht⟩ := List.mem_flatMap.mp ht
  exact hbuilt b hb t ht

end PageObjects
