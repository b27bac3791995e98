import PageObjects.Proofs.Compose.Types
import PageObjects.Proofs.Methods

/-!
# Lists of lists

A call on each value of a list makes a list of what it yields, and a call that yields a list would so make
a list of lists. It does not. A statement can declare a list only by asking for all matches, and then lists
of lists are joined. What remains is the last statement of a method under the list that the method
declares: it would make a list of lists, but then its type is not the one that the method declares, and the
method is refused. This bounds what step 4 of the Compose Method Builder makes (specification, 4.2).

* `ResultType.depth`, `ResultType.IsFlat`: how many lists a type nests; at most one.
* `Frame.Evaluates.flat`: the value of a statement whose required type is not that of the method.
* `Frame.composeAction_flat`: a composed action is flat, or the last one and not of the method's type.
* **`compose_flat`**, **`PageClass.ofSource_flat`**: no type in a composed method, and none in a page class,
  is a list of lists.
-/

namespace PageObjects

/-! ## How deep lists nest -/

namespace ResultType

/-- The number of lists around what is no list. -/
def depth : ResultType → Nat
  | .list element _ => element.depth + 1
  | _ => 0

/-- The type is no list of lists. -/
def IsFlat (t : ResultType) : Prop := t.depth ≤ 1

instance (t : ResultType) : Decidable t.IsFlat := inferInstanceAs (Decidable (_ ≤ _))

/-- A list is flat exactly when its elements are no lists. -/
@[simp] theorem isFlat_list {element : ResultType} {all : Bool} :
    (ResultType.list element all).IsFlat ↔ element.isList = false := by
  cases element <;> simp [IsFlat, depth, isList]

theorem isFlat_of_not_isList {t : ResultType} (h : t.isList = false) : t.IsFlat := by
  cases t with
  | list element all => exact absurd h (by simp [isList])
  | _ => exact Nat.zero_le 1

/-- Types that are equal by their names nest equally many lists. -/
theorem depth_of_same : ∀ {a b : ResultType}, a.same b = true → a.depth = b.depth
  | .list a _, .list b _, h => congrArg (· + 1) (depth_of_same (a := a) (b := b) h)
  | .named _, .named _, _ => rfl
  | .void, .void, _ => rfl
  | .self _, .self _, _ => rfl
  | .unset, .unset, _ => rfl

theorem IsFlat.of_same {a b : ResultType} (h : a.IsFlat) (hsame : a.same b = true) : b.IsFlat := by
  unfold IsFlat at *
  rwa [← depth_of_same hsame]

theorem IsFlat.depth_le {t : ResultType} {n : Nat} (h : t.IsFlat) (hn : 1 ≤ n) : t.depth ≤ n :=
  Nat.le_trans h hn

/-- No keyword stands for a list. -/
theorem ofKeyword?_isList {own t : ResultType} {keyword? : Option String} (hown : own.isList = false)
    (h : ofKeyword? own keyword? = .ok t) : t.isList = false := by
  cases keyword? with
  | none =>
    obtain rfl := Except.ok.inj h
    rfl
  | some keyword =>
    simp only [ofKeyword?, ofKeyword] at h
    split_ifs at h
    · obtain rfl := Except.ok.inj h
      rfl
    · obtain rfl := Except.ok.inj h
      exact hown
    all_goals
      split at h
      · rename_i primitive hprimitive
        obtain rfl := Except.ok.inj h
        have hprimitives : ∀ entry ∈ primitives, entry.2.isList = false := by decide
        exact hprimitives _ (mem_of_lookup hprimitive)
    · obtain ⟨type, -, rfl⟩ := map_eq_ok.mp h
      rfl
    · exact absurd h (by simp)

/-- A declared type is flat, and a list only where all matches are asked for. -/
theorem resolve_flat {own t : ResultType} {keyword? : Option String} {all : Bool}
    (hown : own.isList = false) (h : resolve own keyword? all = .ok t) :
    t.IsFlat ∧ (t.isList = true → all = true) := by
  obtain ⟨resolved, hresolved, h⟩ := bind_eq_ok.mp h
  have hsingle := ofKeyword?_isList hown hresolved
  have single (h : resolved = t) : t.IsFlat ∧ (t.isList = true → all = true) := by
    subst h
    exact ⟨isFlat_of_not_isList hsingle, fun hlist => absurd hlist (by simp [hsingle])⟩
  split at h
  · obtain rfl := Except.ok.inj h
    exact ⟨isFlat_list.mpr rfl, fun _ => rfl⟩
  · exact absurd h (by simp)
  · exact single (Except.ok.inj h)

end ResultType

theorem Page.resolve_flat {p : Page} {keyword? : Option String} {all : Bool} {t : ResultType}
    (h : p.resolve keyword? all = .ok t) : t.IsFlat ∧ (t.isList = true → all = true) :=
  ResultType.resolve_flat rfl h

theorem PageElement.returnType_flat {element : PageElement} : element.returnType.IsFlat := by
  unfold PageElement.returnType
  split
  · exact ResultType.isFlat_list.mpr rfl
  · exact ResultType.isFlat_of_not_isList rfl

theorem Action.isList_of_mem {t : ResultType} (h : t ∈ Action.returnTypes) : t.isList = false := by
  have hnone : ∀ t ∈ Action.returnTypes, t.isList = false := by decide
  exact hnone t h

/-! ## Values -/

variable {frame : Frame} {site : Site} {s : Statement} {lookups : Lookups}

/-- A receiver that is a list and stands in a chain is the value before the statement, so that is a
list. -/
def Site.Follows (site : Site) (r : Receiver) : Prop :=
  ∀ variableName name type, r = .value variableName name type true true → site.followsList = true

theorem Frame.Addresses.follows {r : Receiver} {lines : List (Line Simple)} {after : Lookups}
    (h : frame.Addresses site lookups s r lines after) : site.Follows r := by
  intro variableName name type hr
  cases h with
  | element hchain hfinds => cases hfinds <;> exact absurd hr (by simp)
  | chain hchain hchains =>
    obtain ⟨hprevious, -, -⟩ := hchains
    obtain ⟨-, -, -, hlist, -⟩ := Receiver.value.inj hr
    simpa [Site.followsList, hprevious] using hlist

/-- A call that yields a list is spread without a list of lists where all matches are asked for. -/
theorem spreadOf_flat {r : Receiver} {t : ResultType} (hfollows : site.Follows r) (ht : t.IsFlat)
    (hall : t.isList = true → site.returnAll = true) : (spreadOf site r t).2.IsFlat := by
  unfold spreadOf
  split
  · rename_i variableName name type isChain
    split
    · exact ht
    · rename_i element all
      -- both kinds of receivers join the lists
      have hjoins : (if isChain = true then site.flattensChain else site.returnAll) = true := by
        cases isChain with
        | true => simp [Site.flattensChain, hfollows _ _ _ rfl, hall rfl]
        | false => simp [hall rfl]
      rw [if_pos hjoins]
      exact ResultType.isFlat_list.mpr (ResultType.isFlat_list.mp ht)
    · rename_i hvoid hlist
      refine ResultType.isFlat_list.mpr ?_
      cases t with
      | list element all => exact absurd rfl (hlist element all)
      | _ => rfl
  · exact ht

/-- What one invocation yields is no list, or it is of the type that is required. -/
theorem Frame.invocationType_flat {name : String} {required t : ResultType} {action : Option Action}
    (hreturns : ∀ a, action = some a → a.returns ∈ Action.returnTypes)
    (h : frame.invocationType site name required action = .ok t) : t.isList = false ∨ t = required := by
  unfold Frame.invocationType at h
  split at h
  · obtain rfl := Except.ok.inj h
    split
    · exact Or.inl rfl
    · exact Or.inr rfl
  · rename_i a
    split at h
    · exact absurd h Frame.fail_ne_ok
    · obtain rfl := Except.ok.inj h
      exact Or.inl (Action.isList_of_mem (hreturns a rfl))

/-- **A value is flat** if the type that is required of it is, and is a list only where all matches are
asked for. -/
theorem Frame.Evaluates.flat {r : Receiver} {required resolved : ResultType} {value : Simple}
    {parameters : List Parameter} (hfollows : s.action ≠ none → site.Follows r)
    (hrequired : required.IsFlat) (hall : required.isList = true → site.returnAll = true)
    (h : frame.Evaluates site s r required value resolved parameters) : resolved.IsFlat := by
  cases h with
  | getter haction helement hfits => exact PageElement.returnType_flat
  | @call _ _ _ _ invocation haction hof hoperands hcheck hinvocation hfits =>
    have hyields : invocation.isList = false ∨ invocation = required := by
      refine Frame.invocationType_flat ?_ hinvocation
      rintro a rfl
      exact Frame.actionOf_returns hof
    refine spreadOf_flat (hfollows (by simp [haction])) ?_ ?_
    · rcases hyields with hsingle | rfl
      · exact ResultType.isFlat_of_not_isList hsingle
      · exact hrequired
    · rcases hyields with hsingle | rfl
      · exact fun hlist => absurd hlist (by simp [hsingle])
      · exact hall

/-! ## Statements -/

theorem ResultType.isFlat_of_valueless {t : ResultType} (h : t.holdsValue = false) : t.IsFlat := by
  cases t with
  | list element all => exact absurd h (by simp [holdsValue])
  | _ => exact Nat.zero_le 1

theorem ResultType.isFlat_boolean : ResultType.boolean.IsFlat := Nat.zero_le 1

/-- The type that a statement has to have is none, the one that it declares, or, for the last statement of
a method, the one that the method declares. -/
theorem Frame.ownType_cases (frame : Frame) (site : Site) (s : Statement) :
    frame.ownType site s = .unset ∨ frame.ownType site s = site.declared ∨
      (site.isLast = true ∧ frame.methodReturn.isUnset = false ∧ s.matcher = none ∧
        frame.ownType site s = frame.methodReturn) := by
  unfold Frame.ownType Site.requiredType
  split_ifs with hmatcher hdeclares hlast
  · exact Or.inl rfl
  · exact Or.inr (Or.inl rfl)
  · simp only [Bool.and_eq_true, Bool.not_eq_true'] at hlast
    exact Or.inr (Or.inr ⟨hlast.1, hlast.2, by simpa using hmatcher, rfl⟩)
  · exact Or.inl rfl

/-- A statement has the type of its value, or drops the value and binds what it looks up only. -/
theorem Frame.emit_types {ε : Type} (site : Site) (before : List (Line ε)) (value : ε)
    (resolved required : ResultType) (binds : Bool) :
    (Frame.emit site before value resolved required binds).returnType = resolved ∨
      (Frame.emit site before value resolved required binds).types = before.filterMap Line.boundType? ∧
      (Frame.emit site before value resolved required binds).returnType.holdsValue = false := by
  unfold Frame.emit
  split
  · exact Or.inl rfl
  · refine Or.inr ⟨by simp [Built.types, Line.boundType?], ?_⟩
    dsimp only
    split
    · cases required <;> simp_all [ResultType.isSelf, ResultType.holdsValue]
    · rfl

/-- The last statement of a method has a type that the method does not declare. -/
structure Frame.Misfits (frame : Frame) (site : Site) (t : ResultType) : Prop where
  last : site.isLast = true
  declares : frame.methodReturn.isUnset = false
  differs : frame.methodReturn.same t = false

/-- **A composed action is flat**, or it is the last one and not of the type that the method declares. -/
theorem Frame.composeAction_flat {b : Built Simple} {after : Lookups} {ps : List Parameter}
    (hmethod : frame.methodReturn.IsFlat)
    (hdeclared : site.declared.IsFlat ∧ (site.declared.isList = true → site.returnAll = true))
    (h : frame.composeAction site lookups s = .ok (b, after, ps)) :
    ((∀ t ∈ b.types, t.IsFlat) ∧ b.returnType.IsFlat) ∨ frame.Misfits site b.returnType := by
  obtain ⟨-, r, lines, value, resolved, own, hreached, hevaluates, hdecides⟩ :=
    Frame.composeAction_eq_ok h
  have hlines : (∀ t ∈ lines.filterMap Line.boundType?, t.IsFlat) ∧
      (s.action ≠ none → site.Follows r) := by
    obtain ⟨haction, rfl, -⟩ | ⟨haction, hreceiver⟩ := hreached
    · exact ⟨by simp, fun hsome => absurd haction hsome⟩
    · have haddresses := Frame.receiver_addresses hreceiver
      exact ⟨haddresses.lookups_forall fun _ _ _ => PageElement.returnType_flat,
        fun _ => haddresses.follows⟩
  obtain ⟨hbefore, hfollows⟩ := hlines
  have hyields := hdecides.yields hevaluates.yieldable hevaluates.plain_of_matcher
  have flat (hresolved : resolved.IsFlat) : (∀ t ∈ b.types, t.IsFlat) ∧ b.returnType.IsFlat :=
    hyields.types_forall (fun _ => ResultType.isFlat_of_valueless) ResultType.isFlat_boolean hbefore
      hresolved
  obtain hown | hown | ⟨hlast, hdeclares, hmatcher, hown⟩ := frame.ownType_cases site s
  · refine Or.inl (flat (hevaluates.flat hfollows ?_ ?_)) <;> rw [hown]
    · exact Nat.zero_le 1
    · exact fun hlist => absurd hlist (by simp [ResultType.isList])
  · refine Or.inl (flat (hevaluates.flat hfollows ?_ ?_)) <;> rw [hown]
    · exact hdeclared.1
    · exact hdeclared.2
  · -- the value is dropped, or it decides the type of the statement
    cases hdecides with
    | judged hsome _ _ _ => exact absurd hmatcher hsome
    | emitted _ hb =>
      subst hb
      rcases Frame.emit_types site lines value resolved (frame.ownType site s)
          (!(frame.ownType site s).discards && !resolved.isVoid) with hreturn | ⟨htypes, hvalueless⟩
      · by_cases hresolved : resolved.IsFlat
        · exact Or.inl (flat hresolved)
        · refine Or.inr ⟨hlast, hdeclares, Bool.eq_false_iff.mpr fun hsame => hresolved ?_⟩
          rw [← hreturn]
          exact hmethod.of_same hsame
      · exact Or.inl ⟨htypes.symm ▸ hbefore, ResultType.isFlat_of_valueless hvalueless⟩

/-! ## Predicates and methods -/

/-- A step of a predicate is flat: it is never the last of a method. -/
theorem Frame.PredicateStep.flat (hmethod : frame.methodReturn.IsFlat) {count index : Nat}
    {before after : Trail} {rest : List Statement} {b : Built Simple}
    (h : frame.PredicateStep count index before s rest b after) :
    (∀ t ∈ b.types, t.IsFlat) ∧ b.returnType.IsFlat := by
  obtain ⟨site, hsite, -, hstep⟩ := h
  obtain ⟨hresolved, -, -, -, hlast, hall⟩ := Frame.siteOf_eq_ok hsite
  obtain ⟨more, haction, -, -⟩ := Frame.stepAction_eq_ok hstep
  obtain hflat | hmisfits := Frame.composeAction_flat hmethod (hall ▸ Page.resolve_flat hresolved) haction
  · exact hflat
  · exact absurd hmisfits.last (by simp [hlast])

/-- The statements of a composed predicate are flat. -/
theorem Frame.composePredicate_flat (hmethod : frame.methodReturn.IsFlat) {ss : List Statement}
    {ps ps' : List Parameter} {bs : List (Built Simple)}
    (h : frame.composePredicate ps ss = .ok (bs, ps')) :
    ∀ b ∈ bs, (∀ t ∈ b.types, t.IsFlat) ∧ b.returnType.IsFlat := by
  obtain ⟨last, hwalk, -⟩ := Frame.composePredicate_threaded h
  exact hwalk.forall_mem (fun _ => True) trivial fun _ hstep => ⟨hstep.flat hmethod, trivial⟩

/-- **A step of a method is flat**, in its closure as well, or it is the last one and not of the type that
the method declares. -/
theorem Frame.MethodStep.flat (hmethod : frame.methodReturn.IsFlat) {count index : Nat}
    {before after : Trail} {rest : List Statement} {b : Built Expression}
    (h : frame.MethodStep count index before s rest b after) :
    ((∀ t ∈ b.variableTypes, t.IsFlat) ∧ b.returnType.IsFlat) ∨
      (index + 1 = count ∧ frame.methodReturn.isUnset = false ∧
        frame.methodReturn.same b.returnType = false) := by
  obtain ⟨site, hsite, hstep⟩ := h
  obtain ⟨hresolved, -, -, -, hlast, hall⟩ := Frame.siteOf_eq_ok hsite
  obtain ⟨-, b', hwaits, rfl⟩ | ⟨-, b', hstep', rfl⟩ := Frame.composeStatement_cases hstep
  · cases hwaits with
    | @mk inner ps _ hinner hpredicate hyields =>
      obtain ⟨hclosure, htype⟩ := closure_forall ResultType.isFlat_boolean
        (Frame.composePredicate_flat hmethod hpredicate)
      obtain ⟨htypes, hreturn⟩ := hyields.types_forall (fun _ => ResultType.isFlat_of_valueless)
        ResultType.isFlat_boolean (by simp) htype
      refine Or.inl ⟨?_, hreturn⟩
      rw [hyields.variableTypes]
      exact List.forall_mem_append.mpr ⟨htypes, hclosure⟩
  · obtain ⟨more, haction, -, -⟩ := Frame.stepAction_eq_ok hstep'
    obtain hflat | hmisfits :=
      Frame.composeAction_flat hmethod (hall ▸ Page.resolve_flat hresolved) haction
    · exact Or.inl ⟨frame.finish_variableTypes ▸ hflat.1, hflat.2⟩
    · refine Or.inr ⟨?_, hmisfits.declares, hmisfits.differs⟩
      simpa [hlast] using hmisfits.last

/-- No type of a composed method is a list of lists. -/
structure Composition.IsFlat (frame : Frame) (ss : List Statement) (c : Composition) : Prop where
  returnType : c.returnType.IsFlat
  /-- The types of its statements. -/
  statements : ∀ b ∈ c.statements, b.returnType.IsFlat
  /-- The types of its variables, those in closures among them. -/
  variableTypes : ∀ t ∈ c.variableTypes, t.IsFlat
  /-- The types of what the statements of its predicates become. -/
  predicates : ∀ s ∈ ss, ∀ ps inner more, frame.composePredicate ps s.inner = .ok (inner, more) →
    ∀ b ∈ inner, b.returnType.IsFlat

/-- A method whose last statement has a type that it does not declare is refused. -/
theorem Frame.same_of_returnType {b : Built Expression} {t : ResultType}
    (hvalue : frame.requiresValue = true → frame.methodReturn = .unset)
    (hdeclares : frame.methodReturn.isUnset = false) (h : frame.returnType b = .ok t) :
    frame.methodReturn.same b.returnType = true := by
  have hrequires : ¬ frame.requiresValue = true := by
    intro hrequires
    rw [hvalue hrequires] at hdeclares
    exact absurd hdeclares (by simp [ResultType.isUnset])
  unfold Frame.returnType at h
  rw [if_neg hrequires, if_neg (by simp [hdeclares])] at h
  split_ifs at h with hsame
  exact hsame

/-- A composed method has a type of values in general, that of its last statement, or the one that it
declares. -/
theorem Frame.returnType_flat (hmethod : frame.methodReturn.IsFlat) {b : Built Expression} {t : ResultType}
    (hb : b.returnType.IsFlat) (h : frame.returnType b = .ok t) : t.IsFlat := by
  unfold Frame.returnType at h
  split_ifs at h
  · obtain rfl := Except.ok.inj h
    exact Nat.zero_le 1
  · obtain rfl := Except.ok.inj h
    exact hb
  · obtain rfl := Except.ok.inj h
    exact hmethod

/-- **No lists of lists in a composed method** that does not declare one. A method that has to return a
value declares no type. -/
theorem compose_flat {ss : List Statement} {c : Composition} (hmethod : frame.methodReturn.IsFlat)
    (hvalue : frame.requiresValue = true → frame.methodReturn = .unset)
    (h : compose frame ss = .ok c) : c.IsFlat frame ss := by
  obtain ⟨last, b, hwalk, hb, hreturn, -⟩ := compose_threaded h
  have hlength := hwalk.length_eq
  have hbuilt : ∀ b ∈ c.statements, (∀ t ∈ b.variableTypes, t.IsFlat) ∧ b.returnType.IsFlat := by
    intro b' hb'
    obtain ⟨i, hi, rfl⟩ := List.getElem_of_mem hb'
    obtain ⟨before, b'', after, hb'', hstep, -⟩ := hwalk.step_at (fun _ => True) trivial
      (fun _ _ => trivial) (List.getElem?_eq_getElem (hlength ▸ hi))
    obtain rfl : c.statements[i] = b'' := by simpa [hi] using hb''
    obtain hflat | ⟨hlast, hdeclares, hdiffers⟩ := hstep.flat hmethod
    · exact hflat
    · -- the last statement has the type that the method declares
      obtain rfl : b = c.statements[i] := by
        have hi' : c.statements.length - 1 = i := by omega
        rw [List.getLast?_eq_getElem?, hi'] at hb
        simpa [hi] using hb.symm
      exact absurd (Frame.same_of_returnType hvalue hdeclares hreturn) (by simp [hdiffers])
  exact {
    returnType := Frame.returnType_flat hmethod (hbuilt b (List.mem_of_getLast? hb)).2 hreturn
    statements := fun b hb => (hbuilt b hb).2
    variableTypes := by
      intro t ht
      obtain ⟨b, hb, ht⟩ := List.mem_flatMap.mp ht
      exact (hbuilt b hb).1 t ht
    predicates := fun s _ ps inner more hpredicate b hb =>
      (Frame.composePredicate_flat hmethod hpredicate b hb).2 }

/-! ## Page classes -/

namespace PageClass

variable {source : Source} {name package : String} {pc : PageClass} {m : ClassMethod}
  {ss : List Statement} {c : Composition}

/-- A generated method declares no list of lists, and no type at all where a value has to be returned. -/
theorem Composes.flat (h : Composes source name package m frame ss c) : c.IsFlat frame ss := by
  obtain ⟨-, -, -, hcompose, -⟩ := h.made
  obtain ⟨-, keyword?, all, hreturn⟩ := h.frame_made
  refine compose_flat (Page.resolve_flat hreturn).1 ?_ hcompose
  cases h with
  | method hload hpage hm hframe _ =>
    intro hrequires
    unfold frameOf at hframe
    split at hframe
    · obtain rfl := Except.ok.inj hframe
      exact absurd hrequires (by simp)
    · exact absurd hframe (by simp)
  | beforeLoad hload hpage _ => exact fun _ => rfl

theorem getters_flat (h : ofSource source name package = .ok pc) :
    ∀ g ∈ pc.elements, g.returnType.IsFlat := by
  obtain ⟨d, page, methods, beforeLoad, -, -, -, rfl⟩ := ofSource_eq_ok h
  intro g hg
  obtain ⟨element, -, rfl⟩ := List.mem_map.mp hg
  exact PageElement.returnType_flat

/-- **No lists of lists.** In a page class, the type of every getter, of every method with its body, and
of every statement is no list of a list. Neither are, in the composition that a method comes from, the types
of the variables that its code declares and those of the statements of its predicates. -/
theorem ofSource_flat (h : ofSource source name package = .ok pc) :
    (∀ g ∈ pc.elements, g.returnType.IsFlat) ∧
    ∀ m ∈ pc.allMethods,
      (m.signature.returnType.IsFlat ∧ m.body.returnType.IsFlat ∧
        ∀ e ∈ m.body.statements, e.returnType.IsFlat) ∧
      (∃ frame ss c, Composes source name package m frame ss c) ∧
      ∀ frame ss c, Composes source name package m frame ss c → m.body = c.body ∧ c.IsFlat frame ss := by
  refine ⟨getters_flat h, fun m hm => ?_⟩
  have hcomposes := ofSource_composes h m hm
  refine ⟨?_, hcomposes, fun frame ss c hc => ⟨?_, hc.flat⟩⟩
  · obtain ⟨frame, ss, c, hc⟩ := hcomposes
    obtain ⟨-, -, -, -, ⟨methodName, description, isPublic, rfl⟩, -⟩ := hc.made
    refine ⟨hc.flat.returnType, hc.flat.returnType, fun e he => ?_⟩
    obtain ⟨b, hb, rfl⟩ := List.mem_map.mp he
    exact hc.flat.statements b hb
  · obtain ⟨-, -, -, -, ⟨methodName, description, isPublic, rfl⟩, -⟩ := hc.made
    rfl

/-- A page object with a list of menus. Its method asks each for its titles, on the list itself and in a
chain on it; `declared` is the type of the method and not of the chained statement. -/
def menusSource (declared : Bool) : Source :=
  let titles : Fields := [("returnType", .text "string"), ("returnAll", .bool true)]
  .value (.object
    [("elements", .list [.object [("name", .text "menus"), ("type", .text "app/pageObjects/menu"),
      ("selector", .object [("css", .text "a"), ("returnAll", .bool true)])]]),
    ("methods", .list [.object ([("name", .text "titles"), ("compose", .list
      [.object ([("element", .text "menus"), ("apply", .text "titles")] ++ titles),
      .object [("element", .text "menus")],
      .object ([("apply", .text "titles"), ("chain", .bool true)] ++
        if declared then [] else titles)])] ++ if declared then titles else [])])])

theorem menusSource_flat : ∃ pc, ofSource (menusSource false) "Page" "" = .ok pc ∧
    (pc.allMethods.map fun m => m.body.statements.map fun e => e.returnType.simpleName) =
      [["List<String>", "List<Menu>", "List<String>"]] ∧
    (∀ g ∈ pc.elements, g.returnType.IsFlat) ∧
    ∀ m ∈ pc.allMethods,
      (m.signature.returnType.IsFlat ∧ m.body.returnType.IsFlat ∧
        ∀ e ∈ m.body.statements, e.returnType.IsFlat) ∧
      (∃ frame ss c, Composes (menusSource false) "Page" "" m frame ss c) ∧
      ∀ frame ss c, Composes (menusSource false) "Page" "" m frame ss c →
        m.body = c.body ∧ c.IsFlat frame ss := by
  have hok : (ofSource (menusSource false) "Page" "").toOption.any (fun pc =>
      decide ((pc.allMethods.map fun m => m.body.statements.map fun e => e.returnType.simpleName) =
        [["List<String>", "List<Menu>", "List<String>"]])) = true := by decide
  obtain ⟨pc, hpc, htypes⟩ := exists_eq_ok hok
  exact ⟨pc, hpc, of_decide_eq_true htypes, ofSource_flat hpc⟩

/-- Under the type of the method alone, the lists of the last statement are not joined. -/
example : ofSource (menusSource true) "Page" "" = .error ⟨"Page", .compose (.returnType "titles" 2
    (.list .string true) (.list (.list .string true) false))⟩ := by rfl

end PageClass
end PageObjects
