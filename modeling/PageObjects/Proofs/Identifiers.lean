import PageObjects.Proofs.Compose.Calls
import PageObjects.Proofs.Document.Grammar
import PageObjects.Proofs.Text.Identifier

/-!
# Names that reach the code

A document gives names to its elements and methods, to the actions that it calls and to the parameters of
its methods, and all of them stand in the code as they are. The grammar asks the names of elements and of
methods to be identifiers, and an action of a catalog has one for a name. The name of an action on a page
object and the name of a parameter are looked at by nobody: whatever text a document gives there becomes part
of the code.

* `Composition.invoked`: the names by which the code of a method calls others, as far as they come from
  a document.
* `Composition.Unchecked`: the names that are looked at by nobody.
* `Composition.Names`: the names in a generated method, and which of them are identifiers.
* **`PageClass.ofSource_names`**: in every method of a page class, the names are identifiers exactly when the
  unchecked ones are.
* `PageClass.openSource_breaks`: unchecked names bring calls, parameters and line breaks of their own.
-/

namespace PageObjects

/-! ## Elements and actions -/

theorem PageElement.isIdentifier_getter {e : Element} {element : PageElement}
    (hchecked : e.check = .ok e) (h : PageElement.ofDeclaration e = .ok element) :
    Text.isIdentifier element.getter = true := by
  obtain ⟨hreference, hbasic⟩ := Text.isIdentifier_getter (Element.isIdentifier_of_check hchecked)
  cases PageElement.ofDeclaration_declares h with
  | pageObject hkind htype => exact hreference
  | basic hkind => exact hbasic

/-- The getters of a made page have identifiers as names. -/
theorem Page.Made.isIdentifier_getter {p : Page} (h : p.Made) :
    ∀ element ∈ p.elements, Text.isIdentifier element.getter = true :=
  h.forall_mem (fun _ _ => (by decide : Text.isIdentifier "getRootElement" = true))
    fun _ _ => PageElement.isIdentifier_getter

theorem Action.isIdentifier_name : (∀ entry ∈ catalog, ∀ action ∈ entry.2,
    Text.isIdentifier action.name = true) ∧
    ∀ action ∈ documentActions, Text.isIdentifier action.name = true := by
  constructor <;> decide

/-- An action of a catalog has an identifier as its name. -/
theorem Receiver.isIdentifier_of_action {r : Receiver} {name : String} {action : Action}
    (h : r.action? name = some action) : Text.isIdentifier name = true := by
  obtain ⟨hcatalog, hdocument⟩ := Action.isIdentifier_name
  have hfound : ∀ actions : List Action, (∀ action ∈ actions, Text.isIdentifier action.name = true) →
      actions.find? (·.name == name) = some action → Text.isIdentifier name = true := by
    intro actions hnames hfind
    obtain rfl : action.name = name := by simpa using List.find?_some hfind
    exact hnames action (List.mem_of_find?_eq_some hfind)
  cases r with
  | page => exact absurd h (by simp [Receiver.action?])
  | document => exact hfound _ hdocument h
  | value variableName element type isList isChain =>
    obtain ⟨interfaces, -, hfind⟩ := Option.bind_eq_some_iff.mp h
    obtain ⟨interface, -, hfind⟩ := List.exists_of_findSome?_eq_some hfind
    refine hfound _ ?_ hfind
    unfold Action.declaredBy
    cases hlookup : Action.catalog.lookup interface with
    | none => simp
    | some actions => exact hcatalog (interface, actions) (mem_of_lookup hlookup)

/-! ## Names in the code of a method -/

/-- The names by which the code of a method calls others: those of getters, and those of actions. The few
names that the code brings itself, as `forEach`, are not among them. -/
def Composition.invoked (c : Composition) : List String := c.getters ++ c.calls.map Call.action

/-- The names in a method of a document that are looked at by nobody: those of actions that are called on
page objects, and those of parameters. -/
inductive Composition.Unchecked (c : Composition) (frame : Frame) (ss : List Statement) (name : String) :
    Prop
  | action {caller : Caller} {r : Receiver} (hcaller : caller ∈ c.callers ss)
      (haction : caller.statement.action = some name)
      (htarget : frame.Targets caller.index caller.inPredicate caller.previous caller.statement r)
      (hcatalog : r.hasCatalog = false) : Unchecked c frame ss name
  | parameter {keyword : String} (hargument : .parameter name keyword ∈ ss.flatMap Statement.arguments) :
      Unchecked c frame ss name

/-- The names in a generated method. -/
structure Composition.Names (c : Composition) (frame : Frame) (ss : List Statement) (m : ClassMethod) :
    Prop where
  /-- The method itself and the getters that it calls are called by identifiers. -/
  head : Text.isIdentifier m.signature.name = true
  getters : ∀ name ∈ c.getters, Text.isIdentifier name = true
  /-- Every name stands in the code as it is. -/
  invoked : ∀ name ∈ c.invoked, ∃ line ∈ m.body.codeLines, Shows line ("." ++ name ++ "(")
  declared : ∀ p ∈ m.signature.parameters, Shows m.signature.code (p.type.simpleName ++ " " ++ p.name)
  /-- The names that are looked at by nobody are among them, and all others are identifiers. -/
  unchecked : ∀ name, c.Unchecked frame ss name →
    name ∈ c.invoked ++ m.signature.parameters.map Parameter.name
  checked : ∀ name ∈ c.invoked ++ m.signature.parameters.map Parameter.name,
    Text.isIdentifier name = true ∨ c.Unchecked frame ss name
  /-- So all of them are identifiers exactly when these are. -/
  identifiers : (∀ name ∈ c.invoked ++ m.signature.parameters.map Parameter.name,
      Text.isIdentifier name = true) ↔ ∀ name, c.Unchecked frame ss name → Text.isIdentifier name = true

variable {frame : Frame} {site : Site} {s : Statement} {lookups : Lookups} {name : String}

/-! ### Getters -/

theorem Frame.Addresses.getter_mem {r : Receiver} {lines : List (Line Simple)} {after : Lookups}
    (h : frame.Addresses site lookups s r lines after) :
    ∀ g ∈ (lines.filterMap Line.value?).flatMap Simple.getters,
      ∃ element ∈ frame.page.elements, element.getter = g := by
  cases h with
  | chain hchain hchains => intro g hg; exact absurd hg (by simp)
  | element hchain hfinds =>
    cases hfinds with
    | @fresh name element hname helement hfree =>
      intro g hg
      obtain rfl : g = element.getter := by simpa [Line.value?, Simple.getters] using hg
      exact ⟨element, List.mem_of_find?_eq_some helement, rfl⟩
    | _ => intro g hg; exact absurd hg (by simp)

/-- The getters that a composed action calls are those of elements of the page. -/
theorem Frame.Acts.getter_mem {b : Built Simple} {after : Lookups} {ps : List Parameter}
    (h : frame.Acts site lookups s b after ps) : ∀ g ∈ b.values.flatMap Simple.getters,
      ∃ element ∈ frame.page.elements, element.getter = g := by
  obtain ⟨-, hreaches, hevaluates, hyields⟩ := h
  rw [hyields.values_append, List.flatMap_append, List.forall_mem_append]
  constructor
  · cases hreaches with
    | nothing haction => intro g hg; exact absurd hg (by simp)
    | receiver haction haddresses => exact haddresses.getter_mem
  · cases hevaluates with
    | @getter element haction helement hfits =>
      intro g hg
      obtain rfl : g = element.getter := by simpa [Simple.getters] using hg
      exact ⟨element, List.mem_of_find?_eq_some helement, rfl⟩
    | call haction hof hoperands => intro g hg; exact absurd hg (by simp [Simple.getters])

theorem Frame.MethodStep.getter_mem {count index : Nat} {before after : Trail} {rest : List Statement}
    {b : Built Expression} (h : frame.MethodStep count index before s rest b after) :
    ∀ g ∈ b.values.flatMap Expression.getters, ∃ element ∈ frame.page.elements, element.getter = g := by
  obtain ⟨site, -, hstep⟩ := h
  obtain ⟨-, b', hwaits, rfl⟩ | ⟨-, b', hstep', rfl⟩ := Frame.composeStatement_cases hstep
  · cases hwaits with
    | @mk inner ps b hinner hpredicate hyields =>
      obtain ⟨last, hwalk, -⟩ := Frame.composePredicate_threaded hpredicate
      have hinside : ∀ b ∈ inner, ∀ g ∈ b.values.flatMap Simple.getters,
          ∃ element ∈ frame.page.elements, element.getter = g := by
        refine hwalk.forall_mem (fun _ => True) trivial ?_
        rintro i before s rest b after - hstep
        obtain ⟨site, more, -, hacts, -⟩ := hstep.acts
        exact ⟨hacts.getter_mem, trivial⟩
      rw [Frame.finish_values, hyields.values_eq, List.flatMap_singleton, Expression.getters,
        List.filterMap_flatMap, List.flatMap_assoc]
      intro g hg
      obtain ⟨b'', hb'', hg⟩ := List.mem_flatMap.mp hg
      exact hinside b'' hb'' g hg
  · obtain ⟨more, hacts, -⟩ := Frame.stepAction_acts hstep'
    rw [Frame.finish_values, Built.values_map, List.flatMap_map]
    exact hacts.getter_mem

/-- The getters that a composed method calls are those of elements of the page. -/
theorem compose_getter_mem {ss : List Statement} {c : Composition} (h : compose frame ss = .ok c) :
    ∀ g ∈ c.getters, ∃ element ∈ frame.page.elements, element.getter = g := by
  obtain ⟨last, -, hwalk, -⟩ := compose_threaded h
  intro g hg
  obtain ⟨b, hb, hg⟩ := List.mem_flatMap.mp hg
  refine hwalk.forall_mem (fun _ => True) (P := fun b => ∀ g ∈ b.values.flatMap Expression.getters,
    ∃ element ∈ frame.page.elements, element.getter = g) trivial ?_ b hb g hg
  exact fun _ hstep => ⟨hstep.getter_mem, trivial⟩

/-! ### Actions and parameters -/

/-- A call has the name of its caller's action. It is an identifier where the action is one of a catalog. -/
theorem Frame.Calls.named {caller : Caller} {call : Call} (h : frame.Calls caller call) :
    caller.statement.action = some call.action ∧ (Text.isIdentifier call.action = true ∨
      ∃ r, frame.Targets caller.index caller.inPredicate caller.previous caller.statement r ∧
        r.hasCatalog = false) := by
  cases h with
  | @mk r name operands spread haction htarget hoperands hspread hcatalog =>
    refine ⟨haction, ?_⟩
    cases hfree : r.hasCatalog with
    | true =>
      obtain ⟨action, hfound⟩ := hcatalog hfree
      exact Or.inl (Receiver.isIdentifier_of_action hfound)
    | false => exact Or.inr ⟨r, htarget, hfree⟩

/-- The names of calls are those of the callers' actions, and identifiers unless nobody looks at them. -/
theorem compose_called {ss : List Statement} {c : Composition} (h : compose frame ss = .ok c) :
    (∀ call ∈ c.calls, Text.isIdentifier call.action = true ∨ c.Unchecked frame ss call.action) ∧
    ∀ caller ∈ c.callers ss, ∀ name, caller.statement.action = some name →
      name ∈ c.calls.map Call.action := by
  have hcalls := compose_calls h
  constructor
  · intro call hcall
    obtain ⟨caller, hcaller, hmade⟩ := exists_of_mem_forall₂ hcalls call hcall
    obtain ⟨haction, hidentifier | ⟨r, htarget, hfree⟩⟩ := hmade.named
    · exact Or.inl hidentifier
    · exact Or.inr (.action hcaller haction htarget hfree)
  · intro caller hcaller name haction
    obtain ⟨call, hcall, hmade⟩ := exists_of_mem_forall₂ hcalls.flip caller hcaller
    obtain rfl := Option.some.inj (hmade.named.1.symm.trans haction)
    exact List.mem_map_of_mem hcall

/-- The parameters of a method are called as the arguments of its statements are. -/
theorem compose_parameter_name {ss : List Statement} {c : Composition}
    (h : compose frame ss = .ok c) : name ∈ c.parameters.map Parameter.name ↔
      ∃ keyword, .parameter name keyword ∈ ss.flatMap Statement.arguments := by
  obtain ⟨hrendered, hgathered⟩ := compose_gathered h
  constructor
  · intro hname
    obtain ⟨p, hp, rfl⟩ := List.mem_map.mp hname
    obtain ⟨o, ho, hparameter⟩ := List.mem_filterMap.mp (hgathered.mem_iff.mp hp)
    cases o with
    | literal value => exact absurd hparameter (by simp [Operand.parameter?])
    | parameter q =>
      obtain rfl := Option.some.inj hparameter
      obtain ⟨a, ha, hoperand⟩ := hrendered.exists_argument ho
      obtain ⟨-, keyword, rfl, -⟩ := Operand.ofArgument_parameter hoperand
      exact ⟨keyword, ha⟩
  · rintro ⟨keyword, hargument⟩
    obtain ⟨p, hp, hname, -⟩ := hrendered.occurs hargument
    exact List.mem_map.mpr ⟨p, hgathered.mem_iff.mpr hp, hname⟩

/-- The names that are looked at by nobody are among those of the method. -/
theorem Composition.Unchecked.mem {ss : List Statement} {c : Composition}
    (hcompose : compose frame ss = .ok c) (h : c.Unchecked frame ss name) :
    name ∈ c.invoked ++ c.parameters.map Parameter.name := by
  cases h with
  | action hcaller haction htarget hcatalog =>
    have hcalled := (compose_called hcompose).2 _ hcaller _ haction
    exact List.mem_append_left _ (List.mem_append_right _ hcalled)
  | parameter hargument =>
    exact List.mem_append_right _ ((compose_parameter_name hcompose).mpr ⟨_, hargument⟩)

/-- Every other name of the method is that of a getter, or an identifier. -/
theorem compose_checked {ss : List Statement} {c : Composition} (h : compose frame ss = .ok c) :
    ∀ name ∈ c.invoked ++ c.parameters.map Parameter.name,
      name ∈ c.getters ∨ Text.isIdentifier name = true ∨ c.Unchecked frame ss name := by
  intro name hname
  rcases List.mem_append.mp hname with hinvoked | hparameter
  · rcases List.mem_append.mp hinvoked with hgetter | haction
    · exact Or.inl hgetter
    · obtain ⟨call, hcall, rfl⟩ := List.mem_map.mp haction
      exact Or.inr ((compose_called h).1 call hcall)
  · obtain ⟨keyword, hargument⟩ := (compose_parameter_name h).mp hparameter
    exact Or.inr (Or.inr (.parameter hargument))

/-! ### Names in lines -/

/-- An expression shows the name by which it calls another. -/
theorem Simple.text_shows_name {part : Simple}
    (h : name ∈ part.getters ++ part.calls.map Call.action) : Shows part.text ("." ++ name ++ "(") := by
  cases part with
  | getter getter =>
    obtain rfl : name = getter := by simpa [Simple.getters, Simple.calls] using h
    have hfront : "this." = "this" ++ "." := by decide
    have hback : "()" = "(" ++ ")" := by decide
    exact ⟨"this", ")", by simp only [text, hfront, hback, String.append_assoc]⟩
  | call call =>
    obtain rfl : name = call.action := by simpa [Simple.getters, Simple.calls] using h
    refine (Call.text_shows_invocation call).trans ⟨"", Operand.codeOfList call.operands ++ ")", ?_⟩
    simp only [Call.invocation, String.append_assoc, String.empty_append]

/-- Every name by which a method calls others stands in a line of its code. -/
theorem Composition.invoked_shown {c : Composition} (h : name ∈ c.invoked) :
    ∃ line ∈ c.body.codeLines, Shows line ("." ++ name ++ "(") := by
  have hpart : ∃ part ∈ c.parts, name ∈ part.getters ++ part.calls.map Call.action := by
    rcases List.mem_append.mp h with hgetter | haction
    · rw [Composition.getters_eq] at hgetter
      obtain ⟨part, hpart, hname⟩ := List.mem_flatMap.mp hgetter
      exact ⟨part, hpart, List.mem_append_left _ hname⟩
    · obtain ⟨call, hcall, rfl⟩ := List.mem_map.mp haction
      obtain ⟨part, hpart, hcall⟩ := List.mem_flatMap.mp hcall
      exact ⟨part, hpart, List.mem_append_right _ (List.mem_map_of_mem hcall)⟩
  obtain ⟨part, hpart, hname⟩ := hpart
  obtain ⟨line, hline, hshows⟩ := Composition.parts_shown hpart
  exact ⟨line, hline, hshows.trans (Simple.text_shows_name hname)⟩

/-- The head of a method shows its parameters with their types. -/
theorem Signature.code_shows {signature : Signature} {p : Parameter} (h : p ∈ signature.parameters) :
    Shows signature.code (p.type.simpleName ++ " " ++ p.name) := by
  have hparameter : Shows (", ".intercalate (signature.parameters.map Parameter.declaration))
      p.declaration := .intercalate (List.mem_map_of_mem h)
  exact (hparameter.left _).right _

/-! ## Page classes -/

namespace PageClass

variable {source : Source} {package : String} {pc : PageClass}

/-- A generated method is called by an identifier. -/
theorem Composes.isIdentifier_name {m : ClassMethod} {ss : List Statement} {c : Composition}
    (h : Composes source name package m frame ss c) : Text.isIdentifier m.signature.name = true := by
  cases h with
  | method hload hpage hm hframe hcompose =>
    exact ((Document.load_keepsRules hload).methods _ hm).identifier
  | beforeLoad hload hpage hcompose => exact (by decide : Text.isIdentifier beforeLoadName = true)

/-- **Names in page classes.** In every method of a page class, the names by which methods are called and
those of the parameters are the document's own. They are identifiers exactly when the document's actions
on page objects and its parameters are called by identifiers; the names of all others are checked. -/
theorem ofSource_names (h : ofSource source name package = .ok pc) : ∀ m ∈ pc.allMethods,
    (∃ frame ss c, Composes source name package m frame ss c) ∧
    ∀ frame ss c, Composes source name package m frame ss c →
      m.body = c.body ∧ c.Names frame ss m := by
  refine fun m hm => ⟨ofSource_composes h m hm, fun frame ss c hc => ?_⟩
  have hhead := hc.isIdentifier_name
  obtain ⟨-, -, -, hcompose, ⟨methodName, description, isPublic, rfl⟩, -⟩ := hc.made
  have hgetters : ∀ g ∈ c.getters, Text.isIdentifier g = true := by
    intro g hg
    obtain ⟨element, helement, rfl⟩ := compose_getter_mem hcompose g hg
    obtain ⟨hmade, -⟩ := hc.frame_made
    exact hmade.isIdentifier_getter element helement
  have hchecked : ∀ name ∈ c.invoked ++ c.parameters.map Parameter.name,
      Text.isIdentifier name = true ∨ c.Unchecked frame ss name := by
    intro name hname
    rcases compose_checked hcompose name hname with hgetter | hidentifier | hunchecked
    · exact Or.inl (hgetters name hgetter)
    · exact Or.inl hidentifier
    · exact Or.inr hunchecked
  refine ⟨rfl, {
    head := hhead
    getters := hgetters
    invoked := fun name hname => Composition.invoked_shown hname
    declared := fun p hp => Signature.code_shows hp
    unchecked := fun name hname => hname.mem hcompose
    checked := hchecked
    identifiers := ⟨fun hall name hname => hall name (hname.mem hcompose), fun hall name hname =>
      (hchecked name hname).elim id (hall name)⟩ }⟩

/-- A page object with one method. It calls an action of the given name on the page object, for a parameter of
the given name. -/
def openSource (action parameter : String) : Source :=
  .value (.object
    [("methods", .list [.object [("name", .text "go"), ("compose", .list
      [.object [("apply", .text action), ("args", .list
        [.object [("name", .text parameter), ("type", .text "string")]])]])]])])

theorem openSource_names : ∃ pc, ofSource (openSource "openTab" "title") "Page" "" = .ok pc ∧
    (pc.allMethods.map fun m => (m.signature.code, m.body.codeLines)) =
      [("void go(String title)", ["this.openTab(title)"])] ∧
    ∀ m ∈ pc.allMethods, (∃ frame ss c, Composes (openSource "openTab" "title") "Page" "" m frame ss c) ∧
      ∀ frame ss c, Composes (openSource "openTab" "title") "Page" "" m frame ss c →
        m.body = c.body ∧ c.Names frame ss m := by
  have hok : (ofSource (openSource "openTab" "title") "Page" "").toOption.any (fun pc =>
      decide ((pc.allMethods.map fun m => (m.signature.code, m.body.codeLines)) =
        [("void go(String title)", ["this.openTab(title)"])])) = true := by decide +kernel
  obtain ⟨pc, hpc, hcode⟩ := exists_eq_ok hok
  exact ⟨pc, hpc, of_decide_eq_true hcode, ofSource_names hpc⟩

/-- **Names break out of the code.** An action and a parameter with signs and a line break in their names give
the method a second call on a line of its own, and a second parameter. -/
theorem openSource_breaks : ∃ pc,
    ofSource (openSource "open();\nthis.close" "title, int depth") "Page" "" = .ok pc ∧
    (pc.allMethods.map fun m => (m.signature.code, m.body.codeLines)) =
      [("void go(String title, int depth)", ["this.open();\nthis.close(title, int depth)"])] ∧
    ∀ m ∈ pc.allMethods, ∀ frame ss c,
      Composes (openSource "open();\nthis.close" "title, int depth") "Page" "" m frame ss c →
        (∃ name ∈ c.invoked, Text.isIdentifier name = false) ∧
        ∃ p ∈ m.signature.parameters, Text.isIdentifier p.name = false := by
  have hok : (ofSource (openSource "open();\nthis.close" "title, int depth") "Page" "").toOption.any
      (fun pc => decide ((pc.allMethods.map fun m => (m.signature.code, m.body.codeLines)) =
        [("void go(String title, int depth)", ["this.open();\nthis.close(title, int depth)"])])) = true := by
    decide +kernel
  have hall : composedAll (fun c => decide (c.invoked = ["open();\nthis.close"] ∧
      c.parameters = [⟨"title, int depth", .string⟩]))
      (openSource "open();\nthis.close" "title, int depth") "Page" "" = true := by decide +kernel
  obtain ⟨pc, hpc, hcode⟩ := exists_eq_ok hok
  refine ⟨pc, hpc, of_decide_eq_true hcode, fun m hm frame ss c hc => ?_⟩
  have hnames := hc.of_all hall
  obtain ⟨hinvoked, hparameters⟩ := of_decide_eq_true hnames
  obtain ⟨-, -, -, -, ⟨methodName, description, isPublic, rfl⟩, -⟩ := hc.made
  have hsignature : (methodOf methodName description isPublic c).signature.parameters =
      [⟨"title, int depth", .string⟩] := hparameters
  rw [hinvoked, hsignature]
  exact ⟨⟨_, List.mem_singleton_self _, by decide⟩, ⟨_, List.mem_singleton_self _, by decide⟩⟩

end PageClass
end PageObjects
