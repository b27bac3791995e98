import Mathlib.Logic.Function.Basic
import PageObjects.Proofs.Compose.Calls

/-!
# Names in the arguments of calls

A call on each value of a list is written as a function of one value, and the function calls its value
`element` whatever the method calls its parameters. So a parameter of the same name is out of reach in the
arguments of such a call: where the document asks for the value that the caller gives, the code has the
value of the list. Nothing refuses the name. Every other argument, and every argument of a call on a single
value, stands for what the caller gives.

* `Call.scope`: what the names in the arguments of a call stand for.
* `Call.Captures`: the operands that the function hides; `Call.faithful_iff`: a call without such operands
  takes what the caller gives.
* `Frame.Passes`: a call and the arguments of its statement.
* **`PageClass.ofSource_passes`**: in every method of a page class, a call takes what the caller gives,
  unless it is made on each value of a list with a parameter called `element`.
* `PageClass.fieldsSource_captured`: a parameter of that name is captured.
-/

namespace PageObjects

/-- What an operand stands for: a constant for itself, a parameter for what its name stands for. -/
def Operand.denote {α : Type} (scope : String → α) : Operand → Literal ⊕ α
  | .literal value => .inl value
  | .parameter p => .inr (scope p.name)

namespace Call

variable {c : Call} {o : Operand}

/-- What the names in the arguments of the call stand for, when they stand for `outer` in the method and
the call is made on `value`: inside a function, its own name stands for the value that it is given. -/
def scope {α : Type} (c : Call) (outer : String → α) (value : α) : String → α :=
  if c.spread = .single then outer else Function.update outer elementName value

/-- The operand is a parameter that the function of the call hides. -/
def Captures (c : Call) (o : Operand) : Prop :=
  c.spread ≠ .single ∧ ∃ t, o = .parameter ⟨elementName, t⟩

/-- A parameter that is hidden stands for the value of the list. -/
theorem Captures.denote_eq (h : c.Captures o) {α : Type} (outer : String → α) (value : α) :
    o.denote (c.scope outer value) = .inr value := by
  obtain ⟨hspread, t, rfl⟩ := h
  rw [scope, if_neg hspread, Operand.denote, Function.update_self]

/-- An operand that is not hidden stands for what it stands for in the method. -/
theorem denote_scope_of_not_captures (h : ¬ c.Captures o) {α : Type} (outer : String → α) (value : α) :
    o.denote (c.scope outer value) = o.denote outer := by
  cases o with
  | literal constant => rfl
  | parameter p =>
    unfold scope
    split
    · rfl
    · rename_i hspread
      have hname : p.name ≠ elementName := fun hname => h ⟨hspread, p.type, by rw [← hname]⟩
      rw [Operand.denote, Operand.denote, Function.update_of_ne hname]

/-- Every argument of the call stands for what the caller gives, whatever that is. -/
def Faithful (c : Call) : Prop :=
  ∀ {α : Type} (outer : String → α) (value : α),
    c.operands.map (Operand.denote (c.scope outer value)) = c.operands.map (Operand.denote outer)

/-- A call is faithful exactly when it hides none of its parameters. -/
theorem faithful_iff : c.Faithful ↔ ∀ o ∈ c.operands, ¬ c.Captures o := by
  constructor
  · intro hfaithful o ho hcaptures
    -- a caller who gives another value than that of the list tells the two apart
    have hequal := List.map_inj_left.mp (hfaithful (fun _ => false) true) o ho
    rw [hcaptures.denote_eq] at hequal
    obtain ⟨-, t, rfl⟩ := hcaptures
    exact absurd (Sum.inr.inj hequal) (by simp)
  · intro hfree α outer value
    exact List.map_inj_left.mpr fun o ho => denote_scope_of_not_captures (hfree o ho) outer value

end Call

/-- The call of a caller in a method, and what its arguments stand for. -/
structure Frame.Passes (frame : Frame) (m : ClassMethod) (caller : Caller) (call : Call) : Prop where
  /-- It is the call of the caller, and stands in the method's code. -/
  calls : frame.Calls caller call
  shown : ∃ line ∈ m.body.codeLines, Shows line call.text
  /-- It is written on a single value, or in a function that gives a name to each value of a list. -/
  single : call.spread = .single → call.text = call.receiver ++ "." ++ call.invocation
  function : call.spread ≠ .single →
    Shows call.text (Call.elementName ++ " -> " ++ Call.elementName ++ "." ++ call.invocation)
  /-- It takes what the caller gives, unless it is made on each value of a list and one of the arguments is
  a parameter with the name that the code gives to the values. -/
  faithful : call.Faithful ↔
    call.spread = .single ∨ ∀ keyword, .parameter Call.elementName keyword ∉ caller.statement.args
  /-- Such an argument stands for the value of the list. -/
  captured : ∀ o ∈ call.operands, call.Captures o →
    ∀ {α : Type} (outer : String → α) (value : α), o.denote (call.scope outer value) = .inr value
  /-- Every other argument stands for what the caller gives. -/
  given : ∀ o ∈ call.operands, ¬ call.Captures o →
    ∀ {α : Type} (outer : String → α) (value : α), o.denote (call.scope outer value) = o.denote outer

variable {frame : Frame} {caller : Caller} {call : Call}

theorem Frame.Calls.renders (h : frame.Calls caller call) :
    Renders caller.statement.args call.operands := by
  cases h with
  | mk haction htarget hoperands hspread hcatalog => exact hoperands

/-- Which calls are faithful is told by the arguments of their statements. -/
theorem Frame.Calls.faithful_iff (h : frame.Calls caller call) : call.Faithful ↔
    call.spread = .single ∨ ∀ keyword, .parameter Call.elementName keyword ∉ caller.statement.args := by
  rw [Call.faithful_iff, or_iff_not_imp_left]
  constructor
  · intro hfree hspread keyword hargument
    obtain ⟨p, hp, hname, -⟩ := h.renders.occurs hargument
    obtain ⟨o, ho, hparameter⟩ := List.mem_filterMap.mp hp
    cases o with
    | literal constant => exact absurd hparameter (by simp [Operand.parameter?])
    | parameter q =>
      obtain rfl := Option.some.inj hparameter
      exact hfree _ ho ⟨hspread, q.type, by rw [← hname]⟩
  · rintro hfree o ho ⟨hspread, t, rfl⟩
    obtain ⟨a, ha, hoperand⟩ := h.renders.exists_argument ho
    obtain ⟨-, keyword, rfl, -⟩ := Operand.ofArgument_parameter hoperand
    exact hfree hspread keyword ha

namespace PageClass

variable {source : Source} {name package : String} {pc : PageClass}

/-- **What calls take.** In every method of a page class, each call takes what the caller of the method
gives, unless it is made on each value of a list and takes a parameter with the name that the code gives to
the values of lists. -/
theorem ofSource_passes (h : ofSource source name package = .ok pc) : ∀ m ∈ pc.allMethods,
    (∃ frame ss c, Composes source name package m frame ss c) ∧
    ∀ frame ss c, Composes source name package m frame ss c →
      m.body = c.body ∧ List.Forall₂ (frame.Passes m) (c.callers ss) c.calls := by
  refine fun m hm => ⟨ofSource_composes h m hm, fun frame ss c hc => ?_⟩
  obtain ⟨-, -, -, hcompose, ⟨methodName, description, isPublic, rfl⟩, -⟩ := hc.made
  refine ⟨rfl, List.forall₂_iff_get.mpr ⟨(compose_calls hcompose).length_eq, ?_⟩⟩
  intro i hi hi'
  have hcalls := (compose_calls hcompose).get hi hi'
  exact {
    calls := hcalls
    shown := Composition.calls_shown (List.get_mem ..)
    single := Call.text_of_single
    function := Call.text_shows_function
    faithful := hcalls.faithful_iff
    captured := fun o _ hcaptured => hcaptured.denote_eq
    given := fun o _ hfree => Call.denote_scope_of_not_captures hfree }

/-- A page object with a list of fields. Its method types a text into each, and the text is a parameter of
the given name. -/
def fieldsSource (parameter : String) : Source :=
  .value (.object
    [("elements", .list [.object [("name", .text "fields"), ("type", .list [.text "editable"]),
      ("selector", .object [("css", .text "a"), ("returnAll", .bool true)])]]),
    ("methods", .list [.object [("name", .text "fill"), ("compose", .list
      [.object [("element", .text "fields"), ("apply", .text "setText"),
        ("args", .list [.object [("name", .text parameter), ("type", .text "string")]])]])]])])

theorem fieldsSource_passes : ∃ pc, ofSource (fieldsSource "text") "Form" "" = .ok pc ∧
    (pc.allMethods.map fun m => (m.signature.code, m.body.codeLines)) =
      [("void fill(String text)", ["List<FieldsElement> fields0 = this.getFieldsElement()",
        "fields0.forEach(element -> element.setText(text))"])] ∧
    ∀ m ∈ pc.allMethods, (∃ frame ss c, Composes (fieldsSource "text") "Form" "" m frame ss c) ∧
      ∀ frame ss c, Composes (fieldsSource "text") "Form" "" m frame ss c →
        m.body = c.body ∧ List.Forall₂ (frame.Passes m) (c.callers ss) c.calls := by
  have hok : (ofSource (fieldsSource "text") "Form" "").toOption.any (fun pc =>
      decide ((pc.allMethods.map fun m => (m.signature.code, m.body.codeLines)) =
        [("void fill(String text)", ["List<FieldsElement> fields0 = this.getFieldsElement()",
          "fields0.forEach(element -> element.setText(text))"])])) = true := by decide +kernel
  obtain ⟨pc, hpc, hlines⟩ := exists_eq_ok hok
  exact ⟨pc, hpc, of_decide_eq_true hlines, ofSource_passes hpc⟩

/-- The call in the method of that page object, when the parameter is called `element`. -/
def fieldsCall : Call := ⟨"fields0", "setText", [.parameter ⟨"element", .string⟩], .forEach⟩

/-- **A parameter is captured** when it is called like the values of a list: the method takes a text, and
types every field into itself. -/
theorem fieldsSource_captured : ∃ pc, ofSource (fieldsSource "element") "Form" "" = .ok pc ∧
    (pc.allMethods.map fun m => (m.signature.code, m.body.codeLines)) =
      [("void fill(String element)", ["List<FieldsElement> fields0 = this.getFieldsElement()",
        "fields0.forEach(element -> element.setText(element))"])] ∧
    ∀ m ∈ pc.allMethods, ∀ frame ss c, Composes (fieldsSource "element") "Form" "" m frame ss c →
      ∃ call ∈ c.calls, call.text = "fields0.forEach(element -> element.setText(element))" ∧
        (∃ o ∈ call.operands, call.Captures o) ∧ ¬ call.Faithful := by
  have hok : (ofSource (fieldsSource "element") "Form" "").toOption.any (fun pc =>
      decide ((pc.allMethods.map fun m => (m.signature.code, m.body.codeLines)) =
        [("void fill(String element)", ["List<FieldsElement> fields0 = this.getFieldsElement()",
          "fields0.forEach(element -> element.setText(element))"])])) = true := by decide +kernel
  have hall : composedAll (fun c => decide (c.calls = [fieldsCall])) (fieldsSource "element") "Form" "" =
      true := by decide +kernel
  obtain ⟨pc, hpc, hlines⟩ := exists_eq_ok hok
  refine ⟨pc, hpc, of_decide_eq_true hlines, fun m hm frame ss c hc => ?_⟩
  have hcalls := hc.of_all hall
  rw [of_decide_eq_true hcalls]
  have hcaptures : fieldsCall.Captures (.parameter ⟨"element", .string⟩) := ⟨nofun, _, rfl⟩
  exact ⟨fieldsCall, List.mem_singleton_self _, by decide, ⟨_, List.mem_singleton_self _, hcaptures⟩,
    fun hfaithful => Call.faithful_iff.mp hfaithful _ (List.mem_singleton_self _) hcaptures⟩

end PageClass
end PageObjects
