import Mathlib.Data.List.Forall2
import PageObjects.Proofs.BeforeLoad
import PageObjects.Proofs.Compose.Spread

/-!
# The calls of a method

The calls in the code of a method, those of its closures included, are those of its statements: one for each
statement that calls an action, in the same order, with the operands that the statement's arguments become.
What is proved of the call of one statement so holds of every call that is generated.

* `Composition.parts`, `Composition.calls`: the simple expressions and the calls in the code of a method.
* `Caller`, `Composition.callers`: the statements that they come from, and where these stand.
* `Frame.Calls`: what the call of a statement is.
* **`compose_calls`**: the calls of a composed method are those of its statements, one for one.
* `Call.text_shows_function`: how a call on each value of a list is written.
* `Composition.parts_shown`, `Composition.calls_shown`: these stand in lines of the code.
-/

namespace PageObjects

/-! ## Calls and their statements -/

/-- The calls in an expression. -/
def Simple.calls : Simple → List Call
  | .getter _ => []
  | .call c => [c]

/-- The simple expressions in an expression: itself, or those of the lines of its closure. -/
def Expression.parts : Expression → List Simple
  | .simple value => [value]
  | .wait closure _ => closure.filterMap Line.value?

/-- The simple expressions that a statement evaluates. -/
def Built.parts (b : Built Expression) : List Simple := b.values.flatMap Expression.parts

/-- The simple expressions that the code of a method evaluates, from the front. -/
def Composition.parts (c : Composition) : List Simple := c.statements.flatMap Built.parts

/-- The calls in the code of a method, from the front. -/
def Composition.calls (c : Composition) : List Call := c.parts.flatMap Simple.calls

/-- The getters that a method calls are those of its simple expressions, too. -/
theorem Composition.getters_eq (c : Composition) : c.getters = c.parts.flatMap Simple.getters := by
  unfold getters parts Built.parts
  rw [List.flatMap_assoc]
  refine congrArg (c.statements.flatMap ·) (funext fun b => ?_)
  rw [List.flatMap_assoc]
  refine congrArg (b.values.flatMap ·) (funext fun value => ?_)
  cases value with
  | simple value => exact (List.flatMap_singleton ..).symm
  | wait closure result => rfl

/-- A statement that calls an action, and where it stands: its index among the statements of the method or of
the predicate, and the type of the value before it. No value is before a statement of a predicate. -/
structure Caller where
  statement : Statement
  index : Nat
  inPredicate : Bool
  previous : Option ResultType

/-- The caller that a statement is, when it has an action. -/
def Statement.caller (s : Statement) (index : Nat) (inPredicate : Bool) (previous : Option ResultType) :
    List Caller :=
  if s.action.isSome then [⟨s, index, inPredicate, previous⟩] else []

/-- The callers of a statement of a method: the statement itself, or those of its predicate if it is a
wait. -/
def Statement.callers (s : Statement) (index : Nat) (previous : Option ResultType) : List Caller :=
  if s.isWait then (s.inner.mapIdx fun k t => t.caller k true none).flatten
  else s.caller index false previous

/-- The callers of the statements of a method, from the front. -/
def Composition.callers (c : Composition) (ss : List Statement) : List Caller :=
  (ss.mapIdx fun i s => s.callers i (c.previousAt i)).flatten

/-- The call of a caller. It is made on what the statement's action is called on, on each value of that
when it is a list, and with the operands that the arguments become. Where that has a catalog, the action is
one of it. -/
inductive Frame.Calls (frame : Frame) (caller : Caller) : Call → Prop
  | mk {r : Receiver} {name : String} {operands : List Operand} {spread : Spread}
      (haction : caller.statement.action = some name)
      (htarget : frame.Targets caller.index caller.inPredicate caller.previous caller.statement r)
      (hoperands : Renders caller.statement.args operands)
      (hspread : spread = .single ↔ r.isList = false)
      (hcatalog : r.hasCatalog = true → ∃ action, r.action? name = some action) :
      Calls frame caller { receiver := r.code, action := name, operands, spread }

/-- Lists that go together part by part go together as wholes. -/
theorem forall₂_flatten_mapIdx {α β γ δ : Type} {R : γ → δ → Prop} {f : Nat → α → List γ}
    {g : β → List δ} {as : List α} {bs : List β} (hlength : bs.length = as.length)
    (h : ∀ i a, as[i]? = some a → ∃ b, bs[i]? = some b ∧ List.Forall₂ R (f i a) (g b)) :
    List.Forall₂ R (as.mapIdx f).flatten (bs.flatMap g) := by
  rw [List.flatMap_def]
  refine List.rel_flatten (List.forall₂_iff_get.mpr ⟨by simp [hlength], fun i hi hi' => ?_⟩)
  rw [List.length_mapIdx] at hi
  obtain ⟨b, hb, hparts⟩ := h i as[i] (List.getElem?_eq_getElem hi)
  obtain ⟨hi'', rfl⟩ := List.getElem?_eq_some_iff.mp hb
  simpa using hparts

variable {frame : Frame} {site : Site} {s : Statement} {lookups : Lookups}

/-- The calls of a statement without action are none. -/
theorem Frame.Evaluates.calls_getter {r : Receiver} {required resolved : ResultType} {value : Simple}
    {own : List Parameter} (h : frame.Evaluates site s r required value resolved own)
    (haction : s.action = none) : value.calls = [] := by
  cases h with
  | getter hnone helement hfits => rfl
  | call hname hof hoperands hcheck hinvocation hfits => exact absurd hname (by simp [haction])

/-- The expression of a statement with an action is its call. -/
theorem Frame.Evaluates.calls {index : Nat} {inPredicate : Bool} {previous : Option ResultType}
    {r : Receiver} {required resolved : ResultType} {value : Simple} {own : List Parameter}
    (htarget : frame.Targets index inPredicate previous s r) (haction : s.action ≠ none)
    (h : frame.Evaluates site s r required value resolved own) :
    ∃ call, value.calls = [call] ∧ frame.Calls ⟨s, index, inPredicate, previous⟩ call := by
  cases h with
  | getter hnone helement hfits => exact absurd hnone haction
  | call hname hof hoperands hcheck hinvocation hfits =>
    obtain ⟨hfound, hcatalog⟩ := Frame.actionOf_eq_ok hof
    refine ⟨_, rfl, .mk hname htarget (Frame.operands_eq_ok hoperands).1 spreadOf_single_iff ?_⟩
    intro hsome
    rw [hcatalog] at hsome
    exact ⟨_, hfound.trans (Option.eq_some_of_isSome hsome)⟩

/-- Look-ups call getters, and no actions. -/
theorem Frame.Addresses.calls {r : Receiver} {lines : List (Line Simple)} {after : Lookups}
    (h : frame.Addresses site lookups s r lines after) :
    (lines.filterMap Line.value?).flatMap Simple.calls = [] := by
  rw [List.flatMap_eq_nil_iff]
  intro value hvalue
  obtain ⟨line, hline, hvalue⟩ := List.mem_filterMap.mp hvalue
  obtain ⟨t, v, getter, rfl⟩ := h.getters line hline
  obtain rfl := Option.some.inj hvalue
  rfl

/-- **A composed action makes the call of its statement**, if that calls an action. -/
theorem Frame.composeAction_calls {count index : Nat} {inPredicate : Bool}
    {previous : Option ResultType} {b : Built Simple} {after : Lookups} {ps : List Parameter}
    (hsite : frame.siteOf inPredicate count index previous s = .ok site)
    (hbefore : lookups.Before index inPredicate)
    (h : frame.composeAction site lookups s = .ok (b, after, ps)) :
    List.Forall₂ frame.Calls (s.caller index inPredicate previous) (b.values.flatMap Simple.calls) := by
  obtain ⟨-, hindex, hprevious, hpredicate, -⟩ := Frame.siteOf_eq_ok hsite
  obtain ⟨-, r, lines, value, resolved, own, hreached, hevaluates, hdecides⟩ :=
    Frame.composeAction_eq_ok h
  have hvalues := (hdecides.yields hevaluates.yieldable hevaluates.plain_of_matcher).values_append
  rw [hvalues, List.flatMap_append, List.flatMap_singleton, Statement.caller]
  obtain ⟨hnone, rfl, -⟩ | ⟨haction, hreceiver⟩ := hreached
  · rw [hnone, hevaluates.calls_getter hnone]
    exact .nil
  · have htarget := Frame.receiver_targets hindex (by rwa [hpredicate]) hreceiver
    rw [hpredicate, hprevious] at htarget
    obtain ⟨call, hcall, hcalls⟩ := hevaluates.calls htarget haction
    rw [if_pos (Option.isSome_iff_ne_none.mpr haction), hcall, (Frame.receiver_addresses hreceiver).calls]
    exact .cons hcalls .nil

/-- Without a chain it makes no difference to the call what stands before. -/
theorem Frame.Calls.of_unchained {caller : Caller} {call : Call}
    (hchain : caller.statement.chain = false) (other : Option ResultType) (h : frame.Calls caller call) :
    frame.Calls { caller with previous := other } call := by
  obtain ⟨haction, htarget, hoperands, hspread, hcatalog⟩ := h
  exact .mk haction (htarget.of_unchained hchain other) hoperands hspread hcatalog

theorem Frame.forall₂_calls_of_unchained {index : Nat} {inPredicate : Bool}
    {previous : Option ResultType} {calls : List Call} (hchain : s.chain = false)
    (other : Option ResultType)
    (h : List.Forall₂ frame.Calls (s.caller index inPredicate previous) calls) :
    List.Forall₂ frame.Calls (s.caller index inPredicate other) calls := by
  unfold Statement.caller at h ⊢
  cases haction : s.action.isSome with
  | true =>
    rw [haction] at h
    cases h with
    | cons hcall hrest => exact .cons (hcall.of_unchained hchain other) hrest
  | false => rwa [haction] at h

/-! ## Sequences -/

/-- What the statements of a predicate call. -/
theorem Frame.composePredicate_calls {parameters ps : List Parameter} {ss : List Statement}
    {inner : List (Built Simple)} (h : frame.composePredicate parameters ss = .ok (inner, ps)) :
    List.Forall₂ frame.Calls (ss.mapIdx fun k t => t.caller k true none).flatten
      (inner.flatMap fun b => b.values.flatMap Simple.calls) := by
  obtain ⟨last, hwalk, -⟩ := Frame.composePredicate_threaded h
  refine forall₂_flatten_mapIdx hwalk.length_eq fun k t ht => ?_
  obtain ⟨before, b, after, hb, hstep, hbefore⟩ := Frame.composePredicate_step_at h ht
  obtain ⟨-, hchain, -⟩ := hstep.action
  obtain ⟨site, hsite, -, haction⟩ := hstep
  obtain ⟨more, haction, -⟩ := Frame.stepAction_eq_ok haction
  have hcalls := Frame.composeAction_calls hsite hbefore haction
  exact ⟨b, hb, Frame.forall₂_calls_of_unchained hchain none hcalls⟩

/-- **What a step of a method calls** is what its statement calls. -/
theorem Frame.MethodStep.calls {count index : Nat} {before after : Trail} {rest : List Statement}
    {b : Built Expression} (hbefore : before.lookups.Before index false)
    (h : frame.MethodStep count index before s rest b after) :
    List.Forall₂ frame.Calls (s.callers index before.previous) (b.parts.flatMap Simple.calls) := by
  obtain ⟨site, hsite, hstep⟩ := h
  obtain ⟨hwait, b', hwaits, rfl⟩ | ⟨hwait, b', hstep', rfl⟩ := Frame.composeStatement_eq_ok hstep
  · obtain ⟨-, inner, ps, required, -, hinner, -, rfl, -⟩ := Frame.composeWait_eq_ok hwaits
    have hparts : ∀ required binds, (frame.finish
        { Frame.emit site [] (.wait (inner.flatMap Built.lines) (predicateResult inner))
            (predicateType inner) required binds with isWait := true }).parts =
          inner.flatMap Built.values := by
      intro required binds
      rw [Built.parts, Frame.finish_values]
      change (Frame.emit site [] _ _ required binds).values.flatMap Expression.parts = _
      rw [Frame.emit_values, List.flatMap_singleton, Expression.parts, List.filterMap_flatMap]
      rfl
    rw [hparts, List.flatMap_assoc, Statement.callers, if_pos hwait]
    exact Frame.composePredicate_calls hinner
  · obtain ⟨more, haction, -⟩ := Frame.stepAction_eq_ok hstep'
    have hparts : (frame.finish (b'.map .simple)).parts = b'.values := by
      rw [Built.parts, Frame.finish_values, Built.values_map, List.flatMap_map]
      exact List.flatMap_singleton' b'.values
    rw [hparts, Statement.callers, if_neg (by simp [hwait])]
    exact Frame.composeAction_calls hsite hbefore haction

/-! ## Methods -/

/-- **The calls of a composed method** are those of its callers, one for one. -/
theorem compose_calls {ss : List Statement} {c : Composition} (h : compose frame ss = .ok c) :
    List.Forall₂ frame.Calls (c.callers ss) c.calls := by
  obtain ⟨last, -, hwalk, -⟩ := compose_threaded h
  rw [Composition.calls, Composition.parts, List.flatMap_assoc]
  refine forall₂_flatten_mapIdx hwalk.length_eq fun i s hs => ?_
  obtain ⟨before, b, after, hb, hstep, hbefore, hprevious⟩ := compose_step_at h hs
  rw [← hprevious]
  exact ⟨b, hb, hstep.calls hbefore⟩

/-! ## Calls in code -/

namespace Call

variable {c : Call}

/-- The name that the code gives to each value of a list. -/
def elementName : String := "element"

theorem text_of_single (h : c.spread = .single) : c.text = c.receiver ++ "." ++ c.invocation := by
  rw [text, h]

/-- The arguments of a call on each value of a list stand in a function that names the value. -/
theorem text_shows_function (h : c.spread ≠ .single) :
    Shows c.text (elementName ++ " -> " ++ elementName ++ "." ++ c.invocation) := by
  have hforEach : ".forEach(element -> element." =
      ".forEach(" ++ (elementName ++ " -> " ++ elementName ++ ".") := by decide
  have hmap : ".stream().map(element -> element." =
      ".stream().map(" ++ (elementName ++ " -> " ++ elementName ++ ".") := by decide
  have hflatMap : ".stream().flatMap(element -> element." =
      ".stream().flatMap(" ++ (elementName ++ " -> " ++ elementName ++ ".") := by decide
  unfold text
  cases hspread : c.spread with
  | single => exact absurd hspread h
  | forEach =>
    rw [hforEach]
    exact ⟨c.receiver ++ ".forEach(", ")", by simp only [String.append_assoc]⟩
  | map =>
    rw [hmap]
    exact ⟨c.receiver ++ ".stream().map(", ").collect(Collectors.toList())",
      by simp only [String.append_assoc]⟩
  | flatMap =>
    rw [hflatMap]
    exact ⟨c.receiver ++ ".stream().flatMap(", ".stream()).collect(Collectors.toList())",
      by simp only [String.append_assoc]⟩

/-- A call shows its invocation behind a point. -/
theorem text_shows_invocation (c : Call) : Shows c.text ("." ++ c.invocation) := by
  by_cases hspread : c.spread = .single
  · exact ⟨c.receiver, "", by simp only [text_of_single hspread, String.append_assoc, String.append_empty]⟩
  · refine (text_shows_function hspread).trans ?_
    exact ⟨elementName ++ " -> " ++ elementName, "", by simp only [String.append_assoc, String.append_empty]⟩

end Call

theorem Shows.join {part : String} : ∀ {parts : List String}, part ∈ parts →
    Shows (String.join parts) part
  | first :: rest, h => by
    rw [String.join_cons]
    rcases List.mem_cons.mp h with rfl | h
    · exact (Shows.refl part).right _
    · exact (Shows.join h).left _

/-- An expression shows its parts. -/
theorem Expression.text_shows {value : Expression} {part : Simple} (h : part ∈ value.parts) :
    Shows value.text part.text := by
  cases value with
  | simple value =>
    obtain rfl := List.mem_singleton.mp h
    exact .refl _
  | wait closure result =>
    obtain ⟨line, hline, hvalue⟩ := List.mem_filterMap.mp h
    have hshown : Shows (line.text Simple.text ++ ";\n") part.text := (Line.text_shows hvalue).right _
    refine (((Shows.join ?_).trans hshown).left _).right _
    exact List.mem_map.mpr ⟨line, List.mem_append_left _ hline, rfl⟩

/-- Every simple expression of a method stands in a line of its code. -/
theorem Composition.parts_shown {c : Composition} {part : Simple} (h : part ∈ c.parts) :
    ∃ line ∈ c.body.codeLines, Shows line part.text := by
  obtain ⟨b, hb, h⟩ := List.mem_flatMap.mp h
  obtain ⟨value, hvalue, hpart⟩ := List.mem_flatMap.mp h
  obtain ⟨line, hline, hvalue⟩ := List.mem_filterMap.mp hvalue
  refine ⟨line.text Expression.text, ?_, (Line.text_shows hvalue).trans (Expression.text_shows hpart)⟩
  exact List.mem_flatMap.mpr ⟨b.emitted, List.mem_map_of_mem hb, List.mem_map_of_mem hline⟩

/-- So does every call. -/
theorem Composition.calls_shown {c : Composition} {call : Call} (h : call ∈ c.calls) :
    ∃ line ∈ c.body.codeLines, Shows line call.text := by
  obtain ⟨part, hpart, hcall⟩ := List.mem_flatMap.mp h
  obtain ⟨line, hline, hshows⟩ := Composition.parts_shown hpart
  cases part with
  | getter name => exact absurd hcall (by simp [Simple.calls])
  | call c =>
    obtain rfl := List.mem_singleton.mp hcall
    exact ⟨line, hline, hshows⟩

end PageObjects
