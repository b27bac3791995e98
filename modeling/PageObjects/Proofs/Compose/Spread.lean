import PageObjects.Proofs.Compose.Closure
import PageObjects.Proofs.Compose.Fields
import PageObjects.Proofs.Compose.Lookup

/-!
# Calls on single values and on lists

A statement calls its action on a single value, or on each value of a list. The type of one invocation
comes from the action where the receiver has a catalog, and else from the declaration; the type of the
list decides nothing of it. How the invocations are put together depends on that type and on whether the
statement asks for all matches, and whether the whole is bound to a variable on its type and on the
declaration. The code decides this in five places, and reads the list off the element, off the value
before, and off the variable. Here it is told once, from the statement and what it is called on. This is
step 4 of the Compose Method Builder (specification, 4.2).

* `Frame.Targets`: what a statement calls its action on.
* `Receiver.Invokes`: the type of one invocation.
* `Receiver.Spreads`: the expression of all invocations, and its type.
* `Built.Applies`: a statement evaluates that expression, and binds it or not.
* `Frame.composeAction_applies`: so does every composed action.
* **`compose_applies`**: and every statement of a composed method and of its predicates.
-/

namespace PageObjects

/-! ## Receivers -/

namespace Receiver

/-- The receiver has a catalog of actions: it is the document, or an element. A page object has none. -/
def hasCatalog : Receiver → Bool
  | .page => false
  | .document => true
  | .value _ _ type _ _ => type.isBasicElement

/-- The action of a name in the receiver's catalog. -/
def action? (name : String) : Receiver → Option Action
  | .page => none
  | .document => Action.documentActions.find? (·.name == name)
  | .value _ _ type _ _ => type.interfaces.bind (Action.find? name)

/-- The type of one invocation of an action, under what the statement declares. With a catalog it is the
type that the action returns. Without one the invocation yields a value of the declared type, and nothing
where no type is declared or the declared one drops the value. -/
inductive Invokes (r : Receiver) (name : String) (declared : ResultType) : ResultType → Prop
  | catalog {action : Action} (hcatalog : r.hasCatalog = true) (haction : r.action? name = some action) :
      Invokes r name declared action.returns
  | declared (hcatalog : r.hasCatalog = false) (hvalue : declared.holdsValue = true) :
      Invokes r name declared declared
  | nothing (hcatalog : r.hasCatalog = false) (hvalue : declared.holdsValue = false) :
      Invokes r name declared .void

/-- The expression that makes invocations of type `t` on the receiver, and the type of the whole. The
receiver is invoked itself, or each value of it for the effect, with the lists of the results joined when
all matches are asked for, or with a list of the results. -/
inductive Spreads (r : Receiver) (invocation : String) (returnAll : Bool) :
    ResultType → String → ResultType → Prop
  | single {t : ResultType} (hlist : r.isList = false) :
      Spreads r invocation returnAll t (r.code ++ "." ++ invocation) t
  | forEach (hlist : r.isList = true) :
      Spreads r invocation returnAll .void
        (r.code ++ ".forEach(element -> element." ++ invocation ++ ")") .void
  | flatMap {x : ResultType} {all : Bool} (hlist : r.isList = true) (hall : returnAll = true) :
      Spreads r invocation returnAll (.list x all)
        (r.code ++ ".stream().flatMap(element -> element." ++ invocation ++
          ".stream()).collect(Collectors.toList())") (.list x false)
  | map {t : ResultType} (hlist : r.isList = true) (hvoid : t ≠ .void)
      (hall : (t.isList && returnAll) = false) :
      Spreads r invocation returnAll t
        (r.code ++ ".stream().map(element -> element." ++ invocation ++
          ").collect(Collectors.toList())") (.list t false)

end Receiver

/-- What the statement at an index calls its action on, after a value of the type `previous`: the page
object, the document, an element by the variable of a look-up at this index or before, or the value
before the statement. An element is a list when it stands for all matches, and a value when its type is a
list. -/
inductive Frame.Targets (frame : Frame) (index : Nat) (inPredicate : Bool)
    (previous : Option ResultType) (s : Statement) : Receiver → Prop
  | page (hchain : s.chain = false) (hname : s.element.or frame.defaultElement ∈ [none, some "self"]) :
      Targets frame index inPredicate previous s .page
  | document (hchain : s.chain = false) (hname : s.element.or frame.defaultElement = some "document") :
      Targets frame index inPredicate previous s .document
  | element {name : String} {element : PageElement} {first : Nat} (hchain : s.chain = false)
      (hname : s.element.or frame.defaultElement = some name)
      (helement : frame.page.find? name = some element) (hfirst : first ≤ index) :
      Targets frame index inPredicate previous s
        (.value (Naming.elementVariable name first inPredicate) name element.type element.isList false)
  | chain {t : ResultType} {type : NamedType} (hchain : s.chain = true) (hprevious : previous = some t)
      (htype : t = .named type ∨ ∃ all, t = .list (.named type) all) :
      Targets frame index inPredicate previous s
        (.value (Naming.chainVariable index) (type.elementName.getD type.name) type t.isList true)

/-- The type that a statement declares, or the method for its last one. -/
def Frame.declaration (frame : Frame) (isLast : Bool) (s : Statement) : ResultType :=
  match frame.page.resolve s.returnType s.returnAll with
  | .ok t => if t.isUnset && isLast then frame.methodReturn else t
  | .error _ => .unset

/-- The declaration that is in force for the value of a statement: one with a matcher declares the type of
the verdict, and leaves its value open. -/
def Statement.inForce (s : Statement) (declared : ResultType) : ResultType :=
  if s.matcher.isSome then .unset else declared

/-! ## Statements -/

/-- The statement at an index applies its action to what it is called on. Behind the look-ups it evaluates
the expression of the invocations, and it binds the value to its variable unless the expression yields
nothing or the declaration in force drops the value. Nothing is evaluated after it. -/
inductive Built.Applies (b : Built Expression) (frame : Frame) (index : Nat) (inPredicate : Bool)
    (previous : Option ResultType) (declared : ResultType) (s : Statement) : Prop
  | mk {name : String} {r : Receiver} {operands : List Operand} {invocation type : ResultType}
      {value : Expression} {front rest : List (Line Expression)} (haction : s.action = some name)
      (htarget : frame.Targets index inPredicate previous s r) (hoperands : Renders s.args operands)
      (hinvokes : r.Invokes name declared invocation)
      (hspreads : r.Spreads (name ++ "(" ++ Operand.codeOfList operands ++ ")") s.returnAll invocation
        value.text type)
      (hfront : ∀ line ∈ front, ∃ t v getter, line = .bind t v (.simple (.getter getter)))
      (hrest : ∀ line ∈ rest, line.value? = none)
      (hlines : b.lines = front ++
        (if type ≠ .void ∧ (s.inForce declared).discards = false then
          .bind type (Naming.statementVariable index inPredicate) value
        else .perform value) :: rest) :
      Applies b frame index inPredicate previous declared s

/-- The line that returns evaluates nothing. -/
theorem Built.Applies.finish {frame : Frame} {b : Built Expression} {index : Nat} {inPredicate : Bool}
    {previous : Option ResultType} {declared : ResultType} {s : Statement}
    (h : b.Applies frame index inPredicate previous declared s) :
    (frame.finish b).Applies frame index inPredicate previous declared s := by
  cases h with
  | @mk _ _ _ _ _ _ _ rest haction htarget hoperands hinvokes hspreads hfront hrest hlines =>
    have hafter : ∀ line ∈ rest ++ frame.returnLine b, line.value? = none := by
      intro line hline
      rcases List.mem_append.mp hline with hbefore | hreturn
      · exact hrest line hbefore
      · obtain ⟨v, rfl⟩ := Frame.mem_returnLine hreturn
        rfl
    refine .mk haction htarget hoperands hinvokes hspreads hfront hafter ?_
    rw [Frame.finish, hlines, List.append_assoc, List.cons_append]

/-- Without a chain it makes no difference what stands before. -/
theorem Frame.Targets.of_unchained {frame : Frame} {index : Nat} {inPredicate : Bool}
    {previous : Option ResultType} {s : Statement} {r : Receiver} (hchain : s.chain = false)
    (other : Option ResultType) (h : frame.Targets index inPredicate previous s r) :
    frame.Targets index inPredicate other s r := by
  cases h with
  | page _ hname => exact .page hchain hname
  | document _ hname => exact .document hchain hname
  | element _ hname helement hfirst => exact .element hchain hname helement hfirst
  | chain hchained _ _ => exact absurd hchained (by simp [hchain])

theorem Built.Applies.of_unchained {frame : Frame} {b : Built Expression} {index : Nat}
    {inPredicate : Bool} {previous : Option ResultType} {declared : ResultType} {s : Statement}
    (hchain : s.chain = false) (other : Option ResultType)
    (h : b.Applies frame index inPredicate previous declared s) :
    b.Applies frame index inPredicate other declared s := by
  obtain ⟨haction, htarget, hoperands, hinvokes, hspreads, hfront, hrest, hlines⟩ := h
  exact .mk haction (htarget.of_unchained hchain other) hoperands hinvokes hspreads hfront hrest hlines

variable {frame : Frame} {site : Site} {s : Statement} {lookups : Lookups}

/-! ### What is called on -/

/-- Every variable of a look-up is that of its element, at an index before the given one. -/
def Lookups.Before (lookups : Lookups) (index : Nat) (inPredicate : Bool) : Prop :=
  ∀ name v, lookups.lookup name = some v →
    ∃ first < index, v = Naming.elementVariable name first inPredicate

theorem Lookups.Before.mono {index : Nat} {inPredicate : Bool}
    (h : lookups.Before index inPredicate) : lookups.Before (index + 1) inPredicate := by
  intro name v hv
  obtain ⟨first, hfirst, rfl⟩ := h name v hv
  exact ⟨first, Nat.lt_succ_of_lt hfirst, rfl⟩

/-- A statement looks an element up at its own index. -/
theorem Frame.Reaches.before {index : Nat} {r : Receiver} {lines : List (Line Simple)}
    {after : Lookups} (hindex : site.index = index) (hbefore : lookups.Before index site.inPredicate)
    (h : frame.Reaches site lookups s r lines after) : after.Before (index + 1) site.inPredicate := by
  obtain ⟨-, rfl⟩ | ⟨element, -, -, hfree, -, rfl⟩ := h.looksUp hindex
  · exact hbefore.mono
  · intro name v hv
    by_cases hname : name = element
    · subst hname
      rw [Lookups.lookup_bind_self, hfree, Option.getD_none, Site.elementVariable, hindex] at hv
      exact ⟨index, Nat.lt_succ_self index, (Option.some.inj hv).symm⟩
    · rw [Lookups.lookup_bind_of_ne hname] at hv
      exact hbefore.mono name v hv

/-- What a composed statement is called on is told by the statement and the value before it. -/
theorem Frame.receiver_targets {index : Nat} {r : Receiver} {lines : List (Line Simple)}
    {after : Lookups} (hindex : site.index = index) (hbefore : lookups.Before index site.inPredicate)
    (h : frame.receiver site lookups s = .ok (r, lines, after)) :
    frame.Targets index site.inPredicate site.previous s r := by
  unfold Frame.receiver at h
  split at h
  · rename_i hchain
    obtain ⟨r', hr, he⟩ := map_eq_ok.mp h
    obtain ⟨rfl, -, -⟩ := by simpa using he
    obtain ⟨t, type, hprevious, htype, -, -, rfl⟩ := Frame.chainReceiver_eq_ok hr
    rw [hindex]
    exact .chain hchain hprevious htype
  · rename_i hchain
    have hfinds := Frame.elementReceiver_finds h
    rw [Bool.not_eq_true] at hchain
    cases hfinds with
    | page hname => exact .page hchain hname
    | document hname => exact .document hchain hname
    | known hname helement hbound =>
      obtain ⟨first, hfirst, rfl⟩ := hbefore _ _ hbound
      exact .element hchain hname helement (Nat.le_of_lt hfirst)
    | fresh hname helement hfree =>
      rw [Site.elementVariable, hindex]
      exact .element hchain hname helement (Nat.le_refl index)

/-! ### Invocations -/

/-- The action that a call is checked against is that of the receiver's catalog. -/
theorem Frame.actionOf_eq_ok {name : String} {r : Receiver} {action : Option Action}
    (h : frame.actionOf site name r = .ok action) :
    r.action? name = action ∧ r.hasCatalog = action.isSome := by
  unfold Frame.actionOf at h
  dsimp only at h
  split at h
  · rename_i found hfound
    obtain rfl := Except.ok.inj h
    cases r with
    | page =>
      obtain rfl := Except.ok.inj hfound
      exact ⟨rfl, rfl⟩
    | document =>
      obtain ⟨a, ha, rfl⟩ := map_eq_ok.mp hfound
      unfold Action.ofDocument at ha
      split at ha
      · rename_i hfind
        obtain rfl := Except.ok.inj ha
        exact ⟨hfind, rfl⟩
      · exact absurd ha (by simp)
    | value variableName element type isList isChain =>
      dsimp only at hfound
      split at hfound
      · rename_i interfaces hinterfaces
        obtain ⟨a, ha, rfl⟩ := map_eq_ok.mp hfound
        unfold Action.find at ha
        split at ha
        · rename_i hfind
          obtain rfl := Except.ok.inj ha
          refine ⟨?_, ?_⟩
          · rw [Receiver.action?, hinterfaces, Option.bind_some, hfind]
          · rw [Receiver.hasCatalog, NamedType.isBasicElement, hinterfaces]
            rfl
        · exact absurd ha (by simp)
      · rename_i hinterfaces
        obtain rfl := Except.ok.inj hfound
        refine ⟨?_, ?_⟩
        · rw [Receiver.action?, hinterfaces, Option.bind_none]
        · rw [Receiver.hasCatalog, NamedType.isBasicElement, hinterfaces]
          rfl
  · exact absurd h Frame.fail_ne_ok

/-- Without a catalog an invocation yields what is required of it. -/
theorem Receiver.invokes_required {r : Receiver} {name : String} (hcatalog : r.hasCatalog = false)
    (required : ResultType) : r.Invokes name required
      (if required.isUnset || required.discards then .void else required) := by
  cases required with
  | named type => exact .declared hcatalog rfl
  | list element all => exact .declared hcatalog rfl
  | void => exact .nothing hcatalog rfl
  | self name => exact .nothing hcatalog rfl
  | unset => exact .nothing hcatalog rfl

theorem Frame.invocationType_invokes {name : String} {r : Receiver} {required t : ResultType}
    {action : Option Action} (haction : frame.actionOf site name r = .ok action)
    (h : frame.invocationType site name required action = .ok t) : r.Invokes name required t := by
  obtain ⟨hfound, hcatalog⟩ := Frame.actionOf_eq_ok haction
  unfold Frame.invocationType at h
  split at h
  · obtain rfl := Except.ok.inj h
    exact Receiver.invokes_required hcatalog required
  · split at h
    · exact absurd h Frame.fail_ne_ok
    · obtain rfl := Except.ok.inj h
      exact .catalog hcatalog hfound

/-- With a catalog the declaration has no part in the type of an invocation. -/
theorem Receiver.Invokes.of_catalog {r : Receiver} {name : String} {declared other t : ResultType}
    (hcatalog : r.hasCatalog = true) (h : r.Invokes name declared t) : r.Invokes name other t := by
  cases h with
  | catalog _ haction => exact .catalog hcatalog haction
  | declared hnone hvalue => exact absurd hcatalog (by simp [hnone])
  | nothing hnone hvalue => exact absurd hcatalog (by simp [hnone])

/-! ### Expressions -/

/-- A call on each value of a chained list asks for all matches as any other call does. -/
theorem Frame.Targets.returnAll {index : Nat} {inPredicate : Bool} {r : Receiver}
    (h : frame.Targets index inPredicate site.previous s r) (hlist : r.isList = true) {v n : String}
    {type : NamedType} {all isChain : Bool} (hr : r = .value v n type all isChain) :
    (if isChain then site.flattensChain else site.returnAll) = site.returnAll := by
  subst hr
  cases h with
  | element hchain hname helement hfirst => rfl
  | chain hchain hprevious htype =>
    have hfollows : site.followsList = true := by
      rw [Site.followsList, hprevious]
      exact hlist
    rw [if_pos rfl, Site.flattensChain, hfollows, Bool.true_and]

theorem spreadOf_spreads {index : Nat} {inPredicate : Bool} {r : Receiver} {name : String}
    {operands : List Operand} {t : ResultType}
    (htarget : frame.Targets index inPredicate site.previous s r) :
    r.Spreads (name ++ "(" ++ Operand.codeOfList operands ++ ")") site.returnAll t
      (Call.text { receiver := r.code, action := name, operands, spread := (spreadOf site r t).1 })
      (spreadOf site r t).2 := by
  cases hlist : r.isList with
  | false =>
    have hspread : spreadOf site r t = (.single, t) := by
      cases r with
      | value v n type isList isChain =>
        obtain rfl : isList = false := hlist
        rfl
      | _ => rfl
    rw [hspread]
    exact .single hlist
  | true =>
    cases r with
    | page => exact absurd hlist (by simp [Receiver.isList])
    | document => exact absurd hlist (by simp [Receiver.isList])
    | value v n type isList isChain =>
      obtain rfl : isList = true := hlist
      have hall := htarget.returnAll rfl rfl
      cases t with
      | void => exact .forEach rfl
      | list x all =>
        simp only [spreadOf, hall]
        split
        · rename_i hasked
          exact .flatMap rfl hasked
        · rename_i hasked
          exact .map rfl (by simp) (by simpa [ResultType.isList] using hasked)
      | named type => exact .map rfl (by simp) rfl
      | self name => exact .map rfl (by simp) rfl
      | unset => exact .map rfl (by simp) rfl

/-! ### Values -/

/-- The declaration of a statement is what is required of it at its site. -/
theorem Frame.requiredType_eq_declaration {inPredicate : Bool} {count index : Nat}
    {previous : Option ResultType} (h : frame.siteOf inPredicate count index previous s = .ok site) :
    site.requiredType .unset frame.methodReturn =
      frame.declaration (!inPredicate && index + 1 == count) s := by
  obtain ⟨hresolved, -, -, -, hlast, -⟩ := Frame.siteOf_eq_ok h
  rw [Frame.declaration, hresolved, Site.requiredType, Site.declares, hlast]
  dsimp only
  cases hunset : site.declared.isUnset with
  | false => simp
  | true =>
    have hdeclared : site.declared = .unset := by
      cases hd : site.declared <;> simp_all [ResultType.isUnset]
    cases (!inPredicate && index + 1 == count) with
    | false => simp [hdeclared]
    | true =>
      cases hmethod : frame.methodReturn <;> simp [ResultType.isUnset]

/-- An emitted statement binds its value, or evaluates it. -/
theorem Frame.emitted_lines {lines : List (Line Simple)} {value : Simple} {resolved : ResultType} :
    (frame.emitted site s lines value resolved).lines = lines ++
      [if resolved ≠ .void ∧ (frame.ownType site s).discards = false then
        .bind resolved site.variableName value else .perform value] := by
  have hbinds : (!(frame.ownType site s).discards && !resolved.isVoid) = true ↔
      resolved ≠ .void ∧ (frame.ownType site s).discards = false := by
    rw [Bool.and_eq_true, Bool.not_eq_true', Bool.not_eq_true', and_comm, Ne, ← ResultType.isVoid_iff,
      Bool.not_eq_true]
  unfold Frame.emitted Frame.emit
  split
  · rename_i hbound
    rw [if_pos (hbinds.mp hbound)]
  · rename_i hdropped
    rw [if_neg (fun h => hdropped (hbinds.mpr h))]

/-- The value that a matcher judges is bound. -/
theorem Frame.resolved_ne_void_of_variable {lines : List (Line Simple)} {value : Simple}
    {resolved : ResultType} {v : String}
    (h : (frame.emitted site s lines value resolved).variableName = some v) : resolved ≠ .void := by
  rintro rfl
  unfold Frame.emitted Frame.emit at h
  simp [ResultType.isVoid] at h

/-- The lines of a composed action: the look-ups, the line with the value, and any line of a verdict. -/
theorem Frame.Decides.lines_eq {lines : List (Line Simple)} {value : Simple} {resolved : ResultType}
    {b : Built Simple} (h : frame.Decides site s lines value resolved b) :
    ∃ rest, b.lines = (frame.emitted site s lines value resolved).lines ++ rest ∧
      ∀ line ∈ rest, line.value? = none := by
  cases h with
  | emitted hmatcher hb => exact ⟨[], by rw [hb, List.append_nil], by simp⟩
  | judged hmatcher hrequired hb hvariable =>
    refine ⟨_, by rw [hb], fun line hline => ?_⟩
    obtain rfl := List.mem_singleton.mp hline
    rfl

/-- What is looked up is bound to a variable. -/
theorem Frame.Addresses.getters {r : Receiver} {lines : List (Line Simple)} {after : Lookups}
    (h : frame.Addresses site lookups s r lines after) :
    ∀ line ∈ lines, ∃ t v getter, line = .bind t v (.getter getter) := by
  cases h with
  | chain hchain hchains => simp
  | element hchain hfinds =>
    cases hfinds with
    | fresh hname helement hfree =>
      intro line hline
      exact ⟨_, _, _, List.mem_singleton.mp hline⟩
    | _ => simp

/-- A call without catalog under a matcher would have no value to judge, so that the declaration of a
statement with a value is that of one invocation, with a matcher and without. -/
theorem Frame.Decides.invokes {r : Receiver} {name : String} {lines : List (Line Simple)}
    {value : Simple} {invocation : ResultType} {b : Built Simple}
    (hinvokes : r.Invokes name (frame.ownType site s) invocation)
    (hdecides : frame.Decides site s lines value (spreadOf site r invocation).2 b) :
    r.Invokes name (site.requiredType .unset frame.methodReturn) invocation := by
  cases hcatalog : r.hasCatalog with
  | true => exact hinvokes.of_catalog hcatalog
  | false =>
    cases hdecides with
    | emitted hmatcher hb =>
      rw [Frame.ownType, hmatcher] at hinvokes
      exact hinvokes
    | judged hmatcher hrequired hb hvariable =>
      have hown : frame.ownType site s = .unset :=
        if_pos (Option.isSome_iff_ne_none.mpr hmatcher)
      subst hb
      refine absurd ?_ (Frame.resolved_ne_void_of_variable hvariable)
      rw [hown] at hinvokes
      cases hinvokes with
      | catalog hsome haction => exact absurd hsome (by simp [hcatalog])
      | declared hnone hvalue => exact absurd hvalue (by simp [ResultType.holdsValue])
      | nothing hnone hvalue =>
        unfold spreadOf
        split <;> rfl

/-- **A composed action applies its action to what it is called on.** -/
theorem Frame.composeAction_applies {count index : Nat} {inPredicate : Bool}
    {previous : Option ResultType} {b : Built Simple} {after : Lookups} {ps : List Parameter}
    (hsite : frame.siteOf inPredicate count index previous s = .ok site)
    (hbefore : lookups.Before index inPredicate) (haction : s.action ≠ none)
    (h : frame.composeAction site lookups s = .ok (b, after, ps)) :
    (b.map .simple).Applies frame index inPredicate previous
      (frame.declaration (!inPredicate && index + 1 == count) s) s := by
  obtain ⟨-, hindex, hprevious, hpredicate, -, hall⟩ := Frame.siteOf_eq_ok hsite
  obtain ⟨-, r, lines, value, resolved, own, hreached, hevaluates, hdecides⟩ :=
    Frame.composeAction_eq_ok h
  obtain ⟨hnone, -⟩ | ⟨-, hreceiver⟩ := hreached
  · exact absurd hnone haction
  cases hevaluates with
  | getter hnone helement hfits => exact absurd hnone haction
  | @call name action operands _ invocation hname hof hoperands hcheck hinvocation hfits =>
    have htarget := Frame.receiver_targets hindex (by rwa [hpredicate]) hreceiver
    have hspreads : r.Spreads (name ++ "(" ++ Operand.codeOfList operands ++ ")") site.returnAll invocation
        (Expression.simple (.call ⟨r.code, name, operands, (spreadOf site r invocation).1⟩)).text
        (spreadOf site r invocation).2 := spreadOf_spreads htarget
    have hinvokes := hdecides.invokes (Frame.invocationType_invokes hof hinvocation)
    rw [Frame.requiredType_eq_declaration hsite] at hinvokes
    rw [hpredicate, hprevious] at htarget
    rw [hall] at hspreads
    obtain ⟨rest, hlines, hrest⟩ := hdecides.lines_eq
    have hgetters := (Frame.receiver_addresses hreceiver).getters
    have hforce : frame.ownType site s =
        s.inForce (frame.declaration (!inPredicate && index + 1 == count) s) := by
      rw [← Frame.requiredType_eq_declaration hsite]
      rfl
    rw [Frame.emitted_lines, hforce, Site.variableName, hindex, hpredicate] at hlines
    have hfront : ∀ line ∈ lines.map (Line.map Expression.simple),
        ∃ t v getter, line = .bind t v (.simple (.getter getter)) := by
      intro line hline
      obtain ⟨line', hline', rfl⟩ := List.mem_map.mp hline
      obtain ⟨t, v, getter, rfl⟩ := hgetters line' hline'
      exact ⟨t, v, getter, rfl⟩
    have hbehind : ∀ line ∈ rest.map (Line.map Expression.simple), line.value? = none := by
      intro line hline
      obtain ⟨line', hline', rfl⟩ := List.mem_map.mp hline
      rw [Line.value?_map, hrest line' hline']
      rfl
    refine .mk hname htarget (Frame.operands_eq_ok hoperands).1 hinvokes hspreads hfront hbehind ?_
    rw [Built.map, hlines, List.append_assoc, List.singleton_append, List.map_append, List.map_cons]
    split <;> rfl

/-! ## Methods -/

/-- Every statement of a composed method that calls an action, and every one in the predicate of a wait,
applies the action to what it is called on. -/
structure Composition.Applies (c : Composition) (frame : Frame) (ss : List Statement) : Prop where
  statements : ∀ (i : Nat) (s : Statement), ss[i]? = some s → s.isWait = false → s.action ≠ none →
    ∃ b, c.statements[i]? = some b ∧
      b.Applies frame i false (c.previousAt i) (frame.declaration (i + 1 == ss.length) s) s
  waits : ∀ (i : Nat) (s : Statement), ss[i]? = some s → s.isWait = true →
    ∃ (b : Built Expression) (inner : List (Built Simple)) (result : String),
      c.statements[i]? = some b ∧ b.values = [.wait (inner.flatMap Built.lines) result] ∧
      inner.length = s.inner.length ∧
      ∀ (k : Nat) (t : Statement), s.inner[k]? = some t → t.isWait = false ∧ t.chain = false ∧
        (t.action ≠ none → ∃ b', inner[k]? = some b' ∧
          (b'.map .simple).Applies frame k true none (frame.declaration false t) t)

/-- A step applies its action, and looks elements up at its index. -/
theorem Frame.stepAction_applies {count index : Nat} {inPredicate : Bool} {before after : Trail}
    {b : Built Simple} (hsite : frame.siteOf inPredicate count index before.previous s = .ok site)
    (hbefore : before.lookups.Before index inPredicate) (h : frame.stepAction site before s = .ok (b, after)) :
    (s.action ≠ none → (b.map .simple).Applies frame index inPredicate before.previous
      (frame.declaration (!inPredicate && index + 1 == count) s) s) ∧
      after.lookups.Before (index + 1) inPredicate := by
  obtain ⟨-, hindex, -, hpredicate, -⟩ := Frame.siteOf_eq_ok hsite
  obtain ⟨more, haction, -⟩ := Frame.stepAction_eq_ok h
  obtain ⟨-, hreaches, -, -⟩ := Frame.composeAction_acts haction
  have hlater := hreaches.before hindex (hpredicate.symm ▸ hbefore)
  rw [hpredicate] at hlater
  exact ⟨fun hcalls => Frame.composeAction_applies hsite hbefore hcalls haction, hlater⟩

theorem Frame.PredicateStep.applies {count index : Nat} {before after : Trail} {rest : List Statement}
    {b : Built Simple} (hbefore : before.lookups.Before index true)
    (h : frame.PredicateStep count index before s rest b after) :
    (s.action ≠ none → (b.map .simple).Applies frame index true before.previous
      (frame.declaration false s) s) ∧ after.lookups.Before (index + 1) true := by
  obtain ⟨site, hsite, -, hstep⟩ := h
  exact Frame.stepAction_applies hsite hbefore hstep

/-- So does every step of a method but a wait, which looks nothing up. -/
theorem Frame.MethodStep.applies {count index : Nat} {before after : Trail} {rest : List Statement}
    {b : Built Expression} (hbefore : before.lookups.Before index false)
    (h : frame.MethodStep count index before s rest b after) :
    (s.isWait = false → s.action ≠ none → b.Applies frame index false before.previous
      (frame.declaration (index + 1 == count) s) s) ∧ after.lookups.Before (index + 1) false := by
  obtain ⟨site, hsite, hstep⟩ := h
  obtain ⟨hwait, b', hwaits, rfl⟩ | ⟨-, b', hstep', rfl⟩ := Frame.composeStatement_eq_ok hstep
  · obtain ⟨-, inner, ps, required, -, -, -, -, rfl⟩ := Frame.composeWait_eq_ok hwaits
    exact ⟨fun hnone => absurd hwait (by simp [hnone]), hbefore.mono⟩
  · obtain ⟨happlies, hlater⟩ := Frame.stepAction_applies hsite hbefore hstep'
    exact ⟨fun _ hcalls => (happlies hcalls).finish, hlater⟩

/-- The type before a statement is that of the last statement in front of it. -/
theorem Composition.previousAt_eq {c : Composition} {i : Nat} (h : i < c.statements.length) :
    c.previousAt i = (c.statements.take i).getLast?.map Built.returnType := by
  cases i with
  | zero => rfl
  | succ i =>
    rw [previousAt, List.getLast?_take, if_neg (Nat.succ_ne_zero i), Nat.add_sub_cancel,
      List.getElem?_eq_getElem (Nat.lt_of_succ_lt h), Option.some_or]

/-- Each statement of a composed method takes its step after the look-ups and the value of those in front
of it. -/
theorem compose_step_at {ss : List Statement} {c : Composition} (h : compose frame ss = .ok c) {i : Nat}
    (hs : ss[i]? = some s) : ∃ before b after, c.statements[i]? = some b ∧
      frame.MethodStep ss.length i before s (ss.drop (i + 1)) b after ∧
      before.lookups.Before i false ∧ before.previous = c.previousAt i := by
  obtain ⟨last, -, hwalk, -⟩ := compose_threaded h
  obtain ⟨before, b, after, hb, hstep, hlookups, hprevious⟩ := hwalk.step_after
    (fun done made trail => trail.lookups.Before done.length false ∧
      trail.previous = made.getLast?.map Built.returnType) (by
        rintro done made before s rest b after ⟨hlookups, -⟩ hstep
        obtain ⟨-, -, hafter, -⟩ := hstep.yields
        refine ⟨?_, by rw [hafter, List.getLast?_concat]; rfl⟩
        rw [List.length_append, List.length_singleton]
        exact (hstep.applies hlookups).2)
    ⟨fun name v hv => absurd hv (by simp), rfl⟩ hs
  have hi : i < ss.length := (List.getElem?_eq_some_iff.mp hs).1
  rw [List.length_take, Nat.min_eq_left (Nat.le_of_lt hi)] at hlookups
  exact ⟨before, b, after, hb, hstep, hlookups, by
    rw [Composition.previousAt_eq (by rwa [hwalk.length_eq]), ← hprevious]⟩

/-- Each statement of a predicate takes its step after the look-ups of those in front of it. -/
theorem Frame.composePredicate_step_at {parameters ps : List Parameter} {ss : List Statement}
    {inner : List (Built Simple)} (h : frame.composePredicate parameters ss = .ok (inner, ps)) {k : Nat}
    (hs : ss[k]? = some s) : ∃ before b after, inner[k]? = some b ∧
      frame.PredicateStep ss.length k before s (ss.drop (k + 1)) b after ∧
      before.lookups.Before k true := by
  obtain ⟨last, hwalk, -⟩ := Frame.composePredicate_threaded h
  obtain ⟨before, b, after, hb, hstep, hlookups⟩ := hwalk.step_after
    (fun done _ trail => trail.lookups.Before done.length true) (by
      intro done made before s rest b after hlookups hstep
      rw [List.length_append, List.length_singleton]
      exact (hstep.applies hlookups).2)
    (fun name v hv => absurd hv (by simp)) hs
  have hk : k < ss.length := (List.getElem?_eq_some_iff.mp hs).1
  rw [List.length_take, Nat.min_eq_left (Nat.le_of_lt hk)] at hlookups
  exact ⟨before, b, after, hb, hstep, hlookups⟩

/-- **Calls reach what they are made on.** In a composed method, and in the predicates of its waits, every
call is made on its receiver, or on each value of it when that is a list, with the type of one invocation
that the catalog or the declaration gives. -/
theorem compose_applies {ss : List Statement} {c : Composition} (h : compose frame ss = .ok c) :
    c.Applies frame ss where
  statements i s hs hwait haction := by
    obtain ⟨before, b, after, hb, hstep, hlookups, hprevious⟩ := compose_step_at h hs
    rw [← hprevious]
    exact ⟨b, hb, (hstep.applies hlookups).1 hwait haction⟩
  waits i s hs hwait := by
    obtain ⟨site, previous, inner, ps, more, required, binds, -, -, hpredicate, hb⟩ :=
      compose_wait h hs hwait
    obtain ⟨last, hwalk, -⟩ := Frame.composePredicate_threaded hpredicate
    refine ⟨_, inner, predicateResult inner, hb, ?_, hwalk.length_eq, ?_⟩
    · rw [Frame.finish_values]
      exact Frame.emit_values
    · intro k t ht
      obtain ⟨before, b', after, hb', hstep, hlookups⟩ := Frame.composePredicate_step_at hpredicate ht
      obtain ⟨hplain, hchain, -⟩ := hstep.action
      exact ⟨hplain, hchain, fun haction =>
        ⟨b', hb', ((hstep.applies hlookups).1 haction).of_unchained hchain none⟩⟩

/-- A method of a page with a list of items and a list of menus, page objects without catalog. It clicks
every item, asks every menu for its name and for all its entries, waits until the items are shown, checks
the title, and calls the page object for the type that the method declares. -/
def shelfCalls : Frame × List Statement :=
  let menu : NamedType := { name := "Menu", package := "my.app" }
  ({ page :=
       { name := "Shelf",
         elements :=
           [{ name := "items", type := ResultType.ofElement "items" ["clickable"],
              getter := "getItemsElement", isList := true },
            { name := "menus", type := menu, getter := "getMenus", isList := true },
            { name := "title", type := ResultType.ofElement "title" [], getter := "getTitleElement" }] },
     method := "describe", methodReturn := .string },
   [{ element := some "items", action := some "click" },
    { element := some "menus", action := some "getName", returnType := some "string" },
    { element := some "menus", action := some "getEntries", returnType := some "string",
      returnAll := true },
    { action := some "waitFor", predicate := some
        [{ element := some "items", action := some "isVisible" }] },
    { element := some "title", action := some "getText", matcher := some ⟨"notNull", []⟩ },
    { action := some "summary", args := [.literal (.int 3) none] }])

/-- The code of that method. -/
def shelfLines : List String :=
  ["List<ItemsElement> items0 = this.getItemsElement()",
    "items0.forEach(element -> element.click())",
    "List<Menu> menus1 = this.getMenus()",
    "List<String> statement1 = menus1.stream().map(element -> element.getName())" ++
      ".collect(Collectors.toList())",
    "List<String> statement2 = menus1.stream().flatMap(element -> element.getEntries().stream())" ++
      ".collect(Collectors.toList())",
    "this.waitFor(() -> \x7b\nList<ItemsElement> pitems0 = this.getItemsElement();\n" ++
      "List<Boolean> pstatement0 = pitems0.stream().map(element -> element.isVisible())" ++
      ".collect(Collectors.toList());\nreturn pstatement0;\n\x7d)",
    "TitleElement title4 = this.getTitleElement()",
    "String statement4 = title4.getText()",
    "Boolean matcher4 = statement4 != null",
    "String statement5 = this.summary(3)",
    "return statement5"]

theorem shelfCalls_applies : ∃ c, compose shelfCalls.1 shelfCalls.2 = .ok c ∧
    c.body.codeLines = shelfLines ∧ c.Applies shelfCalls.1 shelfCalls.2 := by
  have hok : (compose shelfCalls.1 shelfCalls.2).toOption.any (fun c =>
      decide (c.body.codeLines = shelfLines)) = true := by decide +kernel
  obtain ⟨c, hc, hlines⟩ := exists_eq_ok hok
  exact ⟨c, hc, of_decide_eq_true hlines, compose_applies hc⟩

end PageObjects
