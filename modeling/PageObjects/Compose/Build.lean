import PageObjects.Compose.Code
import PageObjects.Compose.Error
import PageObjects.Document.Statement
import PageObjects.PageClass.Basic

/-!
# Composing a method

`compose` turns the statements of one method into generated statements. It walks the sequence with
what the statements before have left (`Trail`): the variables of the elements already looked up, the
type of the value before, and the parameters met so far. A wait composes its predicate as a sequence
of its own, with look-ups and indices of its own and the parameters of the whole method.

This is the Compose Method Builder of the specification (4.2). `Frame.composeSequence` is its step
1, `Frame.siteOf` step 2, `Frame.actionOf`, `Frame.checkOperands`, `Frame.invocationType` and
`Frame.checkType` are step 3, `spreadOf` is step 4, `Frame.composeWait` step 5, and `Trail.previous`
step 6. `Frame.elementReceiver`, `Frame.applyMatcher`, `Frame.returnLine` and `Frame.returnType` are
what it decides besides: look-ups, matchers, and what a method returns.

* `composeAction`: one statement that is no wait.
* `composePredicate`: the sequence of a predicate; it holds actions only.
* `composeSequence`: the sequence of a method.
* `compose`: the method's statements, return type and parameters.
-/

namespace PageObjects

/-- The method under construction: its page object and name, the type that it declares, whether it
has to return a value, and the element of statements that name none. -/
structure Frame where
  page : Page
  method : String
  methodReturn : ResultType := .unset
  requiresValue : Bool := false
  defaultElement : Option String := none
  deriving DecidableEq, Repr, Inhabited

/-- The variables of the elements that were looked up. -/
abbrev Lookups := List (String × String)

/-- The look-ups with one more; an element keeps its first variable. -/
def Lookups.bind (lookups : Lookups) (element variableName : String) : Lookups :=
  if (lookups.lookup element).isSome then lookups else lookups ++ [(element, variableName)]

/-- What the statements of a sequence leave to those after them. -/
structure Trail where
  lookups : Lookups := []
  previous : Option ResultType := none
  parameters : List Parameter := []
  deriving DecidableEq, Repr, Inhabited

/-- What an action is called on. -/
inductive Receiver where
  | page
  | document
  | value (variableName name : String) (type : NamedType) (isList isChain : Bool)
  deriving DecidableEq, Repr, Inhabited

namespace Receiver

/-- The receiver as it is written in code. -/
def code : Receiver → String
  | .page => "this"
  | .document => "this.getDocument()"
  | .value variableName _ _ _ _ => variableName

/-- The receiver is a list. -/
def isList : Receiver → Bool
  | .value _ _ _ isList _ => isList
  | _ => false

end Receiver

namespace Frame

variable (frame : Frame) (site : Site)

/-- A fault of the statement at a site. -/
def fail (fault : StatementFault) : Except ComposeError α :=
  .error (.statement frame.method site.index site.inPredicate fault)

/-- The site of the statement at an index among `count` statements. -/
def siteOf (inPredicate : Bool) (count index : Nat) (previous : Option ResultType) (s : Statement) :
    Except ComposeError Site :=
  match frame.page.resolve s.returnType s.returnAll with
  | .ok declared =>
    .ok { previous, index, position := .of index count inPredicate, declared, returnAll := s.returnAll }
  | .error e => .error (.type e)

/-- The element of a name. -/
def findElement (name : String) : Except ComposeError PageElement :=
  match frame.page.find name with
  | .ok e => .ok e
  | .error e => .error (.page e)

/-! ## Receivers -/

/-- The value that a chained statement is called on: an element or a page object, or a list of
those. -/
def chainReceiver : Except ComposeError Receiver :=
  if site.isFirst then frame.fail site .chainOnNothing
  else
    let target := match site.previous with
      | some (.list element _) => some element
      | previous => previous
    match target with
    | some (.named type) =>
      if type.isBasicElement || type.isPageObject then
        match site.chainOperand with
        | .ok operand =>
          .ok (.value operand.name (type.elementName.getD type.name) type operand.isList true)
        | .error e => frame.fail site (.chain e)
      else frame.fail site (.chainOn (shownPrevious site.previous))
    | _ => frame.fail site (.chainOn (shownPrevious site.previous))
where
  /-- The type before the statement, as a message names it. -/
  shownPrevious : Option ResultType → String
    | none => "nothing"
    | some t => if t.simpleName.isEmpty then "unset" else t.simpleName

/-- What a statement without chain is called on, the line that looks it up if it is an element not
looked up before, and the look-ups after it. -/
def elementReceiver (lookups : Lookups) (s : Statement) :
    Except ComposeError (Receiver × List (Line Simple) × Lookups) :=
  match s.element.or frame.defaultElement with
  | none => .ok (.page, [], lookups)
  | some name =>
    if name == "self" then .ok (.page, [], lookups)
    else if name == "document" then .ok (.document, [], lookups)
    else
      match frame.findElement name with
      | .error e => .error e
      | .ok element =>
        match lookups.lookup name with
        | some variableName =>
          .ok (.value variableName name element.type element.isList false, [], lookups)
        | none =>
          let variableName := site.elementVariable name
          .ok (.value variableName name element.type element.isList false,
            [.bind element.returnType variableName (.getter element.getter)],
            lookups.bind name variableName)

/-- What a statement is called on, any line that looks it up, and the look-ups after it. -/
def receiver (lookups : Lookups) (s : Statement) :
    Except ComposeError (Receiver × List (Line Simple) × Lookups) :=
  if s.chain then (frame.chainReceiver site).map fun r => (r, [], lookups)
  else frame.elementReceiver site lookups s

/-! ## Calls -/

/-- The action of the receiver's catalog; none when the receiver has no catalog. -/
def actionOf (name : String) (r : Receiver) : Except ComposeError (Option Action) :=
  let found : Except ActionError (Option Action) :=
    match r with
    | .document => (Action.ofDocument name).map some
    | .value _ element type _ _ =>
      match type.interfaces with
      | some interfaces => (Action.find name interfaces element).map some
      | none => .ok none
    | .page => .ok none
  match found with
  | .ok action => .ok action
  | .error e => frame.fail site (.action e)

/-- The operand of an argument, and the statement's parameters with it. -/
def operand (parameters : List Parameter) (a : Argument) :
    Except ComposeError (Operand × List Parameter) :=
  match Operand.ofArgument a with
  | .error e => frame.fail site (.operand e)
  | .ok (.literal value) => .ok (.literal value, parameters)
  | .ok (.parameter p) =>
    match addParameter parameters p with
    | .ok parameters => .ok (.parameter p, parameters)
    | .error e => frame.fail site (.operand e)

/-- The operands of arguments, and the statement's parameters with them. -/
def operands (parameters : List Parameter) : List Argument →
    Except ComposeError (List Operand × List Parameter)
  | [] => .ok ([], parameters)
  | a :: rest => do
    let (first, parameters) ← frame.operand site parameters a
    let (others, parameters) ← operands parameters rest
    return (first :: others, parameters)

/-- The operands have the types of the parameters of what they are given to. -/
def checkTypes (subject : Subject) : Nat → List Operand → List ResultType → Except ComposeError Unit
  | position, given :: operands, expected :: types =>
    if given.type.same expected then checkTypes subject (position + 1) operands types
    else frame.fail site (.argumentType position subject expected given.type)
  | _, _, _ => .ok ()

/-- The operands are as many as the action has parameters, and of their types. Without a catalog any
operands will do. -/
def checkOperands (operands : List Operand) : Option Action → Except ComposeError Unit
  | none => .ok ()
  | some action =>
    if operands.length == action.parameters.length then
      frame.checkTypes site (.action action.name) 0 operands action.parameters
    else frame.fail site (.argumentCount action.name action.parameters.length operands.length)

/-- The type that one invocation yields: the action's own, or, without a catalog, the required
one. An action of a catalog that yields nothing cannot be required to yield a value. -/
def invocationType (name : String) (required : ResultType) :
    Option Action → Except ComposeError ResultType
  | none => .ok (if required.isUnset || required.discards then .void else required)
  | some action =>
    if action.returns.isVoid && !required.isUnset && !required.discards then
      frame.fail site (.conflict required (.action name) action.returns)
    else .ok action.returns

end Frame

/-- How a call that yields `t` for each invocation reaches its receiver, and the type of the whole.
Lists of lists are joined only when all matches are asked for. -/
def spreadOf (site : Site) (r : Receiver) (t : ResultType) : Spread × ResultType :=
  match r with
  | .value _ _ _ true isChain =>
    match t with
    | .void => (.forEach, .void)
    | .list element _ =>
      if if isChain then site.flattensChain else site.returnAll then (.flatMap, .list element false)
      else (.map, .list t false)
    | _ => (.map, .list t false)
  | _ => (.single, t)

namespace Frame

variable (frame : Frame) (site : Site)

/-- A value of a type that is not the required one is a conflict. -/
def checkType (required : ResultType) (subject : Subject) (actual : ResultType) :
    Except ComposeError Unit :=
  if !required.isUnset && !required.discards && !required.same actual then
    frame.fail site (.conflict required subject actual)
  else .ok ()

/-- The expression of a statement, the type of its value, and the statement's parameters. -/
def expression (s : Statement) (r : Receiver) (required : ResultType) :
    Except ComposeError (Simple × ResultType × List Parameter) :=
  match s.action with
  | none => do
    let name := s.element.getD ""
    let element ← frame.findElement name
    frame.checkType site required (.element name) element.returnType
    return (.getter element.getter, element.returnType, [])
  | some name => do
    let action ← frame.actionOf site name r
    let (operands, parameters) ← frame.operands site [] s.args
    frame.checkOperands site operands action
    let invocation ← frame.invocationType site name required action
    let (spread, resolved) := spreadOf site r invocation
    if action.isSome then frame.checkType site required (.action name) resolved
    return (.call { receiver := r.code, action := name, operands, spread }, resolved, parameters)

/-! ## Statements -/

/-- The statement's lines up to its value: the value is bound to a variable, or dropped. -/
def emit (site : Site) (before : List (Line ε)) (value : ε) (resolved required : ResultType)
    (binds : Bool) : Built ε :=
  if binds then
    { index := site.index.toNat, variableName := some site.variableName, returnType := resolved,
      lines := before ++ [.bind resolved site.variableName value], isLast := site.isLast }
  else
    { index := site.index.toNat, variableName := none,
      returnType := if required.isSelf then required else .void,
      lines := before ++ [.perform value], isLast := site.isLast }

/-- The statement with the verdict of its matcher as its value. Lines that return are taken out: the
method returns the verdict. -/
def applyMatcher (m : Matcher) (b : Built Simple) (parameters : List Parameter) :
    Except ComposeError (Built Simple × List Parameter) :=
  match b.variableName with
  | none => frame.fail site .matcherWithoutValue
  | some variableName =>
    match MatcherKind.find m.type m.args.length with
    | .error e => frame.fail site (.matcher e)
    | .ok kind => do
      match kind.operand? with
      | some type =>
        if !type.same b.returnType then
          frame.fail site (.conflict type (.matcher kind.name) b.returnType)
      | none => pure ()
      let (operands, parameters) ← frame.operands site parameters m.args
      frame.checkTypes site (.matcher kind.name) 0 operands kind.parameters
      let verdict := site.matcherVariable
      return ({ b with
        variableName := some verdict, returnType := .boolean,
        lines := b.lines.filter (!·.returns Simple.text) ++
          [.verdict verdict kind variableName operands] }, parameters)

/-- The line with which a method's last statement returns, unless a line of it returns already: its
variable, or the page object where a value is required and there is no other. -/
def returnLine (b : Built Expression) : List (Line Expression) :=
  if !b.isLast || b.lines.any (·.returns Expression.text) then []
  else
    match b.variableName with
    | some variableName => [.give variableName]
    | none => if b.returnType.isSelf || frame.requiresValue then [.give "this"] else []

/-- The statement with the line that returns. -/
def finish (b : Built Expression) : Built Expression := { b with lines := b.lines ++ frame.returnLine b }

/-- Composes a statement that is no wait: what it becomes, the look-ups after it, and its
parameters. -/
def composeAction (lookups : Lookups) (s : Statement) :
    Except ComposeError (Built Simple × Lookups × List Parameter) :=
  if s.chain && site.inPredicate then frame.fail site .chainInPredicate
  else do
    let required := site.requiredType .unset frame.methodReturn
    -- with a matcher the declared type is that of the verdict
    let own := if s.matcher.isSome then .unset else required
    let (receiver, lookup, after) ←
      if s.action.isNone then
        (frame.elementReceiver site lookups s).map fun found => (found.1, [], lookups)
      else frame.receiver site lookups s
    let (value, resolved, parameters) ← frame.expression site s receiver own
    let built := emit site lookup value resolved own (!own.discards && !resolved.isVoid)
    match s.matcher with
    | none => return (built, after, parameters)
    | some m =>
      let (built, parameters) ← frame.applyMatcher site m built parameters
      if !required.isUnset && !required.same .boolean then
        frame.fail site (.conflict required (.matcher m.type) .boolean)
      else return (built, after, parameters)

/-- The parameters of the method with those of a statement. -/
def collect (parameters more : List Parameter) : Except ComposeError (List Parameter) :=
  match addParameters parameters more with
  | .ok parameters => .ok parameters
  | .error e => frame.fail site (.operand e)

/-- Composes a statement of a predicate or of a method, when it is no wait, and goes on the trail. -/
def stepAction (trail : Trail) (s : Statement) : Except ComposeError (Built Simple × Trail) := do
  let (built, lookups, more) ← frame.composeAction site trail.lookups s
  let parameters ← frame.collect site trail.parameters more
  return (built, { lookups, previous := some built.returnType, parameters })

/-- Composes the statements of a predicate from an index on, among `count`: what they become, and
the method's parameters after them. -/
def composePredicateFrom (count : Nat) : Nat → Trail → List Statement →
    Except ComposeError (List (Built Simple) × List Parameter)
  | _, trail, [] => .ok ([], trail.parameters)
  | index, trail, s :: rest => do
    let site ← frame.siteOf true count index trail.previous s
    if s.isWait then frame.fail site .waitInPredicate
    else
      let (built, trail) ← frame.stepAction site trail s
      let (others, parameters) ← composePredicateFrom count (index + 1) trail rest
      return (built :: others, parameters)

/-- Composes the statements of a predicate. -/
def composePredicate (parameters : List Parameter) (statements : List Statement) :
    Except ComposeError (List (Built Simple) × List Parameter) :=
  frame.composePredicateFrom statements.length 0 { parameters } statements

/-- Composes a wait: its predicate becomes a closure that returns the value of its last statement, or
true. `chained` says that the next statement chains on the value. -/
def composeWait (trail : Trail) (s : Statement) (chained : Bool) :
    Except ComposeError (Built Expression × Trail) := do
  if s.inner.isEmpty then frame.fail site .emptyPredicate
  let (inner, parameters) ← frame.composePredicate trail.parameters s.inner
  let last := inner.getLast?
  let result := last.bind Built.variableName
  let type := match last, result with
    | some built, some _ => built.returnType
    | _, _ => .boolean
  let value := Expression.wait (inner.flatMap Built.lines) (result.getD "true")
  let required := site.requiredType .unset frame.methodReturn
  frame.checkType site required .wait type
  let built := emit site [] value type required (chained || (!required.isUnset && !required.discards))
  return ({ built with isWait := true },
    { trail with previous := some built.returnType, parameters })

/-- Composes one statement of a method. -/
def composeStatement (trail : Trail) (s : Statement) (chained : Bool) :
    Except ComposeError (Built Expression × Trail) := do
  let (built, trail) ←
    if s.isWait then frame.composeWait site trail s chained
    else
      (frame.stepAction site trail s).map fun stepped =>
        (stepped.1.map .simple, stepped.2)
  return (frame.finish built, trail)

/-- Composes the statements of a method from an index on, among `count`. -/
def composeSequence (count : Nat) : Nat → Trail → List Statement →
    Except ComposeError (List (Built Expression) × List Parameter)
  | _, trail, [] => .ok ([], trail.parameters)
  | index, trail, s :: rest => do
    let site ← frame.siteOf false count index trail.previous s
    let (built, trail) ← frame.composeStatement site trail s ((rest.head?.map Statement.chain).getD false)
    let (others, parameters) ← composeSequence count (index + 1) trail rest
    return (built :: others, parameters)

/-- The type that the method returns, given its last statement. -/
def returnType (last : Built Expression) : Except ComposeError ResultType :=
  if frame.requiresValue then .ok .object
  else if frame.methodReturn.isUnset then .ok last.returnType
  else if frame.methodReturn.same last.returnType then .ok frame.methodReturn
  else .error (.returnType frame.method last.index frame.methodReturn last.returnType)

end Frame

/-- A composed method: its statements, the type that it returns, and its parameters. -/
structure Composition where
  statements : List (Built Expression)
  returnType : ResultType
  parameters : List Parameter
  deriving DecidableEq, Repr

/-- Composes a method. -/
def compose (frame : Frame) (statements : List Statement) : Except ComposeError Composition := do
  let (built, parameters) ← frame.composeSequence statements.length 0 {} statements
  match built.getLast? with
  | none => .error (.empty frame.method)
  | some last =>
    let returnType ← frame.returnType last
    return { statements := built, returnType, parameters }

/-- The statement with its lines as text. -/
def Built.emitted (b : Built Expression) : Emitted :=
  { index := b.index, variableName := b.variableName, returnType := b.returnType,
    codeLines := b.lines.map (Line.text Expression.text), isLast := b.isLast, isWait := b.isWait }

/-- The method's body with its lines as text. -/
def Composition.body (c : Composition) : Body :=
  { statements := c.statements.map Built.emitted, returnType := c.returnType,
    parameters := c.parameters }

end PageObjects
