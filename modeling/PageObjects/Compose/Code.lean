import PageObjects.Catalog.Matcher
import PageObjects.Compose.Operand

/-!
# Generated statements

The code of a method as structured lines, and the text of each. A line binds a variable, evaluates an
expression for its effect, binds the verdict of a matcher, or returns. Expressions come in two
levels: simple ones, and the wait, whose closure holds lines over simple expressions; so a wait never
stands inside another. The code is what the Compose Method Builder emits (specification, 4.2); its
section 8 shows some of it.

Lines carry no semicolon.
-/

namespace PageObjects

/-- How a call reaches what it is made on: the value itself, or every element of a list, for the
effect, with a list of the results, or with the lists of results joined. -/
inductive Spread where
  | single
  | forEach
  | map
  | flatMap
  deriving DecidableEq, Repr, Inhabited

/-- A call of an action. -/
structure Call where
  receiver : String
  action : String
  operands : List Operand
  spread : Spread
  deriving DecidableEq, Repr, Inhabited

/-- The action and its operands. -/
def Call.invocation (c : Call) : String :=
  c.action ++ "(" ++ Operand.codeOfList c.operands ++ ")"

/-- The call as an expression. -/
def Call.text (c : Call) : String :=
  match c.spread with
  | .single => c.receiver ++ "." ++ c.invocation
  | .forEach => c.receiver ++ ".forEach(element -> element." ++ c.invocation ++ ")"
  | .map =>
    c.receiver ++ ".stream().map(element -> element." ++ c.invocation ++
      ").collect(Collectors.toList())"
  | .flatMap =>
    c.receiver ++ ".stream().flatMap(element -> element." ++ c.invocation ++
      ".stream()).collect(Collectors.toList())"

/-- An expression without closure. -/
inductive Simple where
  | getter (name : String)
  | call (c : Call)
  deriving DecidableEq, Repr, Inhabited

/-- The expression's text. -/
def Simple.text : Simple → String
  | .getter name => "this." ++ name ++ "()"
  | .call c => c.text

/-- The text begins like a line that returns. -/
def isReturn (line : String) : Bool := "return ".toList.isPrefixOf line.toList

/-- One line of code over expressions of type `ε`. -/
inductive Line (ε : Type) where
  | bind (type : ResultType) (name : String) (value : ε)
  | perform (value : ε)
  | verdict (name : String) (matcher : MatcherKind) (operand : String) (arguments : List Operand)
  | give (value : String)
  deriving DecidableEq, Repr

namespace Line

/-- The line over other expressions. -/
protected def map (f : ε → δ) : Line ε → Line δ
  | .bind type name value => .bind type name (f value)
  | .perform value => .perform (f value)
  | .verdict name matcher operand arguments => .verdict name matcher operand arguments
  | .give value => .give value

/-- The line's text. -/
def text (expression : ε → String) : Line ε → String
  | .bind type name value => type.simpleName ++ " " ++ name ++ " = " ++ expression value
  | .perform value => expression value
  | .verdict name matcher operand arguments =>
    "Boolean " ++ name ++ " = " ++ matcher.expression operand (arguments.map Operand.code)
  | .give value => "return " ++ value

/-- The line begins like one that returns. That is told from its text: a declaration of a type named
`return` would begin so, too. -/
def returns (expression : ε → String) (line : Line ε) : Bool := isReturn (line.text expression)

/-- The variable that the line binds. -/
def bound? : Line ε → Option String
  | .bind _ name _ => some name
  | .verdict name _ _ _ => some name
  | _ => none

end Line

/-- An expression of a method's own sequence: a simple one, or a wait until the closure returns
true. -/
inductive Expression where
  | simple (value : Simple)
  | wait (closure : List (Line Simple)) (result : String)
  deriving DecidableEq, Repr

/-- The expression's text; the lines of a closure stand on lines of their own. -/
def Expression.text : Expression → String
  | .simple value => value.text
  | .wait closure result =>
    "this.waitFor(() -> \x7b\n" ++
      String.join ((closure ++ [Line.give result]).map fun (line : Line Simple) =>
        line.text Simple.text ++ ";\n") ++
      "\x7d)"

/-- What a statement becomes: its lines, the variable that holds its value, and the type of that
value. -/
structure Built (ε : Type) where
  index : Nat
  variableName : Option String
  returnType : ResultType
  lines : List (Line ε)
  isLast : Bool
  isWait : Bool := false
  deriving DecidableEq, Repr

/-- The statement over other expressions. -/
protected def Built.map (f : ε → δ) (b : Built ε) : Built δ :=
  { b with lines := b.lines.map (Line.map f) }

end PageObjects
