import PageObjects.Document.Argument
import PageObjects.Json.Quote
import PageObjects.ResultType

/-!
# Operands of calls

An argument of a document becomes an operand of generated code: a constant written in place, or a
parameter of the generated method. Parameters are of primitive types, and one name stands for one
type in a method. This is the Operand Resolver of the specification (4.3); what becomes of one
name with two types is decided in 4.2.
-/

namespace PageObjects

/-- The type of a constant. -/
def Literal.type : Literal → ResultType
  | .bool _ => .boolean
  | .int _ => .number
  | .text _ => .string

/-- The constant as it is written in code. -/
def Literal.code : Literal → String
  | .bool b => if b then "true" else "false"
  | .int n => toString n
  | .text chars => Json.Quote.encode chars

/-- A parameter of a generated method. -/
structure Parameter where
  name : String
  type : ResultType
  deriving DecidableEq, Repr, Inhabited

/-- A parameter as it stands in a signature. -/
def Parameter.declaration (p : Parameter) : String := p.type.simpleName ++ " " ++ p.name

/-- An argument of a call in generated code. -/
inductive Operand where
  | literal (value : Literal)
  | parameter (p : Parameter)
  deriving DecidableEq, Repr, Inhabited

/-- Why an argument cannot be used. -/
inductive OperandError where
  | unsupportedType (name type : String)
  | conflict (name : String) (first second : ResultType)
  deriving DecidableEq, Repr

/-- The error in words. -/
def OperandError.message : OperandError → String
  | .unsupportedType name type =>
    s!"Parameter '{name}' has unsupported type '{type}', expected one of {Text.quotedList (Text.sorted (ResultType.primitives.map Prod.fst))}"
  | .conflict name first second =>
    s!"parameter '{name}' declared as both '{first.simpleName}' and '{second.simpleName}'"

namespace Operand

/-- The operand that an argument becomes. -/
def ofArgument : Argument → Except OperandError Operand
  | .literal value _ => .ok (.literal value)
  | .parameter name type =>
    match ResultType.primitives.lookup type with
    | some t => .ok (.parameter ⟨name, t⟩)
    | none => .error (.unsupportedType name type)

/-- The operand's type. -/
def type : Operand → ResultType
  | .literal value => value.type
  | .parameter p => p.type

/-- The operand as it is written in a call. -/
def code : Operand → String
  | .literal value => value.code
  | .parameter p => p.name

/-- The operands as they are written in a call. -/
def codeOfList (operands : List Operand) : String := ", ".intercalate (operands.map code)

end Operand

/-- The parameters with one more. A known name keeps its place, and has to keep its type. -/
def addParameter (parameters : List Parameter) (p : Parameter) :
    Except OperandError (List Parameter) :=
  match parameters.find? (·.name == p.name) with
  | none => .ok (parameters ++ [p])
  | some known =>
    if known.type.same p.type then .ok parameters
    else .error (.conflict p.name known.type p.type)

/-- The parameters with further ones. -/
def addParameters (parameters : List Parameter) (more : List Parameter) :
    Except OperandError (List Parameter) :=
  more.foldlM addParameter parameters

end PageObjects
