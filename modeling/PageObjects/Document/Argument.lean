import PageObjects.Shape.Reading

/-!
# Arguments and matchers

An argument of a call is a literal or a parameter of the method that holds the call. A matcher is a
check on the value of a statement, with arguments of its own. Both have the shape that the Grammar
gives them (specification, 3).
-/

namespace PageObjects

/-- A constant in a document. -/
inductive Literal where
  | bool (value : Bool)
  | int (value : Int)
  | text (value : String)
  deriving DecidableEq, Repr, Inhabited

namespace Literal

/-- The constant as a value. -/
def toJson : Literal → Json
  | .bool b => .bool b
  | .int n => .int n
  | .text chars => .text chars

/-- The problems of a value that is no constant: one for each kind of constant, `number` for the
integer. -/
def refuse (number : Fault) : Reading α :=
  .refused [⟨[.key "bool"], .notBoolean⟩, ⟨[.key "int"], number⟩, ⟨[.key "str"], .notText⟩]

/-- A constant. A number with a point or an exponent stands for false or true when it is zero or
one, and for the integer it is equal to otherwise. -/
def read : Reader Literal
  | .bool b => .done (.bool b)
  | .int n => .done (.int n)
  | .text chars => .done (.text chars)
  | .real r =>
    match readWholeReal r with
    | .done n => .done (if n == 0 then .bool false else if n == 1 then .bool true else .int n)
    | .refused problems => refuse ((problems.head?.map Problem.fault).getD .notInteger)
  | _ => refuse .notInteger

end Literal

/-- An argument: a literal, whose type a document may also name, or a parameter. -/
inductive Argument where
  | literal (value : Literal) (type : Option String)
  | parameter (name : String) (type : String)
  deriving DecidableEq, Repr, Inhabited

namespace Argument

/-- The argument is a literal. -/
def isLiteral : Argument → Bool
  | .literal _ _ => true
  | .parameter _ _ => false

/-- The argument with the given fields: a value without a name, or a name and a type. -/
def ofFields : Option String × Option String × Option Literal → Except Rule Argument
  | (some name, some type, none) => .ok (.parameter name type)
  | (_, _, none) => .error .argumentIncomplete
  | (some name, _, some _) => .error (.argumentNameAndValue name)
  | (none, type, some value) => .ok (.literal value type)

/-- The keys of an argument. -/
def keys : List Key := [.plain "name", .plain "type", .plain "value"]

/-- The fields of an argument. -/
def readFields (fields : Fields) : Reading (Option String × Option String × Option Literal) :=
  (fun name type value => (name, type, value))
    <$> fields.optional (.plain "name") none (readOptional readText)
    <*> fields.optional (.plain "type") none (readOptional readText)
    <*> fields.optional (.plain "value") none (readOptional Literal.read)
    <* fields.onlyKeys keys

/-- An argument. -/
def read : Reader Argument :=
  fun v => (readModel "ArgumentSpec" readFields v).checked ofFields

/-- The argument as a value with all fields written. -/
def toJson : Argument → Json
  | .literal value type =>
    .object [("name", .null), ("type", .ofText? type), ("value", value.toJson)]
  | .parameter name type =>
    .object [("name", .text name), ("type", .text type), ("value", .null)]

end Argument

/-- A check on a statement's value. -/
structure Matcher where
  type : String
  args : List Argument := []
  deriving DecidableEq, Repr, Inhabited

namespace Matcher

/-- The keys of a matcher. -/
def keys : List Key := [.plain "type", .plain "args"]

/-- The fields of a matcher. -/
def readFields (fields : Fields) : Reading Matcher :=
  Matcher.mk
    <$> fields.required (.plain "type") readText
    <*> fields.optional (.plain "args") [] (readList Argument.read)
    <* fields.onlyKeys keys

/-- A matcher. -/
def read : Reader Matcher := readModel "MatcherSpec" readFields

/-- The matcher as a value with all fields written. -/
def toJson (m : Matcher) : Json :=
  .object [("type", .text m.type), ("args", .list (m.args.map Argument.toJson))]

end Matcher
end PageObjects
