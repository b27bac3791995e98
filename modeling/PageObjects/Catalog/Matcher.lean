import PageObjects.ResultType

/-!
# Matchers that can be used

A matcher turns the value of a statement into a truth value, by an expression over the variable that
holds the value and the matcher's arguments. This is the matcher catalog among the Registries of the
specification (2).
-/

namespace PageObjects

/-- The checks on a value. -/
inductive MatcherKind where
  | isTrue
  | isFalse
  | notNull
  | stringContains
  | stringEquals
  deriving DecidableEq, Repr, Inhabited

/-- Why a matcher cannot be used. -/
inductive MatcherError where
  | unknown (name : String)
  | argumentCount (name : String) (expected : Nat) (given : Int)
  deriving DecidableEq, Repr

namespace MatcherKind

/-- Every matcher. -/
def all : List MatcherKind := [.isTrue, .isFalse, .notNull, .stringContains, .stringEquals]

/-- The name in a document. -/
def name : MatcherKind → String
  | .isTrue => "isTrue"
  | .isFalse => "isFalse"
  | .notNull => "notNull"
  | .stringContains => "stringContains"
  | .stringEquals => "stringEquals"

/-- The type of the value that is checked; none for any. -/
def operand? : MatcherKind → Option ResultType
  | .isTrue | .isFalse => some .boolean
  | .notNull => none
  | .stringContains | .stringEquals => some .string

/-- The types of the arguments. -/
def parameters : MatcherKind → List ResultType
  | .isTrue | .isFalse | .notNull => []
  | .stringContains | .stringEquals => [.string]

/-- The expression over the variable and the code of the arguments. -/
def expression (value : String) (arguments : List String) : MatcherKind → String
  | .isTrue => "Boolean.TRUE.equals(" ++ value ++ ")"
  | .isFalse => "Boolean.FALSE.equals(" ++ value ++ ")"
  | .notNull => value ++ " != null"
  | .stringContains =>
    "(" ++ value ++ "!= null && " ++ value ++ ".contains(" ++ arguments.headD "" ++ "))"
  | .stringEquals =>
    "(" ++ value ++ "!= null && " ++ value ++ ".equals(" ++ arguments.headD "" ++ "))"

/-- The expression, when there is an argument for each parameter. -/
def render? (value : String) (arguments : List String) (m : MatcherKind) : Option String :=
  if arguments.length < m.parameters.length then none else some (m.expression value arguments)

/-- The matcher of a name, used with the given number of arguments. A negative number is one that
no matcher takes. -/
def find (name : String) (count : Int) : Except MatcherError MatcherKind :=
  match all.find? (·.name == name) with
  | none => .error (.unknown name)
  | some matcher =>
    if count == matcher.parameters.length then .ok matcher
    else .error (.argumentCount name matcher.parameters.length count)

end MatcherKind

/-- The error in words. -/
def MatcherError.message : MatcherError → String
  | .unknown name =>
    s!"Unknown matcher '{name}', supported are {Text.quotedList (Text.sorted (MatcherKind.all.map MatcherKind.name))}"
  | .argumentCount name expected given =>
    s!"Matcher '{name}' expects {expected} argument(s), got {given}"

end PageObjects
