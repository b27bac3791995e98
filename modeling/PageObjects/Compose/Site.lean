import PageObjects.Compose.Naming
import PageObjects.ResultType

/-!
# Where a statement stands

What is generated for a statement depends on its site: its index, whether it is the last of its
sequence, whether the sequence is a predicate, the type of the value before it, and the type that it
declares.

A `Site` is the Statement Context of the specification (3 and 4.1), and a `Position` the kind of a
statement. `Site.variableName`, `Site.matcherVariable` and `Site.elementVariable` are its
`variable_name`, `matcher_variable_name` and `element_variable_name`, `Site.chainOperand` is
`chain_operand`, `Site.requiredType` is `declared_return_type`, and `Site.flattensChain` is
`is_flat_map`.
-/

namespace PageObjects

/-- The position of a statement in its sequence. -/
inductive Position where
  | regular
  | last
  | predicate
  | predicateLast
  deriving DecidableEq, Repr, Inhabited

namespace Position

/-- The position of the statement at an index among `count` statements. -/
def of (index count : Int) (inPredicate : Bool) : Position :=
  match inPredicate, index == count - 1 with
  | false, false => .regular
  | false, true => .last
  | true, false => .predicate
  | true, true => .predicateLast

/-- The name of the position. -/
def name : Position → String
  | .regular => "regular"
  | .last => "last"
  | .predicate => "predicate"
  | .predicateLast => "predicate_last"

/-- The position of a name. -/
def ofName? (name : String) : Option Position :=
  [regular, last, predicate, predicateLast].find? (·.name == name)

/-- The sequence is a predicate. -/
def inPredicate : Position → Bool
  | .predicate | .predicateLast => true
  | .regular | .last => false

end Position

/-- A chain without a statement before it. -/
structure ChainError where
  index : Int
  deriving DecidableEq, Repr

/-- The error in words. -/
def ChainError.message (e : ChainError) : String :=
  s!"Statement {e.index} has no previous statement to chain on"

/-- The value that a chained statement is called on. -/
structure ChainOperand where
  name : String
  isList : Bool
  deriving DecidableEq, Repr

/-- Where a statement stands. -/
structure Site where
  previous : Option ResultType
  index : Int
  position : Position
  declared : ResultType := .unset
  returnAll : Bool := false
  deriving DecidableEq, Repr, Inhabited

namespace Site

/-- The statement stands in a predicate. -/
def inPredicate (s : Site) : Bool := s.position.inPredicate

/-- The statement is the last of a method. -/
def isLast (s : Site) : Bool := s.position == .last

/-- The statement is the last of a predicate. -/
def isLastOfPredicate (s : Site) : Bool := s.position == .predicateLast

/-- The statement is the first of its sequence. -/
def isFirst (s : Site) : Bool := s.index == 0

/-- The statement declares a type. -/
def declares (s : Site) : Bool := !s.declared.isUnset

/-- The value before the statement is a list. -/
def followsList (s : Site) : Bool := (s.previous.map ResultType.isList).getD false

/-- Lists of lists are flattened in a chain: the value before is a list, and all matches are asked
for. -/
def flattensChain (s : Site) : Bool := s.followsList && s.returnAll

/-- The variable of the statement's value. -/
def variableName (s : Site) : String := Naming.statementVariable s.index s.inPredicate

/-- The variable of the verdict of the statement's matcher. -/
def matcherVariable (s : Site) : String := Naming.matcherVariable s.index s.inPredicate

/-- The variable of an element that the statement is the first to use. -/
def elementVariable (s : Site) (element : String) : String :=
  Naming.elementVariable element s.index s.inPredicate

/-- What the statement chains on. -/
def chainOperand (s : Site) : Except ChainError ChainOperand :=
  if s.index < 1 then .error ⟨s.index⟩ else .ok ⟨Naming.chainVariable s.index, s.followsList⟩

/-- The type that the statement has to have: the one it declares; for the last statement of a method
the one that the method declares; else `default`. -/
def requiredType (s : Site) (default methodReturn : ResultType) : ResultType :=
  if s.declares then s.declared
  else if s.isLast && !methodReturn.isUnset then methodReturn
  else default

end Site
end PageObjects
