import PageObjects.Catalog.Action
import PageObjects.Catalog.Matcher
import PageObjects.Compose.Operand
import PageObjects.Compose.Site
import PageObjects.Page

/-!
# Why a method cannot be composed

Most errors are faults of one statement and say where it stands. A type keyword and an element that
are not known, and a method without statements, are reported without a place. The families
(`ErrorKind`) are the taxonomy of the specification (7). What a message names is said there and in
4.2.
-/

namespace PageObjects

/-- What takes part in a conflict of types. -/
inductive Subject where
  | wait
  | element (name : String)
  | action (name : String)
  | matcher (name : String)
  deriving DecidableEq, Repr

/-- The subject in words. -/
def Subject.message : Subject → String
  | .wait => "waitFor"
  | .element name => s!"element '{name}'"
  | .action name => s!"action '{name}'"
  | .matcher name => s!"matcher '{name}'"

/-- What is wrong with one statement. -/
inductive StatementFault where
  | waitInPredicate
  | emptyPredicate
  | chainInPredicate
  | chainOnNothing
  | chain (e : ChainError)
  | chainOn (type : String)
  | conflict (declared : ResultType) (subject : Subject) (actual : ResultType)
  | action (e : ActionError)
  | argumentCount (action : String) (expected given : Nat)
  | argumentType (position : Nat) (subject : Subject) (expected given : ResultType)
  | operand (e : OperandError)
  | matcherWithoutValue
  | matcher (e : MatcherError)
  deriving DecidableEq, Repr

/-- The fault in words. -/
def StatementFault.message : StatementFault → String
  | .waitInPredicate => "waitFor cannot be nested inside a predicate"
  | .emptyPredicate => "waitFor predicate is empty"
  | .chainInPredicate => "chain is not supported inside a predicate"
  | .chainOnNothing => "chain requires a previous statement in the same method"
  | .chain e => e.message
  | .chainOn type => s!"cannot chain on previous result of type '{type}'"
  | .conflict declared subject actual =>
    s!"declared return type '{declared.simpleName}' conflicts with {subject.message} returning '{actual.simpleName}'"
  | .action e => e.message
  | .argumentCount name expected given =>
    s!"action '{name}' expects {expected} argument(s), got {given}"
  | .argumentType position subject expected given =>
    s!"argument {position} of {subject.message} must be {expected.simpleName}, got {given.simpleName}"
  | .operand e => e.message
  | .matcherWithoutValue => "matcher requires a statement that returns a value"
  | .matcher e => e.message

/-- Why a method cannot be composed. -/
inductive ComposeError where
  | empty (method : String)
  | type (e : TypeError)
  | page (e : PageError)
  | statement (method : String) (index : Int) (inPredicate : Bool) (fault : StatementFault)
  | returnType (method : String) (index : Nat) (declared last : ResultType)
  deriving DecidableEq, Repr

/-- Where a statement stands, in words. -/
def statementPlace (method : String) (index : Int) (inPredicate : Bool) : String :=
  s!"method '{method}', statement {index}" ++ if inPredicate then " of predicate" else ""

/-- The error in words. -/
def ComposeError.message : ComposeError → String
  | .empty method => s!"method '{method}': no statements to compose"
  | .type e => e.message
  | .page e => e.message
  | .statement method index inPredicate fault =>
    statementPlace method index inPredicate ++ ": " ++ fault.message
  | .returnType method index declared last =>
    s!"method '{method}', statement {index}: method declares '{declared.simpleName}' but last statement returns '{last.simpleName}'"

/-- The families of errors that a change of the document can mend, and the one that is a mistake of
the compiler. -/
inductive ErrorKind where
  | grammar
  | unknownAction
  | returnTypeConflict
  | chainReference
  | predicate
  | selector
  | writer
  | internal
  deriving DecidableEq, Repr

namespace StatementFault

/-- The family of a fault. -/
def kind : StatementFault → ErrorKind
  | .waitInPredicate | .emptyPredicate | .chainInPredicate => .predicate
  | .chainOnNothing | .chainOn _ => .chainReference
  | .chain _ => .internal
  | .conflict _ _ _ | .matcherWithoutValue => .returnTypeConflict
  | .action _ => .unknownAction
  | .argumentCount _ _ _ | .argumentType _ _ _ _ | .operand _ | .matcher _ => .grammar

end StatementFault

/-- The family of an error. -/
def ComposeError.kind : ComposeError → ErrorKind
  | .empty _ | .type _ | .page _ => .grammar
  | .statement _ _ _ fault => fault.kind
  | .returnType _ _ _ _ => .returnTypeConflict

end PageObjects
