import PageObjects.Text.Quoted

/-!
# What is wrong with a value, and where

A value that does not have the shape asked for is described by a list of problems, each with the
path from the outermost value to the place at fault. The problems of a document make up the
`GrammarError` of the specification (7), those of settings the error of its `RunnerConfig` (10).
-/

namespace PageObjects

/-- One step into a value: the field under a key, the item at an index, or the branch of a choice
that was tried. -/
inductive Step where
  | key (name : String)
  | index (position : Nat)
  deriving DecidableEq, Repr

/-- A broken rule: what a node of a document has to keep beyond the shapes of its fields. -/
inductive Rule where
  | oneDialect (used : List String)
  | argumentIncomplete
  | argumentNameAndValue (name : String)
  | chainWithElement (element : String)
  | chainWithoutApply
  | noTarget
  | predicateWithoutWait
  | elementNotIdentifier (name : String)
  | elementReserved (name : String)
  | methodNotIdentifier (name : String)
  | methodEmpty (name : String)
  | rootWithoutSelector
  | selectorWithoutRoot
  deriving DecidableEq, Repr

/-- The rule that is broken, in words. -/
def Rule.message : Rule → String
  | .oneDialect used =>
    s!"Selector must use exactly one of css, accessid, classchain, uiautomator; got {Text.quotedList used}"
  | .argumentIncomplete => "Argument needs either 'value' or both 'name' and 'type'"
  | .argumentNameAndValue name => s!"Argument '{name}' cannot have both 'name' and 'value'"
  | .chainWithElement element => s!"Statement with 'chain' cannot also reference element '{element}'"
  | .chainWithoutApply => "Statement with 'chain' must have 'apply'"
  | .noTarget => "Statement needs 'element' or 'apply'"
  | .predicateWithoutWait => "Only 'waitFor' statements can have a predicate"
  | .elementNotIdentifier name => s!"Element name '{name}' is not a valid identifier"
  | .elementReserved name => s!"Element name '{name}' is reserved"
  | .methodNotIdentifier name => s!"Method name '{name}' is not a valid identifier"
  | .methodEmpty name => s!"Method '{name}' has no compose statements"
  | .rootWithoutSelector => "Root page object must have a selector"
  | .selectorWithoutRoot => "Only a root page object can have a selector"

/-- What is wrong at one place. -/
inductive Fault where
  | missing
  | unknownKey
  | notModel (model : String)
  | notObject
  | notFields
  | notText
  | notList
  | notTuple
  | notPath
  | notBoolean
  | unreadableBoolean
  | notInteger
  | unreadableInteger
  | oversizedInteger
  | fractional
  | notFinite
  | below (least : Int)
  | tagMissing
  | tagUnknown (tag : String)
  | form
  | tooDeep
  | broken (rule : Rule)
  deriving DecidableEq, Repr

/-- The short name of a fault. -/
def Fault.code : Fault → String
  | .missing => "missing"
  | .unknownKey => "extra_forbidden"
  | .notModel _ => "model_type"
  | .notObject => "dict_type"
  | .notFields => "model_attributes_type"
  | .notText => "string_type"
  | .notList => "list_type"
  | .notTuple => "tuple_type"
  | .notPath => "path_type"
  | .notBoolean => "bool_type"
  | .unreadableBoolean => "bool_parsing"
  | .notInteger => "int_type"
  | .unreadableInteger => "int_parsing"
  | .oversizedInteger => "int_parsing_size"
  | .fractional => "int_from_float"
  | .notFinite => "finite_number"
  | .below _ => "greater_than_equal"
  | .tagMissing => "union_tag_not_found"
  | .tagUnknown _ => "union_tag_invalid"
  | .form => "json_invalid"
  | .tooDeep => "recursion_depth_exceeded"
  | .broken _ => "value_error"

/-- The fault in words. -/
def Fault.message : Fault → String
  | .missing => "Field required"
  | .unknownKey => "Extra inputs are not permitted"
  | .notModel model => s!"Input should be a valid dictionary or instance of {model}"
  | .notObject => "Input should be a valid dictionary"
  | .notFields => "Input should be a valid dictionary or object to extract fields from"
  | .notText => "Input should be a valid string"
  | .notList => "Input should be a valid list"
  | .notTuple => "Input should be a valid tuple"
  | .notPath => "Input is not a valid path for <class 'pathlib.Path'>"
  | .notBoolean => "Input should be a valid boolean"
  | .unreadableBoolean => "Input should be a valid boolean, unable to interpret input"
  | .notInteger => "Input should be a valid integer"
  | .unreadableInteger => "Input should be a valid integer, unable to parse string as an integer"
  | .oversizedInteger => "Unable to parse input string as an integer, exceeded maximum size"
  | .fractional => "Input should be a valid integer, got a number with a fractional part"
  | .notFinite => "Input should be a finite number"
  | .below least => s!"Input should be greater than or equal to {least}"
  | .tagMissing => "Unable to extract tag using discriminator 'kind'"
  | .tagUnknown tag =>
    s!"Input tag '{tag}' found using 'kind' does not match any of the expected tags: 'void', 'concrete', 'list', 'self', 'unset'"
  | .form => "JSON decode error"
  | .tooDeep => "Recursion error - maximum validation depth exceeded"
  | .broken rule => "Value error, " ++ rule.message

/-- A fault and the path to it. -/
structure Problem where
  path : List Step
  fault : Fault
  deriving DecidableEq, Repr

/-- The problem seen from one step further out. -/
def Problem.within (step : Step) (problem : Problem) : Problem :=
  { problem with path := step :: problem.path }

/-- The headline of a report of problems: their number and what they were found in. -/
def headline (subject : String) (problems : List Problem) : String :=
  if problems.length == 1 then s!"1 validation error for {subject}"
  else s!"{problems.length} validation errors for {subject}"

end PageObjects
