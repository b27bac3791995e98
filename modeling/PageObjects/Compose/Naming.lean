/-!
# Names of variables in generated code

A variable is named by the position of its statement: its index in the sequence, and a `p` in front
inside a predicate. A chained statement reads the variable of the statement before it; a chain never
stands in a predicate, so that name has no `p`. This is the Naming Scheme of the specification (4.1
and 4.3): `variable_name`, `matcher_variable_name`, `element_variable_name`, and the name of a
`chain_operand`.
-/

namespace PageObjects.Naming

/-- What stands in front of the names inside a predicate. -/
def predicateMark (inPredicate : Bool) : String := if inPredicate then "p" else ""

/-- The variable of a statement's value. -/
def statementVariable (index : Int) (inPredicate : Bool) : String :=
  predicateMark inPredicate ++ "statement" ++ toString index

/-- The variable of a matcher's verdict. -/
def matcherVariable (index : Int) (inPredicate : Bool) : String :=
  predicateMark inPredicate ++ "matcher" ++ toString index

/-- The variable of an element. -/
def elementVariable (element : String) (index : Int) (inPredicate : Bool) : String :=
  predicateMark inPredicate ++ element ++ toString index

/-- The variable that a statement chains on. -/
def chainVariable (index : Int) : String := "statement" ++ toString (index - 1)

end PageObjects.Naming
