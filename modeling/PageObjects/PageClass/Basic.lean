import PageObjects.Catalog.Locator
import PageObjects.Compose.Operand
import PageObjects.Page

/-!
# Generated page classes

What a page object document becomes: a class with a getter for each element, a method for each
compose method, and the method that runs before the page object counts as loaded. Statements hold
their code as text; a wait's closure is one line of code that spans several lines of text. This
is the IR of the specification (2): emitted statements, methods, element getters and the page
object. That the method before loading is `Object load()` is decided in 4.2.
-/

namespace PageObjects

/-- One generated statement, with any look-up of an element that it needs. -/
structure Emitted where
  index : Int
  variableName : Option String := none
  returnType : ResultType
  codeLines : List String
  isLast : Bool := false
  isWait : Bool := false
  deriving DecidableEq, Repr, Inhabited

/-- The body of a generated method. -/
structure Body where
  statements : List Emitted
  returnType : ResultType
  parameters : List Parameter := []
  deriving DecidableEq, Repr, Inhabited

/-- The lines of a body. -/
def Body.codeLines (b : Body) : List String := b.statements.flatMap Emitted.codeLines

/-- The head of a generated method. -/
structure Signature where
  name : String
  returnType : ResultType
  parameters : List Parameter := []
  deriving DecidableEq, Repr, Inhabited

/-- The head as it is written in code. -/
def Signature.code (s : Signature) : String :=
  s.returnType.simpleName ++ " " ++ s.name ++ "(" ++
    ", ".intercalate (s.parameters.map Parameter.declaration) ++ ")"

/-- A generated method. -/
structure ClassMethod where
  signature : Signature
  body : Body
  isPublic : Bool := true
  description : Option String := none
  deriving DecidableEq, Repr, Inhabited

/-- The getter of an element. -/
structure Getter where
  elementName : String
  getterName : String
  returnType : ResultType
  marker : Option String := none
  interfaces : List String := []
  isPublic : Bool := false
  deriving DecidableEq, Repr, Inhabited

namespace Getter

/-- The getter's head as it is written in code. -/
def declaration (g : Getter) : String := g.returnType.simpleName ++ " " ++ g.getterName ++ "()"

/-- The getter of an element. The root element has no annotation of its own: its selector stands at
the class. -/
def ofElement (e : PageElement) : Getter :=
  { elementName := e.name, getterName := e.getter, returnType := e.returnType,
    marker := e.selector.map Selector.marker, interfaces := e.type.interfaces.getD [],
    isPublic := e.isPublic }

end Getter

/-- A generated page class. -/
structure PageClass where
  name : String
  package : String
  description : Option String := none
  isRoot : Bool := false
  rootMarker : Option String := none
  rootInterfaces : List String := []
  exposeRootElement : Bool := false
  elements : List Getter := []
  methods : List ClassMethod := []
  beforeLoad : Option ClassMethod := none
  deriving DecidableEq, Repr, Inhabited

namespace PageClass

/-- The name of the method that runs before the page object counts as loaded. -/
def beforeLoadName : String := "load"

/-- The name with its package. -/
def fullName (c : PageClass) : String := qualified c.package c.name

/-- The name of the class that implements the page object. -/
def implementationName (c : PageClass) : String := c.name ++ "Impl"

/-- The methods, with the one that runs before loading at the end. -/
def allMethods (c : PageClass) : List ClassMethod := c.methods ++ c.beforeLoad.toList

/-- The method of a name. -/
def method? (c : PageClass) (name : String) : Option ClassMethod :=
  if name == beforeLoadName then c.beforeLoad else c.methods.find? (·.signature.name == name)

/-- The getters that the interface shows, with that of an exposed root. -/
def publicElements (c : PageClass) : List Getter := c.elements.filter Getter.isPublic

end PageClass
end PageObjects
