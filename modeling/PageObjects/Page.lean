import PageObjects.Document.Element
import PageObjects.ResultType

/-!
# The page object under construction

A `Page` is the name and package of the page object that is generated, with the elements it knows:
the root and every declared element, each under a name of its own. A `Page` is the Translation
Context of the specification (2): the elements, the names of their types, and their getters.

* `Page.add` refuses a second element of one name.
* `Page.find` looks an element up.
* `Page.resolve` gives the type that a keyword stands for in this page object.
-/

namespace PageObjects

/-- An element as the generated code sees it. Its type has a capitalized name. -/
structure PageElement where
  name : String
  type : NamedType
  getter : String
  isList : Bool := false
  isPublic : Bool := false
  selector : Option Selector := none
  capitalized : type.Capitalized := by decide
  deriving DecidableEq, Repr

namespace PageElement

instance : Inhabited PageElement := ⟨{ name := "", type := default, getter := "" }⟩

/-- The type of the getter: a list when the selector returns all matches. -/
def returnType (e : PageElement) : ResultType :=
  if e.isList then .list (.named e.type) false else .named e.type

/-- The name of the root element. -/
def rootName : String := "root"

/-- The root element of a page object. -/
def root (interfaces : List String) (isPublic : Bool) : PageElement :=
  { name := rootName, type := ResultType.ofElement rootName interfaces, getter := "getRootElement", isPublic,
    capitalized := ResultType.ofElement_capitalized }

/-- A declared element. -/
def ofDeclaration (e : Element) : Except TypeError PageElement :=
  match e.kind with
  | .pageObject reference =>
    match h : ResultType.ofReference reference with
    | .error e => .error e
    | .ok type =>
      .ok { name := e.name, type, getter := "get" ++ Text.capitalize e.name,
            isList := e.selector.returnAll, isPublic := e.isPublic, selector := some e.selector,
            capitalized := ResultType.ofReference_capitalized h }
  | kind =>
    .ok { name := e.name, type := ResultType.ofElement e.name kind.interfaces,
          getter := "get" ++ Text.capitalize e.name ++ "Element",
          isList := e.selector.returnAll, isPublic := e.isPublic, selector := some e.selector,
          capitalized := ResultType.ofElement_capitalized }

end PageElement

/-- A page object and its elements, in the order in which they were added. -/
structure Page where
  name : String
  package : String := ""
  elements : List PageElement := []
  deriving DecidableEq, Repr, Inhabited

/-- Why an element is not added or not found. -/
inductive PageError where
  | type (e : TypeError)
  | duplicateElement (element page : String)
  | unknownElement (element page : String) (known : List String)
  deriving DecidableEq, Repr

/-- The error in words. -/
def PageError.message : PageError → String
  | .type e => e.message
  | .duplicateElement element page => s!"Duplicate element '{element}' in page object '{page}'"
  | .unknownElement element page known =>
    s!"Unknown element '{element}' in page object '{page}', declared elements: {Text.quotedList (Text.sorted known)}"

/-- The name with its package. -/
def qualified (package name : String) : String :=
  if package.isEmpty then name else package ++ "." ++ name

namespace Page

/-- The name with its package. -/
def fullName (p : Page) : String := qualified p.package p.name

/-- The page object's own type. -/
def ownType (p : Page) : ResultType := .self p.name

/-- The element of a name. -/
def find? (p : Page) (name : String) : Option PageElement := p.elements.find? (·.name == name)

/-- The element of a name. -/
def find (p : Page) (name : String) : Except PageError PageElement :=
  match p.find? name with
  | some e => .ok e
  | none => .error (.unknownElement name p.name (p.elements.map PageElement.name))

/-- The page object with one more element. -/
def add (p : Page) (e : PageElement) : Except PageError Page :=
  if (p.find? e.name).isSome then .error (.duplicateElement e.name p.name)
  else .ok { p with elements := p.elements ++ [e] }

/-- The page object with one more declared element. -/
def declare (p : Page) (e : Element) : Except PageError Page :=
  match PageElement.ofDeclaration e with
  | .ok element => p.add element
  | .error e => .error (.type e)

/-- The page object with further declared elements. -/
def declareAll (p : Page) (elements : List Element) : Except PageError Page :=
  elements.foldlM declare p

/-- The type that a keyword stands for, or a list of it where all matches are asked for. -/
def resolve (p : Page) (keyword? : Option String) (returnAll : Bool) : Except TypeError ResultType :=
  ResultType.resolve p.ownType keyword? returnAll

end Page
end PageObjects
