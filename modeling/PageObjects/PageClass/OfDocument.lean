import PageObjects.Compose.Build
import PageObjects.Document.Load
import PageObjects.Document.Review

/-!
# From a document to a page class

`PageClass.ofDocument` reviews a document, registers the root and every declared element, composes
each method and the statements that run before loading, and collects the page class.
`PageClass.ofSource` loads the document first. Every error names the page object.

This is the Translator of the specification (2): the document is validated, a Translation Context
and the getters are made, and the Compose Method Builder runs once for each method and once for the
statements before loading. Errors are scoped to the page object (7).
-/

namespace PageObjects

/-- Why a document has no page class. -/
inductive DocumentError where
  | load (e : LoadError)
  | review (findings : List Finding)
  | page (e : PageError)
  | compose (e : ComposeError)
  deriving DecidableEq, Repr

namespace DocumentError

/-- The error in words. -/
def message : DocumentError → String
  | .load e => e.message
  | .review findings => reviewMessage findings
  | .page e => e.message
  | .compose e => e.message

/-- The family of the error. -/
def kind : DocumentError → ErrorKind
  | .compose e => e.kind
  | _ => .grammar

/-- The problems of a document that does not have the shape of one. -/
def problems : DocumentError → List Problem
  | .load e => e.problems
  | _ => []

/-- The limit that stopped the reader, where the error is not about the document but about what its
reader can take. -/
def limit? : DocumentError → Option ReaderLimit
  | .load (.beyond limit) => some limit
  | _ => none

end DocumentError

/-- An error and the page object that it is about. -/
structure CompileError where
  fullName : String
  cause : DocumentError
  deriving DecidableEq, Repr

namespace CompileError

/-- The error in words. -/
def message (e : CompileError) : String := s!"page object '{e.fullName}': " ++ e.cause.message

/-- The family of the error. -/
def kind (e : CompileError) : ErrorKind := e.cause.kind

end CompileError

namespace PageClass

/-- The method that a composition becomes. -/
def methodOf (name : String) (description : Option String) (isPublic : Bool) (c : Composition) :
    ClassMethod :=
  { signature := { name, returnType := c.returnType, parameters := c.parameters },
    body := c.body, isPublic, description }

/-- The frame of a method of a document, with the type that it declares. -/
def frameOf (page : Page) (m : Method) : Except ComposeError Frame :=
  match page.resolve m.returnType m.returnAll with
  | .ok methodReturn => .ok { page, method := m.name, methodReturn }
  | .error e => .error (.type e)

/-- Composes a method of a document. -/
def composeMethod (page : Page) (m : Method) : Except ComposeError ClassMethod := do
  let frame ← frameOf page m
  let composition ← compose frame m.compose
  return methodOf m.name m.description true composition

/-- The frame of the statements that run before loading: a value is required, and statements that
name no element use the root. -/
def beforeLoadFrame (page : Page) : Frame :=
  { page, method := beforeLoadName, requiresValue := true, defaultElement := some "root" }

/-- Composes the statements that run before loading, if there are any. -/
def composeBeforeLoad (page : Page) (statements : List Statement) :
    Except ComposeError (Option ClassMethod) :=
  if statements.isEmpty then .ok none
  else (compose (beforeLoadFrame page) statements).map fun c =>
    some (methodOf beforeLoadName none false c)

/-- The page object with its root and its declared elements. -/
def pageOf (d : Document) (name package : String) : Except PageError Page := do
  let page ← Page.add { name, package } (.root d.interfaces d.exposeRootElement)
  page.declareAll d.elements

/-- Composes every method. -/
def composeAll (page : Page) (d : Document) :
    Except ComposeError (List ClassMethod × Option ClassMethod) := do
  let methods ← d.methods.mapM (composeMethod page)
  let beforeLoad ← composeBeforeLoad page d.beforeLoad
  return (methods, beforeLoad)

/-- The page class of a page and its methods. -/
def assemble (page : Page) (d : Document) (methods : List ClassMethod)
    (beforeLoad : Option ClassMethod) : PageClass :=
  { name := page.name, package := page.package, description := d.description, isRoot := d.isRoot,
    rootMarker := d.selector.map Selector.marker, rootInterfaces := d.interfaces,
    exposeRootElement := d.exposeRootElement, elements := page.elements.map Getter.ofElement,
    methods, beforeLoad }

/-- The page class of a document, or what is wrong with the document. -/
def build (d : Document) (name package : String) : Except DocumentError PageClass :=
  match d.findings with
  | [] =>
    match pageOf d name package with
    | .error e => .error (.page e)
    | .ok page =>
      match composeAll page d with
      | .error e => .error (.compose e)
      | .ok (methods, beforeLoad) => .ok (assemble page d methods beforeLoad)
  | findings => .error (.review findings)

/-- The page class of a document; an error names the page object. -/
def ofDocument (d : Document) (name package : String) : Except CompileError PageClass :=
  (build d name package).mapError fun cause => ⟨qualified package name, cause⟩

/-- The page class of a source; an error names the page object. -/
def ofSource (source : Source) (name package : String) : Except CompileError PageClass :=
  match Document.load source with
  | .ok d => ofDocument d name package
  | .error e => .error ⟨qualified package name, .load e⟩

end PageClass
end PageObjects
