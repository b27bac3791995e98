import PageObjects.Document.Element
import PageObjects.Document.Statement

/-!
# Page object documents

A document declares a page object: its root and elements, the statements that run before it counts
as loaded, and the methods composed of statements. The shape of a document is that of the Grammar
(specification, 3).
-/

namespace PageObjects

/-- A method composed of statements. -/
structure Method where
  name : String
  description : Option String := none
  returnType : Option String := none
  returnAll : Bool := false
  compose : List Statement
  deriving Inhabited

namespace Method

/-- The name is an identifier, and there are statements. -/
def check (m : Method) : Except Rule Method :=
  if !Text.isIdentifier m.name then .error (.methodNotIdentifier m.name)
  else if m.compose.isEmpty then .error (.methodEmpty m.name)
  else .ok m

/-- The keys of a method. -/
def keys : List Key :=
  [.plain "name", .plain "description", ⟨"returnType", "return_type"⟩, ⟨"returnAll", "return_all"⟩,
    .plain "compose"]

/-- The fields of a method. -/
def readFields (fields : Fields) : Reading Method :=
  Method.mk
    <$> fields.required (.plain "name") readText
    <*> fields.optional (.plain "description") none (readOptional readText)
    <*> fields.optional ⟨"returnType", "return_type"⟩ none (readOptional readText)
    <*> fields.optional ⟨"returnAll", "return_all"⟩ false readBoolean
    <*> fields.required (.plain "compose") (readList Statement.readPart)
    <* fields.onlyKeys keys

/-- A method. -/
def read : Reader Method :=
  fun v => (readModel "MethodSpec" readFields v).checked check

/-- The method as a value with all fields written. -/
def toJson (spelling : Spelling) (m : Method) : Json :=
  .object [("name", .text m.name), ("description", .ofText? m.description),
    (Key.spelled ⟨"returnType", "return_type"⟩ spelling, .ofText? m.returnType),
    (Key.spelled ⟨"returnAll", "return_all"⟩ spelling, .bool m.returnAll),
    ("compose", .list (m.compose.map (Statement.toJson spelling)))]

end Method

/-- The document of a page object. -/
structure Document where
  description : Option String := none
  isRoot : Bool := false
  selector : Option Selector := none
  interfaces : List String := []
  exposeRootElement : Bool := false
  elements : List Element := []
  beforeLoad : List Statement := []
  methods : List Method := []
  deriving Inhabited

namespace Document

/-- A page object has a selector of its own exactly when it is a root. -/
def check (d : Document) : Except Rule Document :=
  match d.isRoot, d.selector with
  | true, none => .error .rootWithoutSelector
  | false, some _ => .error .selectorWithoutRoot
  | _, _ => .ok d

/-- The keys of a document. -/
def keys : List Key :=
  [.plain "description", .plain "root", .plain "selector", .plain "type",
    ⟨"exposeRootElement", "expose_root_element"⟩, .plain "elements", ⟨"beforeLoad", "before_load"⟩,
    .plain "methods"]

/-- The fields of a document. -/
def readFields (fields : Fields) : Reading Document :=
  Document.mk
    <$> fields.optional (.plain "description") none (readOptional readText)
    <*> fields.optional (.plain "root") false readBoolean
    <*> fields.optional (.plain "selector") none (readOptional Selector.read)
    <*> fields.optional (.plain "type") [] (readList readText)
    <*> fields.optional ⟨"exposeRootElement", "expose_root_element"⟩ false readBoolean
    <*> fields.optional (.plain "elements") [] (readList Element.read)
    <*> fields.optional ⟨"beforeLoad", "before_load"⟩ [] (readList Statement.readPart)
    <*> fields.optional (.plain "methods") [] (readList Method.read)
    <* fields.onlyKeys keys

/-- A document. -/
def read : Reader Document :=
  fun v => (readModel "PageObjectSpec" readFields v).checked check

/-- The document as a value with all fields written. -/
def toJson (spelling : Spelling) (d : Document) : Json :=
  .object [("description", .ofText? d.description), ("root", .bool d.isRoot),
    ("selector", match d.selector with | none => .null | some s => s.toJson spelling),
    ("type", .ofTexts d.interfaces),
    (Key.spelled ⟨"exposeRootElement", "expose_root_element"⟩ spelling, .bool d.exposeRootElement),
    ("elements", .list (d.elements.map (Element.toJson spelling))),
    (Key.spelled ⟨"beforeLoad", "before_load"⟩ spelling,
      .list (d.beforeLoad.map (Statement.toJson spelling))),
    ("methods", .list (d.methods.map (Method.toJson spelling)))]

end Document
end PageObjects
