import PageObjects.Document.Selector
import PageObjects.Text.Identifier

/-!
# Elements

An element of a page object is found by a selector. It is a basic element with interfaces, or
another page object, named by a reference. Elements have the shape that the Grammar gives them
(specification, 3).
-/

namespace PageObjects

/-- The names that stand for an element in every page object. -/
def reservedElements : List String := ["root", "document", "self"]

/-- What an element is. -/
inductive ElementKind where
  | basic (interfaces : List String)
  | pageObject (reference : String)
  | untyped
  deriving DecidableEq, Repr, Inhabited

namespace ElementKind

/-- The interfaces that are declared. -/
def interfaces : ElementKind → List String
  | .basic names => names
  | _ => []

/-- The reference to another page object. -/
def reference? : ElementKind → Option String
  | .pageObject reference => some reference
  | _ => none

/-- A list of interfaces, or a reference; a value that is neither has the problems of both. -/
def read : Reader ElementKind
  | .null => .done .untyped
  | .text reference => .done (.pageObject reference)
  | v =>
    match (readList readText v).within (.key "list[str]") with
    | .done names => .done (.basic names)
    | .refused problems => .refused (problems ++ [⟨[.key "str"], .notText⟩])

/-- What the element is, as a value. -/
def toJson : ElementKind → Json
  | .basic names => .ofTexts names
  | .pageObject reference => .text reference
  | .untyped => .null

end ElementKind

/-- The declaration of an element. -/
structure Element where
  name : String
  kind : ElementKind := .untyped
  selector : Selector
  isPublic : Bool := false
  deriving DecidableEq, Repr, Inhabited

namespace Element

/-- The name is an identifier and not reserved. -/
def check (e : Element) : Except Rule Element :=
  if !Text.isIdentifier e.name then .error (.elementNotIdentifier e.name)
  else if reservedElements.contains e.name then .error (.elementReserved e.name)
  else .ok e

/-- The keys of an element. -/
def keys : List Key := [.plain "name", .plain "type", .plain "selector", .plain "public"]

/-- The fields of an element. -/
def readFields (fields : Fields) : Reading Element :=
  Element.mk
    <$> fields.required (.plain "name") readText
    <*> fields.optional (.plain "type") .untyped ElementKind.read
    <*> fields.required (.plain "selector") Selector.read
    <*> fields.optional (.plain "public") false readBoolean
    <* fields.onlyKeys keys

/-- An element. -/
def read : Reader Element :=
  fun v => (readModel "ElementSpec" readFields v).checked check

/-- The element as a value with all fields written. -/
def toJson (spelling : Spelling) (e : Element) : Json :=
  .object [("name", .text e.name), ("type", e.kind.toJson),
    ("selector", e.selector.toJson spelling), ("public", .bool e.isPublic)]

end Element
end PageObjects
