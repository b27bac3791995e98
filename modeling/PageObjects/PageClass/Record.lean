import PageObjects.PageClass.Basic

/-!
# Page classes as values

`PageClass.toJson` writes every field of a page class; `PageClass.read` reads one, with defaults for
the fields that may be left out. Fields of other names are passed over. The IR is serialized as
every model of the specification is (10).
-/

namespace PageObjects

/-- A value for an optional part. -/
def Json.ofOption (write : α → Json) : Option α → Json
  | none => .null
  | some a => write a

namespace Parameter

/-- The parameter as a value. -/
def toJson (p : Parameter) : Json :=
  .object [("name", .text p.name), ("type", p.type.toJson)]

/-- A parameter. -/
def read : Reader Parameter :=
  readModel "MethodParameter" fun fields =>
    Parameter.mk
      <$> fields.required (.plain "name") readText
      <*> fields.required (.plain "type") ResultType.readPart

end Parameter

namespace Emitted

/-- The statement as a value. -/
def toJson (e : Emitted) : Json :=
  .object [("index", .int e.index), ("variable_name", .ofText? e.variableName),
    ("return_type", e.returnType.toJson), ("code_lines", .ofTexts e.codeLines),
    ("is_last", .bool e.isLast), ("is_predicate", .bool e.isWait)]

/-- A statement. -/
def read : Reader Emitted :=
  readModel "EmittedStatement" fun fields =>
    Emitted.mk
      <$> fields.required (.plain "index") readInteger
      <*> fields.optional (.plain "variable_name") none (readOptional readText)
      <*> fields.required (.plain "return_type") ResultType.readPart
      <*> fields.required (.plain "code_lines") (readList readText)
      <*> fields.optional (.plain "is_last") false readBoolean
      <*> fields.optional (.plain "is_predicate") false readBoolean

end Emitted

namespace Body

/-- The body as a value. -/
def toJson (b : Body) : Json :=
  .object [("statements", .list (b.statements.map Emitted.toJson)),
    ("return_type", b.returnType.toJson), ("parameters", .list (b.parameters.map Parameter.toJson))]

/-- A body. -/
def read : Reader Body :=
  readModel "ComposeMethodBody" fun fields =>
    Body.mk
      <$> fields.required (.plain "statements") (readList Emitted.read)
      <*> fields.required (.plain "return_type") ResultType.readPart
      <*> fields.optional (.plain "parameters") [] (readList Parameter.read)

end Body

namespace Signature

/-- The head of a method as a value. -/
def toJson (s : Signature) : Json :=
  .object [("name", .text s.name), ("return_type", s.returnType.toJson),
    ("parameters", .list (s.parameters.map Parameter.toJson))]

/-- The head of a method. -/
def read : Reader Signature :=
  readModel "MethodDeclaration" fun fields =>
    Signature.mk
      <$> fields.required (.plain "name") readText
      <*> fields.required (.plain "return_type") ResultType.readPart
      <*> fields.optional (.plain "parameters") [] (readList Parameter.read)

end Signature

namespace ClassMethod

/-- The method as a value. -/
def toJson (m : ClassMethod) : Json :=
  .object [("declaration", m.signature.toJson), ("body", m.body.toJson),
    ("is_public", .bool m.isPublic), ("description", .ofText? m.description)]

/-- A method. -/
def read : Reader ClassMethod :=
  readModel "PageObjectMethod" fun fields =>
    ClassMethod.mk
      <$> fields.required (.plain "declaration") Signature.read
      <*> fields.required (.plain "body") Body.read
      <*> fields.optional (.plain "is_public") true readBoolean
      <*> fields.optional (.plain "description") none (readOptional readText)

end ClassMethod

namespace Getter

/-- The getter as a value. -/
def toJson (g : Getter) : Json :=
  .object [("element_name", .text g.elementName), ("getter_name", .text g.getterName),
    ("return_type", g.returnType.toJson), ("annotation", .ofText? g.marker),
    ("interfaces", .ofTexts g.interfaces), ("is_public", .bool g.isPublic)]

/-- A getter. -/
def read : Reader Getter :=
  readModel "ElementGetter" fun fields =>
    Getter.mk
      <$> fields.required (.plain "element_name") readText
      <*> fields.required (.plain "getter_name") readText
      <*> fields.required (.plain "return_type") ResultType.read
      <*> fields.optional (.plain "annotation") none (readOptional readText)
      <*> fields.optional (.plain "interfaces") [] (readList readText)
      <*> fields.optional (.plain "is_public") false readBoolean

end Getter

namespace PageClass

/-- The page class as a value. -/
def toJson (c : PageClass) : Json :=
  .object [("name", .text c.name), ("package", .text c.package),
    ("description", .ofText? c.description), ("is_root", .bool c.isRoot),
    ("root_annotation", .ofText? c.rootMarker), ("root_interfaces", .ofTexts c.rootInterfaces),
    ("expose_root_element", .bool c.exposeRootElement),
    ("elements", .list (c.elements.map Getter.toJson)),
    ("methods", .list (c.methods.map ClassMethod.toJson)),
    ("before_load", .ofOption ClassMethod.toJson c.beforeLoad)]

/-- A page class. -/
def read : Reader PageClass :=
  readModel "PageObjectIR" fun fields =>
    PageClass.mk
      <$> fields.required (.plain "name") readText
      <*> fields.required (.plain "package") readText
      <*> fields.optional (.plain "description") none (readOptional readText)
      <*> fields.optional (.plain "is_root") false readBoolean
      <*> fields.optional (.plain "root_annotation") none (readOptional readText)
      <*> fields.optional (.plain "root_interfaces") [] (readList readText)
      <*> fields.optional (.plain "expose_root_element") false readBoolean
      <*> fields.optional (.plain "elements") [] (readList Getter.read)
      <*> fields.optional (.plain "methods") [] (readList ClassMethod.read)
      <*> fields.optional (.plain "before_load") none (readOptional ClassMethod.read)

end PageClass
end PageObjects
