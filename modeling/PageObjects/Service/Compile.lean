import PageObjects.PageClass.Java
import PageObjects.PageClass.OfDocument

/-!
# Compiling one document

The service takes a decoded document with the name and package of its class, and answers with the
sources of the class and its methods. This is the Service of the specification (2), behind `POST
/compile` (6).
-/

namespace PageObjects

/-- A method as the service shows it. -/
structure MethodSummary where
  name : String
  declaration : String
  codeLines : List String
  deriving DecidableEq, Repr

/-- A compiled document. -/
structure CompiledPage where
  name : String
  package : String
  interfaceSource : String
  implementationSource : String
  methods : List MethodSummary
  deriving DecidableEq, Repr

namespace CompiledPage

/-- The sources and methods of a page class. -/
def ofPageClass (c : PageClass) : CompiledPage :=
  { name := c.name, package := c.package, interfaceSource := Java.interfaceSource c,
    implementationSource := Java.classSource c,
    methods := c.allMethods.map fun m => ⟨m.signature.name, m.signature.code, m.body.codeLines⟩ }

/-- Compiles a decoded document. -/
def compile (name package : String) (document : Json) : Except CompileError CompiledPage :=
  (PageClass.ofSource (.value document) name package).map ofPageClass

/-- The compiled document as a value. -/
def toJson (p : CompiledPage) : Json :=
  .object [("name", .text p.name), ("package", .text p.package),
    ("interface_source", .text p.interfaceSource),
    ("implementation_source", .text p.implementationSource),
    ("methods", .list (p.methods.map fun m =>
      .object [("name", .text m.name), ("declaration", .text m.declaration),
        ("code_lines", .ofTexts m.codeLines)]))]

end CompiledPage
end PageObjects
