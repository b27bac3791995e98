import PageObjects.PageClass.Basic
import PageObjects.Text.Blank

/-!
# Java source of a page class

A page class is written as an interface with the public methods and getters, and as a class that
implements it. Both are lists of members between a head and a closing brace; the imports stand in
order, each once. This is the Writer of the specification (2), with the two files of its section
6.

* `interfaceMembers`, `classMembers`: what the two declare.
* `interfaceSource`, `classSource`: their text.
* `sources?`: both, for a class whose elements have types that can be written.
-/

namespace PageObjects

/-- A type of the framework that generated source refers to. -/
structure FrameworkType where
  package : String
  name : String
  deriving DecidableEq, Repr

namespace FrameworkType

/-- The name with its package. -/
def fullName (t : FrameworkType) : String := t.package ++ "." ++ t.name

/-- The package of the base types of page objects. -/
def basePackage : String := "utam.core.framework.base"

/-- The package of the types of elements. -/
def elementPackage : String := "utam.core.element"

/-- The interface of page objects. -/
def pageObject : FrameworkType := ⟨basePackage, "PageObject"⟩

/-- The interface of page objects that are roots. -/
def rootPageObject : FrameworkType := ⟨basePackage, "RootPageObject"⟩

/-- The class that implementations extend. -/
def basePageObject : FrameworkType := ⟨basePackage, "BasePageObject"⟩

/-- The annotation of element fields. -/
def elementMarker : FrameworkType := ⟨basePackage, "ElementMarker"⟩

/-- The annotation of root page objects. -/
def pageMarker : FrameworkType := ⟨basePackage, "PageMarker"⟩

/-- The type of element fields. -/
def elementLocation : FrameworkType := ⟨elementPackage, "ElementLocation"⟩

/-- The interface of basic elements. -/
def basicElement : FrameworkType := ⟨elementPackage, "BasicElement"⟩

/-- The framework's interface for an interface that an element declares. -/
def ofInterface? (interface : String) : Option FrameworkType :=
  [("actionable", ⟨elementPackage, "Actionable"⟩), ("clickable", ⟨elementPackage, "Clickable"⟩),
    ("editable", ⟨elementPackage, "Editable"⟩),
    ("touchable", (⟨elementPackage, "Touchable"⟩ : FrameworkType))].lookup interface

end FrameworkType

namespace Java

/-- One level of indentation. -/
def indent : String := "  "

/-- The type of lists. -/
def listType : String := "java.util.List"

/-- The type whose methods collect streams. -/
def collectorsType : String := "java.util.stream.Collectors"

/-- The last segment of the package of implementations. -/
def implementationSegment : String := "impl"

/-! ## Imports -/

/-- The imports that a type needs in a package. -/
def typeImports (package : String) : ResultType → List String
  | .list element _ => listType :: typeImports package element
  | .named t => if t.isPageObject && t.package != package then [t.fullName] else []
  | _ => []

/-- The imports that the head of a method needs in a package. -/
def signatureImports (package : String) (s : Signature) : List String :=
  typeImports package s.returnType ++ s.parameters.flatMap fun p => typeImports package p.type

/-- The lines of imports, in order and each once. -/
def importLines (names : List String) : List String :=
  (Text.sorted names.eraseDups).map fun name => "import " ++ name ++ ";"

/-! ## Comments and bodies -/

/-- The documentation comment of a description, if there is one. -/
def comment (margin : String) : Option String → List String
  | none => []
  | some text =>
    if text.isEmpty then []
    else
      (margin ++ "/**") :: (Text.lines text).map (fun line => margin ++ " * " ++ line) ++
        [margin ++ " */"]

/-- The lines of text of one line of code. The lines inside a closure are indented once more. -/
def codeText (margin : String) (code : String) : List String :=
  match ResultType.parts '\n' (code ++ ";") with
  | [] => []
  | first :: rest =>
    (margin ++ first) :: (rest.dropLast.map fun line => margin ++ indent ++ line) ++
      (rest.getLast?.map fun line => margin ++ line).toList

/-! ## The interface -/

/-- The type of an element's getter, or of one element of the list that it returns. -/
def elementType (g : Getter) : ResultType :=
  match g.returnType with
  | .list element _ => element
  | t => t

/-- The type is another page object. -/
def isPageObject : ResultType → Bool
  | .named t => t.isPageObject
  | _ => false

/-- The getters whose type gets an interface of its own: of basic elements, one for each name. -/
def nestedFrom (seen : List String) : List Getter → List Getter
  | [] => []
  | g :: rest =>
    let name := (elementType g).simpleName
    if seen.contains name || isPageObject (elementType g) then nestedFrom seen rest
    else g :: nestedFrom (name :: seen) rest

/-- The getters whose type gets an interface of its own. -/
def nested (c : PageClass) : List Getter := nestedFrom [] c.elements

/-- The framework's interfaces of an element. -/
def elementInterfaces (g : Getter) : List FrameworkType :=
  g.interfaces.filterMap FrameworkType.ofInterface?

/-- The interface that a page object extends. -/
def baseInterface (c : PageClass) : FrameworkType :=
  if c.isRoot then .rootPageObject else .pageObject

/-- The public methods. -/
def publicMethods (c : PageClass) : List ClassMethod := c.methods.filter ClassMethod.isPublic

/-- The public getters other than that of the root. -/
def publicGetters (c : PageClass) : List Getter :=
  c.publicElements.filter fun g => g.elementName != "root"

/-- The head of the method that shows the root element. -/
def rootSignature : String := "RootElement getRoot()"

/-- A method that the interface declares. -/
structure InterfaceMember where
  description : Option String := none
  signature : String
  deriving DecidableEq, Repr

/-- The methods that the interface declares. -/
def interfaceMembers (c : PageClass) : List InterfaceMember :=
  (publicMethods c).map (fun m => ⟨m.description, m.signature.code⟩) ++
    (publicGetters c).map (fun g => ⟨none, g.declaration⟩) ++
    (if c.exposeRootElement then [⟨none, rootSignature⟩] else [])

/-- The lines of a method that the interface declares. -/
def InterfaceMember.lines (m : InterfaceMember) : List String :=
  "" :: comment indent m.description ++ [indent ++ m.signature ++ ";"]

/-- The lines of the interface of a basic element. -/
def nestedLines (g : Getter) : List String :=
  let parents := (FrameworkType.basicElement :: elementInterfaces g).map FrameworkType.name
  ["", indent ++ "interface " ++ (elementType g).simpleName ++ " extends " ++
    ", ".intercalate parents ++ " \x7b\x7d"]

/-- The imports of the interface. -/
def interfaceImports (c : PageClass) : List String :=
  [(baseInterface c).fullName, FrameworkType.basicElement.fullName] ++
    (publicMethods c).flatMap (fun m => signatureImports c.package m.signature) ++
    (publicGetters c).flatMap (fun g => typeImports c.package g.returnType) ++
    (nested c).flatMap fun g => (elementInterfaces g).map FrameworkType.fullName

/-- Lines as text, each ended. -/
def ofLines (lines : List String) : String := "\n".intercalate lines ++ "\n"

/-- The lines of the interface. -/
def interfaceLines (c : PageClass) : List String :=
  (if c.package.isEmpty then [] else ["package " ++ c.package ++ ";", ""]) ++
    importLines (interfaceImports c) ++ [""] ++ comment "" c.description ++
    ["public interface " ++ c.name ++ " extends " ++ (baseInterface c).name ++ " \x7b"] ++
    (interfaceMembers c).flatMap InterfaceMember.lines ++ (nested c).flatMap nestedLines ++ ["\x7d"]

/-- The source of the interface. -/
def interfaceSource (c : PageClass) : String := ofLines (interfaceLines c)

/-! ## The class -/

/-- A method of the class. -/
structure ClassMember where
  overrides : Bool
  visibility : String
  signature : String
  body : List String
  deriving DecidableEq, Repr

/-- The lines of a method of the class. -/
def ClassMember.lines (m : ClassMember) : List String :=
  "" :: (if m.overrides then [indent ++ "@Override"] else []) ++
    [indent ++ m.visibility ++ m.signature ++ " \x7b"] ++ m.body ++ [indent ++ "\x7d"]

/-- What stands in front of a method that the interface may declare. -/
def visibility (isPublic : Bool) : String := if isPublic then "public " else ""

/-- The lines of a method's body. -/
def bodyLines (b : Body) : List String := b.codeLines.flatMap (codeText (indent ++ indent))

/-- The class member of a method. -/
def memberOfMethod (m : ClassMethod) : ClassMember :=
  ⟨m.isPublic, visibility m.isPublic, m.signature.code, bodyLines m.body⟩

/-- The class member of the method that runs before loading. -/
def memberOfBeforeLoad (m : ClassMethod) : ClassMember :=
  ⟨true, "protected ", m.signature.code, bodyLines m.body⟩

/-- The class member that shows the root element. -/
def rootMember : ClassMember :=
  ⟨true, "public ", rootSignature, [indent ++ indent ++ "return this.getRootElement();"]⟩

/-- The expression that an element's getter returns. -/
def getterExpression (g : Getter) : String :=
  let factory := if isPageObject (elementType g) then "custom" else "element"
  let build := if g.returnType.isList then "buildList" else "build"
  factory ++ "(this." ++ g.elementName ++ ")." ++ build ++ "(" ++ (elementType g).simpleName ++
    ".class)"

/-- The class member of an element's getter. -/
def memberOfGetter (g : Getter) : ClassMember :=
  ⟨g.isPublic, visibility g.isPublic, g.declaration,
    [indent ++ indent ++ "return " ++ getterExpression g ++ ";"]⟩

/-- The getters that the class implements: all but that of the root. -/
def classGetters (c : PageClass) : List Getter :=
  c.elements.filter fun g => g.elementName != "root"

/-- The methods of the class. -/
def classMembers (c : PageClass) : List ClassMember :=
  c.methods.map memberOfMethod ++ c.beforeLoad.toList.map memberOfBeforeLoad ++
    (if c.exposeRootElement then [rootMember] else []) ++ (classGetters c).map memberOfGetter

/-- The lines of an element's field. A missing annotation is written out. -/
def fieldLines (g : Getter) : List String :=
  ["", indent ++ g.marker.getD "None",
    indent ++ "private ElementLocation " ++ g.elementName ++ ";"]

/-- `part` occurs in the characters. -/
def occurs (part : List Char) : List Char → Bool
  | [] => part.isEmpty
  | c :: rest => part.isPrefixOf (c :: rest) || occurs part rest

/-- The characters with every occurrence of `part` replaced, from left to right; `skip` characters
belong to an occurrence already replaced. -/
def replaceFrom (part other : List Char) : Nat → List Char → List Char
  | _, [] => []
  | skip + 1, _ :: rest => replaceFrom part other skip rest
  | 0, c :: rest =>
    if part.isPrefixOf (c :: rest) then other ++ replaceFrom part other (part.length - 1) rest
    else c :: replaceFrom part other 0 rest

/-- The annotation of a root page object: that of an element, under the name for pages. -/
def pageMarker (marker : String) : String :=
  String.ofList (replaceFrom "@ElementMarker".toList "@PageMarker".toList 0 marker.toList)

/-- The annotation of the root, if it is not empty. -/
def rootMarker? (c : PageClass) : Option String :=
  c.rootMarker.filter fun marker => !marker.isEmpty

/-- A line of the method collects a stream. -/
def collects (m : ClassMethod) : Bool :=
  m.body.codeLines.any fun line => occurs "Collectors.".toList line.toList

/-- The imports of the class. -/
def classImports (c : PageClass) : List String :=
  [FrameworkType.basePageObject.fullName, FrameworkType.elementMarker.fullName,
    FrameworkType.elementLocation.fullName, c.fullName] ++
    (if (rootMarker? c).isSome then [FrameworkType.pageMarker.fullName] else []) ++
    c.allMethods.flatMap (fun m => signatureImports c.package m.signature ++
      (if collects m then [collectorsType] else [])) ++
    (classGetters c).flatMap fun g => typeImports c.package g.returnType

/-- The package of the class. -/
def classPackage (c : PageClass) : String := qualified c.package implementationSegment

/-- The lines of the class. -/
def classLines (c : PageClass) : List String :=
  ["package " ++ classPackage c ++ ";", ""] ++ importLines (classImports c) ++ [""] ++
    (rootMarker? c).toList.map pageMarker ++
    ["public final class " ++ c.implementationName ++ " extends " ++
      FrameworkType.basePageObject.name ++ " implements " ++ c.name ++ " \x7b"] ++
    (classGetters c).flatMap fieldLines ++ (classMembers c).flatMap ClassMember.lines ++ ["\x7d"]

/-- The source of the class. -/
def classSource (c : PageClass) : String := ofLines (classLines c)

/-! ## Both -/

/-- An element can be written when its type, or the type of one element of its list, is a named
type; the root's may also be the page object's own. -/
def isWritable (g : Getter) : Bool :=
  match elementType g with
  | .named _ => true
  | .self _ => g.elementName == "root"
  | _ => false

/-- The sources of a page class. -/
structure Sources where
  interface : String
  implementation : String
  deriving DecidableEq, Repr

/-- The sources of a class, if all its elements can be written. -/
def sources? (c : PageClass) : Option Sources :=
  if c.elements.all isWritable then some ⟨interfaceSource c, classSource c⟩ else none

end Java
end PageObjects
