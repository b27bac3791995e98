import PageObjects.Shape.Reading
import PageObjects.Json.Printer
import PageObjects.Text.Capital

/-!
# Types of results

What a statement, a method or an element getter of a page object yields: nothing, a value of a
named type, a list, the page object itself, or a type that was left open. These are the
return-type values of the specification (Type Provider, 2 and 3): void, concrete, list, the
reference to the page object itself, and unset. Its section 3 names the keywords and says how a
reference names a type.

* `ResultType.same`: equality of types by their full names. Lists are compared by their elements,
  and the page object's own type by its kind alone.
* `ResultType.ofKeyword`: the type that a keyword or a page object reference stands for.
* `ResultType.toJson`, `ResultType.read`: the type as a value tagged by its kind, and back.
-/

namespace PageObjects

/-- A named type. The type of a basic element carries the interfaces that the element declares and
the element's name; the type of a page object carries its package. -/
structure NamedType where
  name : String
  package : String := ""
  interfaces : Option (List String) := none
  elementName : Option String := none
  deriving DecidableEq, Repr, Inhabited

namespace NamedType

/-- The name with its package. -/
def fullName (t : NamedType) : String :=
  if t.package.isEmpty then t.name else t.package ++ "." ++ t.name

/-- The type of an element that has interfaces of its own. -/
def isBasicElement (t : NamedType) : Bool := t.interfaces.isSome

/-- The type of another page object. -/
def isPageObject (t : NamedType) : Bool := !t.package.isEmpty

/-- The name begins with no small `r`, as a line that returns does. -/
def Capitalized (t : NamedType) : Prop := t.name.toList.head? ≠ some 'r'

instance (t : NamedType) : Decidable t.Capitalized := inferInstanceAs (Decidable (_ ≠ _))

end NamedType

/-- The type of a result. -/
inductive ResultType where
  | void
  | named (type : NamedType)
  | list (element : ResultType) (returnAll : Bool)
  | self (name : String)
  | unset
  deriving DecidableEq, Repr, Inhabited

/-- A reference to a type that stands for none. -/
inductive TypeError where
  | malformedReference (reference : String)
  | unknown (keyword : String)
  | returnAllOf (keyword : String)
  deriving DecidableEq, Repr

/-- The error in words. -/
def TypeError.message : TypeError → String
  | .malformedReference reference => s!"Invalid page object type reference: '{reference}'"
  | .unknown keyword => s!"Unknown type '{keyword}'"
  | .returnAllOf keyword => s!"'returnAll' cannot be used with return type '{keyword}'"

namespace ResultType

/-- A named type without package. -/
def simple (name : String) : ResultType := .named { name }

/-- Texts. -/
def string : ResultType := simple "String"

/-- Truth values. -/
def boolean : ResultType := simple "Boolean"

/-- Whole numbers. -/
def number : ResultType := simple "Integer"

/-- Values of any type. -/
def object : ResultType := simple "Object"

/-- The name as it is written in a declaration. -/
def simpleName : ResultType → String
  | .void => "void"
  | .named type => type.name
  | .list element _ => "List<" ++ element.simpleName ++ ">"
  | .self name => name
  | .unset => ""

/-- The name with the packages. -/
def fullName : ResultType → String
  | .void => "void"
  | .named type => type.fullName
  | .list element _ => "java.util.List<" ++ element.fullName ++ ">"
  | .self name => name
  | .unset => ""

/-- A list type. -/
def isList : ResultType → Bool
  | .list _ _ => true
  | _ => false

/-- The type of no value. -/
def isVoid : ResultType → Bool
  | .void => true
  | _ => false

/-- The page object's own type. -/
def isSelf : ResultType → Bool
  | .self _ => true
  | _ => false

/-- A type that was left open. -/
def isUnset : ResultType → Bool
  | .unset => true
  | _ => false

/-- A declaration under which a statement's value is dropped: nothing, or the page object. -/
def discards (t : ResultType) : Bool := t.isVoid || t.isSelf

/-- The types are equal by name. -/
def same : ResultType → ResultType → Bool
  | .list a _, .list b _ => same a b
  | .named a, .named b => a.fullName == b.fullName
  | .void, .void => true
  | .self _, .self _ => true
  | .unset, .unset => true
  | _, _ => false

/-! ## Types by reference -/

/-- The keywords of the primitive types. -/
def primitives : List (String × ResultType) :=
  [("string", string), ("boolean", boolean), ("number", number)]

/-- The parts of a text between separators. -/
def parts (separator : Char) (text : String) : List String :=
  (text.toList.splitOn separator).map String.ofList

/-- A module's name as the first segment of a package: hyphens become points. -/
def packageOfModule (name : String) : String :=
  String.ofList (name.toList.map fun c => if c == '-' then '.' else c)

/-- The page object that a reference such as `my-app/pageObjects/nav/menu` names: the module, the
directories in lower case, and the capitalized name. -/
def ofReference (reference : String) : Except TypeError NamedType :=
  match parts '/' reference with
  | first :: second :: rest =>
    let all := first :: second :: rest
    if all.any String.isEmpty then .error (.malformedReference reference)
    else
      let directories := (second :: rest).dropLast.map Text.lower
      .ok { name := Text.capitalize (all.getLastD ""),
            package := ".".intercalate (packageOfModule first :: directories) }
  | _ => .error (.malformedReference reference)

/-- The name of a page object is capitalized. -/
theorem ofReference_capitalized {reference : String} {t : NamedType} (h : ofReference reference = .ok t) :
    t.Capitalized := by
  unfold ofReference at h
  split at h
  · simp only at h
    split at h
    · exact absurd h (by simp)
    · obtain rfl := Except.ok.inj h
      exact Text.capitalize_head?_ne _
  · exact absurd h (by simp)

/-- The type that a keyword or a reference stands for; `own` is the page object's own type. -/
def ofKeyword (own : ResultType) (keyword : String) : Except TypeError ResultType :=
  if keyword == "void" then .ok .void
  else if keyword == "self" then .ok own
  else
    match primitives.lookup keyword with
    | some t => .ok t
    | none =>
      if keyword.toList.contains '/' then (ofReference keyword).map .named
      else .error (.unknown keyword)

/-- The type of no keyword is open. -/
def ofKeyword? (own : ResultType) : Option String → Except TypeError ResultType
  | none => .ok .unset
  | some keyword => ofKeyword own keyword

/-- The type that a keyword stands for, or a list of it where all matches are asked for. -/
def resolve (own : ResultType) (keyword? : Option String) (returnAll : Bool) :
    Except TypeError ResultType := do
  let resolved ← ofKeyword? own keyword?
  match keyword?, returnAll, resolved with
  | some _, true, .named _ => .ok (.list resolved true)
  | some keyword, true, _ => .error (.returnAllOf keyword)
  | _, _, _ => .ok resolved

/-- The interface type generated for an element, such as `ButtonElement` for `button`. -/
def ofElement (element : String) (interfaces : List String) : NamedType :=
  { name := Text.capitalize element ++ "Element", interfaces := some interfaces,
    elementName := some element }

theorem ofElement_capitalized {element : String} {interfaces : List String} :
    (ofElement element interfaces).Capitalized := by
  intro hr
  simp only [ofElement, String.toList_append, List.head?_append] at hr
  cases hhead : (Text.capitalize element).toList.head? with
  | none => rw [hhead] at hr; exact absurd hr (by decide)
  | some c => exact Text.capitalize_head?_ne element (by simpa [hhead] using hr)

/-- The interface type generated for an element; none for an element without a name. -/
def ofElement? (element : String) (interfaces : List String) : Option NamedType :=
  if element.isEmpty then none else some (ofElement element interfaces)

/-! ## Types as values -/

/-- The type as a value tagged by its kind, with all fields written. -/
def toJson : ResultType → Json
  | .void => .object [("kind", .text "void")]
  | .named t => .object [("kind", .text "concrete"), ("name", .text t.name),
      ("package", .text t.package),
      ("interfaces", match t.interfaces with | none => .null | some names => .ofTexts names),
      ("element_name", .ofText? t.elementName)]
  | .list element returnAll => .object [("kind", .text "list"), ("element", element.toJson),
      ("return_all", .bool returnAll)]
  | .self name => .object [("kind", .text "self"), ("name", .text name)]
  | .unset => .object [("kind", .text "unset")]

/-- The fields of a named type. -/
def readNamed (fields : Fields) : Reading ResultType :=
  (fun name package interfaces elementName => .named { name, package, interfaces, elementName })
    <$> fields.required (.plain "name") readText
    <*> fields.optional (.plain "package") "" readText
    <*> fields.optional (.plain "interfaces") none (readOptional (readTuple readText))
    <*> fields.optional (.plain "element_name") none (readOptional readText)

/-- The fields of the type with the given kind; `readFields` reads those of a list. -/
def readKind (readFields : Fields → Reading ResultType) (fields : Fields) (kind : Json) :
    Reading ResultType :=
  match kind with
  | .text "void" => .done .void
  | .text "concrete" => (readNamed fields).within (.key "concrete")
  | .text "list" => (readFields fields).within (.key "list")
  | .text "self" =>
    (ResultType.self <$> fields.optional (.plain "name") "Object" readText).within (.key "self")
  | .text "unset" => .done .unset
  | tag => .fault (.tagUnknown tag.shown)

/-- A type from a value tagged by its kind; `readFields` reads the fields of a list. -/
def readTagged (readFields : Fields → Reading ResultType) : Reader ResultType
  | .object fields =>
    match Fields.get? fields "kind" with
    | none => .fault .tagMissing
    | some kind => readKind readFields fields kind
  | _ => .fault .notFields

/-- A type in which lists nest at most the given number of levels. -/
def readWithin : Nat → Reader ResultType
  | 0 => readTagged fun _ => .fault .tooDeep
  | levels + 1 => readTagged fun fields =>
    ResultType.list
      <$> fields.required (.plain "element") (readWithin levels)
      <*> fields.optional (.plain "return_all") false readBoolean

/-- A type from a value tagged by its kind. Its place counts as a level. -/
def read : Reader ResultType := readWithin (nestingLimit - 1)

/-- A type that stands in a method, which counts as a level, too. -/
def readPart : Reader ResultType := readWithin (nestingLimit - 2)

end ResultType
end PageObjects
