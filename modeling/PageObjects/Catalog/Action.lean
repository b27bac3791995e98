import PageObjects.ResultType

/-!
# Actions of elements

Each interface of an element declares actions; every element has the interface `basic`, and an
interface may include another one. The page document has actions of its own. This is the action
catalog among the Registries of the specification (2), and the `UnknownActionError` of its
section 7.

* `expand`: the interfaces that a list of declared ones amounts to.
* `find`: the action of a name on an element with the given interfaces.
-/

namespace PageObjects

/-- The signature of an action. -/
structure Action where
  name : String
  interface : String
  returns : ResultType
  parameters : List ResultType := []
  deriving DecidableEq, Repr, Inhabited

/-- Why an action is not found. -/
inductive ActionError where
  | unknownAction (action element : String) (interfaces : List String)
  | unknownDocumentAction (action : String)
  | unknownInterface (interface element : String)
  deriving DecidableEq, Repr

namespace Action

/-- The interface that every element has. -/
def basicInterface : String := "basic"

/-- The actions of every element. -/
def basicActions : List Action :=
  [⟨"getAttribute", "basic", .string, [.string]⟩,
    ⟨"getClassAttribute", "basic", .string, []⟩,
    ⟨"getText", "basic", .string, []⟩,
    ⟨"getTitle", "basic", .string, []⟩,
    ⟨"getValue", "basic", .string, []⟩,
    ⟨"isEnabled", "basic", .boolean, []⟩,
    ⟨"isFocused", "basic", .boolean, []⟩,
    ⟨"isPresent", "basic", .boolean, []⟩,
    ⟨"isVisible", "basic", .boolean, []⟩,
    ⟨"size", "basic", .number, []⟩,
    ⟨"waitForAbsence", "basic", .void, []⟩,
    ⟨"waitForVisible", "basic", .void, []⟩,
    ⟨"waitForInvisible", "basic", .void, []⟩]

/-- Every interface with the actions that it declares itself. -/
def catalog : List (String × List Action) :=
  [("basic", basicActions),
    ("actionable",
      [⟨"blur", "actionable", .void, []⟩,
        ⟨"focus", "actionable", .void, []⟩,
        ⟨"moveTo", "actionable", .void, []⟩,
        ⟨"scrollToCenter", "actionable", .void, []⟩,
        ⟨"scrollToTop", "actionable", .void, []⟩]),
    ("clickable",
      [⟨"click", "clickable", .void, []⟩,
        ⟨"doubleClick", "clickable", .void, []⟩,
        ⟨"rightClick", "clickable", .void, []⟩]),
    ("editable",
      [⟨"clear", "editable", .void, []⟩,
        ⟨"clearAndType", "editable", .void, [.string]⟩,
        ⟨"press", "editable", .void, [.string]⟩,
        ⟨"setText", "editable", .void, [.string]⟩]),
    ("touchable", [⟨"flick", "touchable", .void, [.number, .number]⟩])]

/-- The actions of the page document. -/
def documentActions : List Action :=
  [⟨"getUrl", "document", .string, []⟩, ⟨"waitForDocumentReady", "document", .void, []⟩]

/-- The actions that an interface declares itself. -/
def declaredBy (interface : String) : List Action := (catalog.lookup interface).getD []

/-- The interface that an interface includes. -/
def parent? (interface : String) : Option String :=
  if interface == "clickable" || interface == "editable" then some "actionable" else none

/-- An interface and what it includes. No included interface includes another. -/
def lineage (interface : String) : List String := interface :: (parent? interface).toList

/-- The interfaces an element may declare, in order. -/
def supportedInterfaces : List String := ["actionable", "clickable", "editable", "touchable"]

/-- Adds an interface and what it includes, up to the first that is there already. -/
def enlist (present : List String) (interface : String) : List String :=
  present ++ (lineage interface).takeWhile fun name => !present.contains name

/-- The basic interface, the declared ones and what those include, each once. -/
def expand (interfaces : List String) : List String :=
  interfaces.foldl enlist [basicInterface]

/-- The first action of the name among the expanded interfaces. -/
def find? (name : String) (interfaces : List String) : Option Action :=
  (expand interfaces).findSome? fun interface => (declaredBy interface).find? (·.name == name)

/-- The action of a name on an element with the given interfaces. -/
def find (name : String) (interfaces : List String) (element : String) : Except ActionError Action :=
  match find? name interfaces with
  | some action => .ok action
  | none => .error (.unknownAction name element interfaces)

/-- The action of a name on the page document. -/
def ofDocument (name : String) : Except ActionError Action :=
  match documentActions.find? (·.name == name) with
  | some action => .ok action
  | none => .error (.unknownDocumentAction name)

/-- Every declared interface of an element is supported; the first that is not is reported. -/
def checkInterfaces (interfaces : List String) (element : String) : Except ActionError Unit :=
  match interfaces.find? fun interface => !supportedInterfaces.contains interface with
  | some interface => .error (.unknownInterface interface element)
  | none => .ok ()

/-- Every action of an element with one declared interface. -/
def list (interface : String) : Except ActionError (List Action) :=
  if interface == basicInterface then .ok basicActions
  else (checkInterfaces [interface] interface).map fun _ => (expand [interface]).flatMap declaredBy

/-- The declared interfaces in words, in order. -/
def describe (interfaces : List String) : String :=
  if interfaces.isEmpty then "declared interfaces [ ]"
  else "declared interfaces [ " ++ ", ".intercalate (Text.sorted interfaces) ++ " ]"

end Action

/-- The error in words. -/
def ActionError.message : ActionError → String
  | .unknownAction action element interfaces =>
    s!"unknown action '{action}' for element '{element}', {Action.describe interfaces}"
  | .unknownDocumentAction action =>
    s!"unknown action '{action}' for document, supported are {Text.quotedList (Action.documentActions.map Action.name)}"
  | .unknownInterface interface element =>
    s!"unknown interface '{interface}' for element '{element}', supported are {Text.quotedList Action.supportedInterfaces}"

end PageObjects
