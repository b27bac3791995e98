import PageObjects.Catalog.Action
import PageObjects.Catalog.Locator
import PageObjects.Document.Basic

/-!
# Reviewing a document

The review of a document checks what the shapes of its parts do not: names are unique, statements
refer to elements that are declared, interfaces and selectors are supported, and the statements
before loading use only what is there before loading. `Document.findings` lists everything that is
wrong, in the order of the document: root, elements, methods, statements before loading. This is
the Page Object Validator of the specification (2).
-/

namespace PageObjects

/-- What a review objects to. -/
inductive Objection where
  | interface (e : ActionError)
  | selector (e : SelectorError)
  | duplicateElement (name : String)
  | duplicateMethod (name : String)
  | reservedMethod (name : String)
  | undefinedElement (name : String) (defined : List String)
  | emptyPredicate
  | elementBeforeLoad (name : String)
  | parameterBeforeLoad
  deriving DecidableEq, Repr

/-- The objection in words. -/
def Objection.message : Objection → String
  | .interface e => e.message
  | .selector e => e.message
  | .duplicateElement name => s!"Duplicate element '{name}'"
  | .duplicateMethod name => s!"Duplicate method '{name}'"
  | .reservedMethod name => s!"Method name '{name}' is reserved for beforeLoad"
  | .undefinedElement name defined =>
    s!"References undefined element '{name}'. Defined elements: {Text.quotedList defined}"
  | .emptyPredicate => "waitFor requires a non-empty predicate"
  | .elementBeforeLoad name =>
    s!"beforeLoad can only use 'root', 'document' or 'self', found '{name}'"
  | .parameterBeforeLoad => "beforeLoad statements cannot reference method parameters"

/-- An objection and the path to the node it is about. -/
structure Finding where
  path : List Step
  objection : Objection
  deriving DecidableEq, Repr

/-- One step of a path, written after the steps before it. -/
def Step.text (first : Bool) : Step → String
  | .key name => if first then name else "." ++ name
  | .index position => s!"[{position}]"

/-- A path in words: keys joined by points, indices in brackets. -/
def pathText : List Step → String
  | [] => ""
  | first :: rest => first.text true ++ String.join (rest.map (Step.text false))

namespace Finding

/-- The path in words. -/
def place (f : Finding) : String := pathText f.path

/-- The finding in words. -/
def message (f : Finding) : String := f.place ++ ": " ++ f.objection.message

/-- The finding of a check that fails. -/
def ofCheck (path : List Step) (objection : ε → Objection) : Except ε Unit → List Finding
  | .ok () => []
  | .error e => [⟨path, objection e⟩]

/-- The finding of a condition that holds. -/
def when (condition : Bool) (path : List Step) (objection : Objection) : List Finding :=
  if condition then [⟨path, objection⟩] else []

end Finding

/-- Findings in words. -/
def reviewMessage (findings : List Finding) : String :=
  "Invalid page object: " ++ "; ".intercalate (findings.map Finding.message)

namespace Statement

/-- The element of a statement is reserved or declared. -/
def refersTo (declared : List String) (element : Option String) : Bool :=
  match element with
  | none => true
  | some name => reservedElements.contains name || declared.contains name

mutual

/-- The findings in a statement and its predicate. -/
def findings (declared : List String) (path : List Step) : Statement → List Finding
  | ⟨element, action, _, _, _, _, _, predicate⟩ =>
    Finding.when (!refersTo declared element) path
        (.undefinedElement (element.getD "") (Text.sorted declared)) ++
      match predicate with
      | none => Finding.when (action == some waitAction) path .emptyPredicate
      | some inner =>
        Finding.when (action == some waitAction && inner.isEmpty) path .emptyPredicate ++
          findingsIn declared path 0 inner

/-- The findings in the statements of a predicate from an index on. -/
def findingsIn (declared : List String) (path : List Step) : Nat → List Statement → List Finding
  | _, [] => []
  | index, s :: rest =>
    findings declared (path ++ [.key "predicate", .index index]) s ++
      findingsIn declared path (index + 1) rest

end

/-- The arguments of a statement and of its matcher are literals. -/
def usesLiterals (args : List Argument) (matcher : Option Matcher) : Bool :=
  (args ++ (matcher.map Matcher.args).getD []).all Argument.isLiteral

mutual

/-- The findings in a statement that runs before loading, and in its predicate. -/
def findingsBeforeLoad (path : List Step) : Statement → List Finding
  | ⟨element, _, args, _, _, _, matcher, predicate⟩ =>
    Finding.when (!refersTo [] element) path (.elementBeforeLoad (element.getD "")) ++
      Finding.when (!usesLiterals args matcher) path .parameterBeforeLoad ++
      match predicate with
      | none => []
      | some inner => findingsBeforeLoadIn path 0 inner

/-- The findings in the statements of a predicate that runs before loading, from an index on. -/
def findingsBeforeLoadIn (path : List Step) : Nat → List Statement → List Finding
  | _, [] => []
  | index, s :: rest =>
    findingsBeforeLoad (path ++ [.key "predicate", .index index]) s ++
      findingsBeforeLoadIn path (index + 1) rest

end

end Statement

/-- Each item with its index, from `index` on. -/
def indexedFrom (index : Nat) : List α → List (Nat × α)
  | [] => []
  | a :: rest => (index, a) :: indexedFrom (index + 1) rest

/-- Each item with its index and the names of the items before it. -/
def afterNames (name : α → String) (seen : List String) : List (Nat × α) →
    List (Nat × α × List String)
  | [] => []
  | (index, a) :: rest => (index, a, seen) :: afterNames name (name a :: seen) rest

namespace Document

/-- The names of the declared elements, each once. -/
def elementNames (d : Document) : List String := (d.elements.map Element.name).eraseDups

/-- The findings about the root. -/
def rootFindings (d : Document) : List Finding :=
  Finding.ofCheck [.key "type"] .interface (Action.checkInterfaces d.interfaces "root") ++
    match d.selector with
    | none => []
    | some s => Finding.ofCheck [.key "selector"] .selector s.checkText

/-- The findings about an element after elements of the given names. -/
def elementFindings (path : List Step) (e : Element) (seen : List String) : List Finding :=
  Finding.when (seen.contains e.name) path (.duplicateElement e.name) ++
    (match e.kind with
      | .pageObject _ => []
      | kind =>
        Finding.ofCheck (path ++ [.key "type"]) .interface
          (Action.checkInterfaces kind.interfaces e.name)) ++
    Finding.ofCheck (path ++ [.key "selector"]) .selector e.selector.checkText

/-- The findings about a method after methods of the given names. -/
def methodFindings (d : Document) (path : List Step) (m : Method) (seen : List String) :
    List Finding :=
  Finding.when (seen.contains m.name) path (.duplicateMethod m.name) ++
    Finding.when (m.name == "load" && !d.beforeLoad.isEmpty) path (.reservedMethod m.name) ++
    (indexedFrom 0 m.compose).flatMap fun (index, s) =>
      s.findings d.elementNames (path ++ [.key "compose", .index index])

/-- Everything that is wrong with a document. -/
def findings (d : Document) : List Finding :=
  d.rootFindings ++
    ((afterNames Element.name [] (indexedFrom 0 d.elements)).flatMap fun (index, e, seen) =>
      elementFindings [.key "elements", .index index] e seen) ++
    ((afterNames Method.name [] (indexedFrom 0 d.methods)).flatMap fun (index, m, seen) =>
      d.methodFindings [.key "methods", .index index] m seen) ++
    ((indexedFrom 0 d.beforeLoad).flatMap fun (index, s) =>
      s.findingsBeforeLoad [.key "beforeLoad", .index index] ++
        s.findings d.elementNames [.key "beforeLoad", .index index])

end Document
end PageObjects
