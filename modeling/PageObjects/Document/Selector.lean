import PageObjects.Shape.Reading

/-!
# Selectors

A selector finds an element in one of four dialects. A document writes the selector's text under
the dialect's name; exactly one dialect may hold a text that is not empty. Selectors have the
shape that the Grammar gives them (specification, 3).
-/

namespace PageObjects

/-- The languages of selectors. -/
inductive Dialect where
  | css
  | accessid
  | classchain
  | uiautomator
  deriving DecidableEq, Repr, Inhabited

/-- The name under which a document and the generated annotation give the dialect. -/
def Dialect.name : Dialect → String
  | .css => "css"
  | .accessid => "accessid"
  | .classchain => "classchain"
  | .uiautomator => "uiautomator"

/-- A selector as a document writes it. -/
structure Selector where
  css : Option String := none
  accessid : Option String := none
  classchain : Option String := none
  uiautomator : Option String := none
  returnAll : Bool := false
  deriving DecidableEq, Repr, Inhabited

namespace Selector

/-- The text in a dialect. -/
def text? (s : Selector) : Dialect → Option String
  | .css => s.css
  | .accessid => s.accessid
  | .classchain => s.classchain
  | .uiautomator => s.uiautomator

/-- The dialect holds a text that is not empty. -/
def uses (s : Selector) (d : Dialect) : Bool :=
  match s.text? d with
  | some text => !text.isEmpty
  | none => false

/-- The dialects in the order of a document. -/
def dialects : List Dialect := [.css, .accessid, .classchain, .uiautomator]

/-- The dialects that hold a text that is not empty. -/
def used (s : Selector) : List Dialect := dialects.filter s.uses

/-- The selector's dialect. -/
def dialect (s : Selector) : Dialect := s.used.headD .css

/-- The selector's text. -/
def value (s : Selector) : String := (s.text? s.dialect).getD ""

/-- Exactly one dialect is used. -/
def check (s : Selector) : Except Rule Selector :=
  if s.used.length == 1 then .ok s else .error (.oneDialect (s.used.map Dialect.name))

/-- The keys of a selector. -/
def keys : List Key :=
  [.plain "css", .plain "accessid", .plain "classchain", .plain "uiautomator",
    ⟨"returnAll", "return_all"⟩]

/-- The fields of a selector. -/
def readFields (fields : Fields) : Reading Selector :=
  Selector.mk
    <$> fields.optional (.plain "css") none (readOptional readText)
    <*> fields.optional (.plain "accessid") none (readOptional readText)
    <*> fields.optional (.plain "classchain") none (readOptional readText)
    <*> fields.optional (.plain "uiautomator") none (readOptional readText)
    <*> fields.optional ⟨"returnAll", "return_all"⟩ false readBoolean
    <* fields.onlyKeys keys

/-- A selector. -/
def read : Reader Selector :=
  fun v => (readModel "SelectorSpec" readFields v).checked check

/-- The selector as a value with all fields written. -/
def toJson (spelling : Spelling) (s : Selector) : Json :=
  .object [("css", .ofText? s.css), ("accessid", .ofText? s.accessid),
    ("classchain", .ofText? s.classchain), ("uiautomator", .ofText? s.uiautomator),
    (Key.spelled ⟨"returnAll", "return_all"⟩ spelling, .bool s.returnAll)]

end Selector
end PageObjects
