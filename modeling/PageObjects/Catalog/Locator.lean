import PageObjects.Catalog.UiAutomator
import PageObjects.Document.Selector
import PageObjects.Json.Quote

/-!
# Selectors in generated code

Each dialect has its own check on a selector's text. The generated code carries the selector in an
annotation that names the dialect and quotes the text. This is the catalog of selector dialects
among the Registries of the specification (2).
-/

namespace PageObjects

/-- Why a selector is refused. -/
inductive SelectorError where
  | blank
  | uiautomator (fault : UiAutomator.SelectorFault)
  deriving DecidableEq, Repr

/-- The error in words. -/
def SelectorError.message : SelectorError → String
  | .blank => "Selector string is empty"
  | .uiautomator fault => fault.message

namespace Selector

/-- The selector's text passes the check of its dialect: a UiAutomator selector has to be supported,
any other only must not be blank. -/
def checkText (s : Selector) : Except SelectorError Unit :=
  match s.dialect with
  | .uiautomator =>
    match UiAutomator.check s.value with
    | .ok () => .ok ()
    | .error fault => .error (.uiautomator fault)
  | _ => if s.value.toList.all Text.isBlank then .error .blank else .ok ()

/-- The arguments of the annotation: the dialect and the quoted text. -/
def finding (s : Selector) : String :=
  ".Find(" ++ s.dialect.name ++ " = " ++ Json.Quote.encode s.value ++ ")"

/-- The annotation on an element's field. -/
def marker (s : Selector) : String := "@ElementMarker" ++ s.finding

end Selector
end PageObjects
