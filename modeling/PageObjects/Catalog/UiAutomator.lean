import PageObjects.Text.Blank
import PageObjects.Text.Word

/-!
# UiAutomator selectors

A selector in this dialect is one call on a `UiSelector`, with or without the constructor in front,
or a `UiScrollable` that scrolls a container to a target, where both are such calls. Only some
methods are supported, and fewer for a container. This is the UiAutomator validation of the
Registries (specification, 2); what it refuses is a `SelectorError` (7).

The selector is judged by the name of the method that it opens with; what follows the opening
parenthesis is not looked into.
-/

namespace PageObjects.UiAutomator

/-- Why a selector is refused. -/
inductive SelectorFault where
  | unsupportedMethod (method : String)
  | unsupportedContainer (method : String)
  deriving DecidableEq, Repr

/-- The fault in words. -/
def SelectorFault.message : SelectorFault → String
  | .unsupportedMethod method => s!"unsupported UiSelector method '{method}'"
  | .unsupportedContainer method => s!"unsupported UiScrollable constructor method '{method}'"

/-- The methods of a `UiSelector` that are supported. -/
def methods : List String :=
  ["checkable", "checked", "className", "classNameMatches", "clickable", "description",
    "descriptionContains", "descriptionMatches", "descriptionStartsWith", "enabled", "focusable",
    "focused", "longClickable", "packageName", "packageNameMatches", "resourceId",
    "resourceIdMatches", "scrollable", "selected", "text", "textContains", "textMatches",
    "textStartsWith"]

/-- The methods that may pick the container of a `UiScrollable`. -/
def containerMethods : List String := ["className", "description", "resourceId", "scrollable"]

/-- The constructor that may stand in front of a call. -/
def constructorPart : List Char := "new UiSelector().".toList

/-- The text before the container. -/
def scrollableOpening : List Char := "new UiScrollable(".toList

/-- The text between the container and the target. -/
def scrollableMiddle : List Char := ").scrollIntoView(".toList

/-- What is left of `cs` after `part`, if it starts with that. -/
def after? (part cs : List Char) : Option (List Char) :=
  if part.isPrefixOf cs then some (cs.drop part.length) else none

/-- The name of the method that a call opens with. A text that opens with no call stands for
itself. -/
def methodName (expression : List Char) : List Char :=
  let trimmed := Text.trim expression
  let call := (after? constructorPart trimmed).getD trimmed
  let name := call.takeWhile Text.isWordChar
  match call.drop name.length with
  | '(' :: _ => if name.isEmpty then call else name
  | _ => call

/-- The texts before and after the last occurrence of `part`. -/
def splitAtLast? (part : List Char) : List Char → Option (List Char × List Char)
  | [] => none
  | c :: rest =>
    match splitAtLast? part rest with
    | some (before, after) => some (c :: before, after)
    | none => (after? part (c :: rest)).map fun after => ([], after)

/-- The container and the target of a `UiScrollable`; neither may hold a line feed. -/
def scrollable? (selector : List Char) : Option (List Char × List Char) :=
  match after? scrollableOpening (Text.trim selector) with
  | none => none
  | some rest =>
    if rest.contains '\n' || rest.getLast? != some ')' then none
    else splitAtLast? scrollableMiddle rest.dropLast

/-- The call is on a supported method. -/
def checkCall (expression : List Char) : Except SelectorFault Unit :=
  let method := String.ofList (methodName expression)
  if methods.contains method then .ok () else .error (.unsupportedMethod method)

/-- The selector is a supported call, or a `UiScrollable` of supported calls. -/
def check (selector : String) : Except SelectorFault Unit :=
  match scrollable? selector.toList with
  | none => checkCall selector.toList
  | some (container, target) =>
    let method := String.ofList (methodName container)
    if containerMethods.contains method then checkCall target
    else .error (.unsupportedContainer method)

end PageObjects.UiAutomator
