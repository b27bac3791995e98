import PageObjects.Json.Quote
import PageObjects.Json.Value

/-!
# JSON text of a value

`Json.print` writes a value on one line without blanks; `Json.shown` writes it as a message about
the value does, with capital names for the constants and single quotes around text.
-/

namespace PageObjects.Json

mutual

/-- The value as JSON text. -/
def print : Json → String
  | .null => "null"
  | .bool value => if value then "true" else "false"
  | .int value => toString value
  | .real value => value.display ("Infinity", "NaN")
  | .text value => Quote.encode value
  | .list items => "[" ++ ",".intercalate (printItems items) ++ "]"
  | .object fields => "\x7b" ++ ",".intercalate (printFields fields) ++ "\x7d"

/-- The items as JSON text. -/
def printItems : List Json → List String
  | [] => []
  | item :: rest => print item :: printItems rest

/-- The fields as JSON text. -/
def printFields : List (String × Json) → List String
  | [] => []
  | (key, value) :: rest => (Quote.encode key ++ ":" ++ print value) :: printFields rest

end

mutual

/-- The value as it appears inside a longer message. -/
def shownInside : Json → String
  | .null => "None"
  | .bool value => if value then "True" else "False"
  | .int value => toString value
  | .real value => value.display ("inf", "nan")
  | .text value => Text.quoted value
  | .list items => "[" ++ ", ".intercalate (shownItems items) ++ "]"
  | .object fields => "\x7b" ++ ", ".intercalate (shownFields fields) ++ "\x7d"

/-- The items as they appear inside a longer message. -/
def shownItems : List Json → List String
  | [] => []
  | item :: rest => shownInside item :: shownItems rest

/-- The fields as they appear inside a longer message. -/
def shownFields : List (String × Json) → List String
  | [] => []
  | (key, value) :: rest => (Text.quoted key ++ ": " ++ shownInside value) :: shownFields rest

end

/-- The value as a message shows it: a text stands bare, a text inside a list or an object is
quoted. -/
def shown : Json → String
  | .text value => value
  | value => shownInside value

end PageObjects.Json
