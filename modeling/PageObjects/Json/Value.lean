import PageObjects.Json.Binary64

/-!
# JSON values

Integers and numbers with a point or an exponent are kept apart. The fields of an object keep their
order; a reader of text leaves one field for each key.
-/

namespace PageObjects

/-- A JSON value. -/
inductive Json where
  | null
  | bool (value : Bool)
  | int (value : Int)
  | real (value : Binary64)
  | text (value : String)
  | list (items : List Json)
  | object (fields : List (String × Json))
  deriving Inhabited

/-- The fields of an object, in order. -/
abbrev Fields := List (String × Json)

/-- The field under a key. -/
def Fields.get? (fields : Fields) (key : String) : Option Json := fields.lookup key

/-- Sets a field: a new key goes to the end, a known one keeps its place. -/
def Fields.set (fields : Fields) (key : String) (value : Json) : Fields :=
  if fields.any (·.1 == key) then
    fields.map fun field => if field.1 == key then (key, value) else field
  else
    fields ++ [(key, value)]

mutual

/-- All numbers in the value are finite. -/
def Json.isFinite : Json → Bool
  | .real value => value.isFinite
  | .list items => finiteItems items
  | .object fields => finiteFields fields
  | _ => true

/-- All numbers in the items are finite. -/
def finiteItems : List Json → Bool
  | [] => true
  | item :: rest => item.isFinite && finiteItems rest

/-- All numbers in the fields are finite. -/
def finiteFields : List (String × Json) → Bool
  | [] => true
  | (_, value) :: rest => value.isFinite && finiteFields rest

end

namespace Json

/-- A text, or null for none. -/
def ofText? : Option String → Json
  | none => .null
  | some chars => .text chars

/-- A list of texts. -/
def ofTexts (texts : List String) : Json := .list (texts.map Json.text)

end Json
end PageObjects
