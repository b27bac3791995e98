import PageObjects.Document.Basic
import PageObjects.Json.Encoding
import PageObjects.Json.Parser

/-!
# Loading a document

A document comes as a decoded value, as JSON text, or as bytes of JSON text. How deep a text may nest
depends on what is left to its reader, so a text comes with the levels that it may have. This is
`load_page_object` of the Grammar (specification, 2); what it refuses is a `GrammarError` (7).
-/

namespace PageObjects

/-- What a document is loaded from. -/
inductive Source where
  | value (v : Json)
  | text (chars : String) (levels : Nat := Json.usualLevels)
  | bytes (bytes : List UInt8) (levels : Nat := Json.usualLevels)

/-- Why a document is not loaded. What is beyond the limits of the reader is no fault of the document's
form: it stops whoever asked for the document. -/
inductive LoadError where
  | undecodable (e : DecodeError)
  | malformed (fault : FormFault) (place : Place)
  | invalid (problems : List Problem)
  | beyond (limit : ReaderLimit)
  deriving DecidableEq, Repr

namespace LoadError

/-- The error in words. -/
def message : LoadError → String
  | .undecodable e => "Page object is not valid UTF-8: " ++ e.message
  | .malformed fault place =>
    "Page object is not valid JSON: " ++ fault.message ++ ": " ++ place.message
  | .invalid problems => "Invalid page object: " ++ headline "PageObjectSpec" problems
  | .beyond limit => limit.message

/-- The problems that were found. -/
def problems : LoadError → List Problem
  | .invalid problems => problems
  | _ => []

end LoadError

namespace Document

/-- The document that a decoded value describes. -/
def ofValue (v : Json) : Except LoadError Document :=
  match read v with
  | .done d => .ok d
  | .refused problems => .error (.invalid problems)

/-- The document that the outcome of parsing a text describes. -/
def ofParsed (chars : List Char) : Except ParseError Json → Except LoadError Document
  | .ok v => ofValue v
  | .error (.malformed fault position) => .error (.malformed fault (.of chars position))
  | .error (.beyond limit) => .error (.beyond limit)

/-- Loads a document. -/
def load : Source → Except LoadError Document
  | .value v => ofValue v
  | .text chars levels => ofParsed chars.toList (Json.parse chars levels)
  | .bytes bytes levels =>
    match decodeDocument bytes with
    | .ok chars => ofParsed chars.toList (Json.Parser.document chars.toList levels)
    | .error e => .error (.undecodable e)

end Document
end PageObjects
