import PageObjects.Document.Argument

/-!
# Statements

A statement of a compose method calls an action on an element, on the value of the statement before
it (`chain`) or on the page object, or evaluates to an element. The action `waitFor` holds a
predicate: statements of its own, run until their last value is true. A `Statement` is the
Statement Descriptor of the specification (3).
-/

namespace PageObjects

/-- One statement. -/
structure Statement where
  element : Option String := none
  action : Option String := none
  args : List Argument := []
  returnType : Option String := none
  returnAll : Bool := false
  chain : Bool := false
  matcher : Option Matcher := none
  predicate : Option (List Statement) := none
  deriving Inhabited

namespace Statement

/-- The action that waits for a predicate. -/
def waitAction : String := "waitFor"

/-- The statement waits for a predicate. -/
def isWait (s : Statement) : Bool := s.action == some waitAction

/-- The statements of the predicate, if any. -/
def inner (s : Statement) : List Statement := s.predicate.getD []

/-- A chained statement has an action and no element, every statement has one of the two, and only
`waitFor` has a predicate. -/
def check (s : Statement) : Except Rule Statement :=
  match s.chain, s.element, s.action with
  | true, some element, _ => .error (.chainWithElement element)
  | true, none, none => .error .chainWithoutApply
  | false, none, none => .error .noTarget
  | _, _, _ =>
    if s.predicate.isSome && !s.isWait then .error .predicateWithoutWait else .ok s

/-- The keys of a statement. -/
def keys : List Key :=
  [.plain "element", .plain "apply", .plain "args", ⟨"returnType", "return_type"⟩,
    ⟨"returnAll", "return_all"⟩, .plain "chain", .plain "matcher", .plain "predicate"]

/-- The fields of a statement; `readInner` reads the statements of a predicate. -/
def readFields (readInner : Reader Statement) (fields : Fields) : Reading Statement :=
  Statement.mk
    <$> fields.optional (.plain "element") none (readOptional readText)
    <*> fields.optional (.plain "apply") none (readOptional readText)
    <*> fields.optional (.plain "args") [] (readList Argument.read)
    <*> fields.optional ⟨"returnType", "return_type"⟩ none (readOptional readText)
    <*> fields.optional ⟨"returnAll", "return_all"⟩ false readBoolean
    <*> fields.optional (.plain "chain") false readBoolean
    <*> fields.optional (.plain "matcher") none (readOptional Matcher.read)
    <*> fields.optional (.plain "predicate") none (readOptional (readList readInner))
    <* fields.onlyKeys keys

/-- A statement with others nested in it, at most the given number of levels, itself one of them. -/
def readWithin : Nat → Reader Statement
  | 0, _ => .fault .tooDeep
  | levels + 1, v => (readModel "StatementSpec" (readFields (readWithin levels)) v).checked check

/-- A statement. -/
def read : Reader Statement := readWithin nestingLimit

/-- A statement that stands in a method or a document, which counts as a level. -/
def readPart : Reader Statement := readWithin (nestingLimit - 1)

mutual

/-- The statement as a value with all fields written. -/
def toJson (spelling : Spelling) : Statement → Json
  | ⟨element, action, args, returnType, returnAll, chain, matcher, predicate⟩ =>
    .object [("element", .ofText? element), ("apply", .ofText? action),
      ("args", .list (args.map Argument.toJson)),
      (Key.spelled ⟨"returnType", "return_type"⟩ spelling, .ofText? returnType),
      (Key.spelled ⟨"returnAll", "return_all"⟩ spelling, .bool returnAll),
      ("chain", .bool chain),
      ("matcher", match matcher with | none => .null | some m => m.toJson),
      ("predicate", match predicate with
        | none => .null
        | some statements => .list (toJsons spelling statements))]

/-- The statements as values. -/
def toJsons (spelling : Spelling) : List Statement → List Json
  | [] => []
  | s :: rest => toJson spelling s :: toJsons spelling rest

end

end Statement
end PageObjects
