import PageObjects.Json.Value
import PageObjects.Shape.Problem
import PageObjects.Text.IntegerSetting

/-!
# Reading values by shape

A `Reading` is the value that was read or every problem met on the way: the applicative structure
collects the problems of all parts, in the order of the parts. Readers for texts, Booleans,
integers, lists and the fields of objects stand here; the types of documents build theirs on them.
The models of the specification (10: modelling and serialization) are read in this way.

Booleans and integers are read leniently: a Boolean also from the numbers zero and one and from a
few words, an integer also from a number without a fraction.
-/

namespace PageObjects

/-- A value, or the problems that keep it from being read. -/
inductive Reading (α : Type) where
  | done (value : α)
  | refused (problems : List Problem)
  deriving Repr

namespace Reading

/-- Reads two parts, collecting the problems of both. -/
def apply (f : Reading (α → β)) (a : Reading α) : Reading β :=
  match f, a with
  | .done f, .done a => .done (f a)
  | .done _, .refused q => .refused q
  | .refused p, .done _ => .refused p
  | .refused p, .refused q => .refused (p ++ q)

/-- Applies a function to the value read. -/
protected def map (f : α → β) : Reading α → Reading β
  | .done a => .done (f a)
  | .refused p => .refused p

instance : Applicative Reading where
  pure := .done
  map := Reading.map
  seq f a := f.apply (a ())

/-- A reading that fails with one fault at the place itself. -/
def fault (f : Fault) : Reading α := .refused [⟨[], f⟩]

/-- The reading of a part, its problems seen from the whole. -/
def within (step : Step) : Reading α → Reading α
  | .done a => .done a
  | .refused problems => .refused (problems.map (Problem.within step))

/-- What `check` makes of the value read, or the rule that it breaks. -/
def checked (check : α → Except Rule β) : Reading α → Reading β
  | .done a =>
    match check a with
    | .ok b => .done b
    | .error rule => fault (.broken rule)
  | .refused problems => .refused problems

/-- The value read, if there is one. -/
def value? : Reading α → Option α
  | .done a => some a
  | .refused _ => none

end Reading

/-- A reader of values of one type. -/
abbrev Reader (α : Type) := Json → Reading α

/-! ## Single values -/

/-- A text. -/
def readText : Reader String
  | .text chars => .done chars
  | _ => .fault .notText

/-- Null for none, else what `read` reads. -/
def readOptional (read : Reader α) : Reader (Option α)
  | .null => .done none
  | v => some <$> read v

/-- The words for true and for false. -/
def booleanWords : List (String × Bool) :=
  [("0", false), ("off", false), ("f", false), ("false", false), ("n", false), ("no", false),
    ("1", true), ("on", true), ("t", true), ("true", true), ("y", true), ("yes", true)]

/-- The bound of integers of 64 bits with a sign: the sixty-third power of two. -/
def bound64 : Int := 9223372036854775808

/-- The integer fits 64 bits with a sign. -/
def fits64 (n : Int) : Bool := -bound64 ≤ n && n < bound64

/-- The integer lies strictly between the bounds of integers of 64 bits. -/
def inside64 (n : Int) : Bool := -bound64 < n && n < bound64

/-- A Boolean from zero or one. -/
def readBooleanNumber (n : Int) : Reading Bool :=
  if n == 0 then .done false else if n == 1 then .done true else .fault .unreadableBoolean

/-- A Boolean. -/
def readBoolean : Reader Bool
  | .bool b => .done b
  | .text chars =>
    match booleanWords.lookup (String.ofList (chars.toList.map Char.toLower)) with
    | some b => .done b
    | none => .fault .unreadableBoolean
  | .int n => if fits64 n then readBooleanNumber n else .fault .notBoolean
  | .real r =>
    match r.whole? with
    | some n => if inside64 n then readBooleanNumber n else .fault .notBoolean
    | none => .fault .notBoolean
  | _ => .fault .notBoolean

/-- An integer from a number with a point or an exponent. -/
def readWholeReal (r : Binary64) : Reading Int :=
  if r.isFinite then
    match r.whole? with
    | some n => if inside64 n then .done n else .fault .oversizedInteger
    | none => .fault .fractional
  else .fault .notFinite

/-- An integer. -/
def readInteger : Reader Int
  | .int n => .done n
  | .bool b => .done (if b then 1 else 0)
  | .real r => readWholeReal r
  | .text chars =>
    match Text.integerSetting chars with
    | .ok n => .done n
    | .error .unreadable => .fault .unreadableInteger
    | .error .oversized => .fault .oversizedInteger
  | _ => .fault .notInteger

/-! ## Nesting -/

/-- How many levels deep a reader goes into values that nest in values of their own type. The parts
that lead to the first of them may count as levels, too. -/
def nestingLimit : Nat := 255

/-! ## Lists -/

/-- The items of a list from the given index on. -/
def readItemsFrom (read : Reader α) : Nat → List Json → Reading (List α)
  | _, [] => .done []
  | i, v :: rest => List.cons <$> (read v).within (.index i) <*> readItemsFrom read (i + 1) rest

/-- A list. -/
def readList (read : Reader α) : Reader (List α)
  | .list items => readItemsFrom read 0 items
  | _ => .fault .notList

/-- A tuple of any length, given as a list. -/
def readTuple (read : Reader α) : Reader (List α)
  | .list items => readItemsFrom read 0 items
  | _ => .fault .notTuple

/-! ## Objects -/

/-- The two spellings under which a document may give a field: `returnAll` and `return_all`. Problems
with a value name the spelling that was given; a missing field goes by the first. -/
structure Key where
  camel : String
  snake : String
  deriving DecidableEq, Repr

/-- The two ways to spell keys. -/
inductive Spelling where
  | camel
  | snake
  deriving DecidableEq, Repr

namespace Key

/-- A key with one spelling. -/
def plain (name : String) : Key := ⟨name, name⟩

/-- The key as it is spelled. -/
def spelled (key : Key) : Spelling → String
  | .camel => key.camel
  | .snake => key.snake

end Key

namespace Fields

/-- The spelling under which a field is given and its value; the first spelling wins. -/
def find? (fields : Fields) (key : Key) : Option (String × Json) :=
  match fields.get? key.camel with
  | some v => some (key.camel, v)
  | none => (fields.get? key.snake).map fun v => (key.snake, v)

/-- A field that has to be given. -/
def required (fields : Fields) (key : Key) (read : Reader α) : Reading α :=
  match fields.find? key with
  | some (given, v) => (read v).within (.key given)
  | none => (Reading.fault .missing).within (.key key.camel)

/-- A field with a default. -/
def optional (fields : Fields) (key : Key) (default : α) (read : Reader α) : Reading α :=
  match fields.find? key with
  | some (given, v) => (read v).within (.key given)
  | none => .done default

/-- The spellings under which the fields of the given keys are taken. -/
def taken (fields : Fields) (keys : List Key) : List String :=
  keys.filterMap fun key => (fields.find? key).map Prod.fst

/-- The problems of the fields that no key takes. -/
def strangers (fields : Fields) (keys : List Key) : List Problem :=
  let taken := fields.taken keys
  (fields.filter fun field => !taken.contains field.1).map fun field => ⟨[.key field.1], .unknownKey⟩

/-- No field is left over. -/
def onlyKeys (fields : Fields) (keys : List Key) : Reading Unit :=
  match fields.strangers keys with
  | [] => .done ()
  | problems => .refused problems

end Fields

/-- The fields of an object that describes a `model`. -/
def readModel (model : String) (read : Fields → Reading α) : Reader α
  | .object fields => read fields
  | _ => .fault (.notModel model)

end PageObjects
