import PageObjects.Json.Value
import PageObjects.Text.Digits

/-!
# Reading JSON text

`Json.parse` reads one value that fills a text. Blanks are space, tab, line feed and carriage return;
`NaN`, `Infinity` and `-Infinity` are numbers; of two fields with one key the later value stands in the
place of the earlier. What the reader cannot take is refused where it stands, apart from the faults of
form: an integer of more than `Text.digitLimit` digits, and a list or an object with more levels of
them around it than the reader goes down. The Grammar reads the texts of documents with it
(specification, 2).

Positions count characters from zero. A half of a surrogate pair that stands alone is read as
U+FFFD.
-/

namespace PageObjects

/-- What is wrong with the form of a JSON text. -/
inductive FormFault where
  | value
  | propertyName
  | colon
  | comma
  | unterminated
  | control
  | escape
  | unicodeEscape
  | extra
  | byteOrderMark
  deriving DecidableEq, Repr

/-- The fault in words. -/
def FormFault.message : FormFault → String
  | .value => "Expecting value"
  | .propertyName => "Expecting property name enclosed in double quotes"
  | .colon => "Expecting ':' delimiter"
  | .comma => "Expecting ',' delimiter"
  | .unterminated => "Unterminated string starting at"
  | .control => "Invalid control character at"
  | .escape => "Invalid \\escape"
  | .unicodeEscape => "Invalid \\uXXXX escape"
  | .extra => "Extra data"
  | .byteOrderMark => "Unexpected UTF-8 BOM (decode using utf-8-sig)"

/-- What a reader of JSON cannot take, though its form is right: an integer of too many digits, and a
value under too many lists and objects. -/
inductive ReaderLimit where
  | oversizedInteger
  | tooDeep
  deriving DecidableEq, Repr

/-- The limit in words. -/
def ReaderLimit.message : ReaderLimit → String
  | .oversizedInteger => "An integer has more digits than can be read"
  | .tooDeep => "Lists and objects are nested deeper than can be read"

/-- Why a text is not read as a JSON value. -/
inductive ParseError where
  | malformed (fault : FormFault) (position : Nat)
  | beyond (limit : ReaderLimit)
  deriving DecidableEq, Repr

/-- The levels of lists and objects that a reader goes down where nothing else is said. -/
def Json.usualLevels : Nat := 990

namespace Json.Parser

/-- What is left of a text, and the position at which it starts. -/
structure Cursor where
  position : Nat
  rest : List Char

/-- The cursor `n` characters further. -/
def Cursor.skip (c : Cursor) (n : Nat) : Cursor := ⟨c.position + n, c.rest.drop n⟩

/-- The outcome of reading a part of a text: its value and what follows it. -/
abbrev Outcome (α : Type) := Except ParseError (α × Cursor)

/-- Refuses the text. -/
def fail (fault : FormFault) (position : Nat) : Except ParseError α :=
  .error (.malformed fault position)

/-- Space, tab, line feed or carriage return. -/
def isBlank (c : Char) : Bool := c == ' ' || c == '\t' || c == '\n' || c == '\r'

/-- The cursor after any blanks. -/
def Cursor.skipBlanks (c : Cursor) : Cursor :=
  c.skip (c.rest.takeWhile isBlank).length

/-! ## Strings -/

/-- The number of four hexadecimal digits, when at least one character follows them. -/
def unit? : List Char → Option Nat
  | a :: b :: c :: d :: _ :: _ =>
    match Text.hexValue? a, Text.hexValue? b, Text.hexValue? c, Text.hexValue? d with
    | some a, some b, some c, some d => some (((a * 16 + b) * 16 + c) * 16 + d)
    | _, _, _, _ => none
  | _ => none

/-- A unit of the first half of a surrogate pair. -/
def isHighSurrogate (unit : Nat) : Bool := 0xD800 ≤ unit && unit ≤ 0xDBFF

/-- A unit of the second half of a surrogate pair. -/
def isLowSurrogate (unit : Nat) : Bool := 0xDC00 ≤ unit && unit ≤ 0xDFFF

/-- The character of a unit. A half of a surrogate pair is no character: U+FFFD stands for it, and that
the text cannot be encoded again is left to the machine (`Refusal.encoding`). -/
def unitChar (unit : Nat) : Char :=
  if isHighSurrogate unit || isLowSurrogate unit then Char.ofNat 0xFFFD else Char.ofNat unit

/-- The character of a surrogate pair. -/
def pairChar (high low : Nat) : Char :=
  Char.ofNat (0x10000 + (high - 0xD800) * 0x400 + (low - 0xDC00))

/-- The character of an escape and the length of the escape after its backslash; `rest` starts
after the backslash, which stands at `position`. -/
def escaped (position : Nat) (rest : List Char) : Except ParseError (Char × Nat) :=
  match rest with
  | '"' :: _ => .ok ('"', 1)
  | '\\' :: _ => .ok ('\\', 1)
  | '/' :: _ => .ok ('/', 1)
  | 'b' :: _ => .ok (Char.ofNat 0x08, 1)
  | 'f' :: _ => .ok (Char.ofNat 0x0C, 1)
  | 'n' :: _ => .ok ('\n', 1)
  | 'r' :: _ => .ok ('\r', 1)
  | 't' :: _ => .ok ('\t', 1)
  | 'u' :: digits =>
    match unit? digits with
    | none => fail .unicodeEscape (position + 1)
    | some high =>
      match digits.drop 4 with
      | '\\' :: 'u' :: more =>
        if isHighSurrogate high && 5 ≤ more.length then
          match unit? more with
          | none => fail .unicodeEscape (position + 7)
          | some low =>
            if isLowSurrogate low then .ok (pairChar high low, 11) else .ok (unitChar high, 5)
        else .ok (unitChar high, 5)
      | _ => .ok (unitChar high, 5)
  | _ => fail .escape position

/-- The rest of a string whose quote stands at `start`; `read` holds what was read, last first. -/
def stringFrom (start : Nat) : Nat → List Char → Cursor → Outcome String
  | 0, _, _ => fail .unterminated start
  | fuel + 1, read, cursor =>
    match cursor.rest with
    | [] => fail .unterminated start
    | '"' :: _ => .ok (String.ofList read.reverse, cursor.skip 1)
    | ['\\'] => fail .unterminated start
    | '\\' :: rest =>
      match escaped cursor.position rest with
      | .error e => .error e
      | .ok (c, length) => stringFrom start fuel (c :: read) (cursor.skip (length + 1))
    | c :: _ =>
      if c.toNat ≤ 0x1F then fail .control cursor.position
      else stringFrom start fuel (c :: read) (cursor.skip 1)

/-- A string; the cursor stands after its opening quote. -/
def string (cursor : Cursor) : Outcome String :=
  stringFrom (cursor.position - 1) (cursor.rest.length + 1) [] cursor

/-! ## Numbers -/

/-- The value of digits. -/
def digitsValue (digits : List Char) : Nat :=
  digits.foldl (fun n c => 10 * n + (c.toNat - '0'.toNat)) 0

/-- The digits of an integer part: a zero alone, or digits that start with another. -/
def wholePart : List Char → List Char
  | '0' :: _ => ['0']
  | rest => rest.takeWhile Text.isAsciiDigit

/-- The digits after a point, if the text goes on with a point and a digit. -/
def fractionPart : List Char → List Char
  | '.' :: rest => rest.takeWhile Text.isAsciiDigit
  | _ => []

/-- The sign and the digits of an exponent, with the length of the part, if there is one. -/
def exponentPart : List Char → Option (Bool × List Char × Nat)
  | mark :: rest =>
    if mark == 'e' || mark == 'E' then
      let (negative, rest, length) :=
        match rest with
        | '-' :: rest => (true, rest, 2)
        | '+' :: rest => (false, rest, 2)
        | rest => (false, rest, 1)
      match rest.takeWhile Text.isAsciiDigit with
      | [] => none
      | digits => some (negative, digits, length + digits.length)
    else none
  | [] => none

/-- A number. -/
def number (cursor : Cursor) : Outcome Json :=
  let negative := cursor.rest.head? == some '-'
  let start := if negative then cursor.skip 1 else cursor
  let whole := wholePart start.rest
  if whole.isEmpty then fail .value cursor.position
  else
    let afterWhole := start.skip whole.length
    let fraction := fractionPart afterWhole.rest
    let afterFraction := if fraction.isEmpty then afterWhole else afterWhole.skip (fraction.length + 1)
    match exponentPart afterFraction.rest with
    | some (below, digits, length) =>
      let power := Int.ofNat (digitsValue digits)
      let power := (if below then -power else power) - Int.ofNat fraction.length
      .ok (.real (.ofDecimal negative (digitsValue (whole ++ fraction)) power), afterFraction.skip length)
    | none =>
      if fraction.isEmpty then
        if Text.digitLimit < whole.length then .error (.beyond .oversizedInteger)
        else
          let value := Int.ofNat (digitsValue whole)
          .ok (.int (if negative then -value else value), afterWhole)
      else
        let power := - Int.ofNat fraction.length
        .ok (.real (.ofDecimal negative (digitsValue (whole ++ fraction)) power), afterFraction)

/-! ## Values -/

/-- The constants and their spellings. -/
def constants : List (String × Json) :=
  [("null", .null), ("true", .bool true), ("false", .bool false), ("NaN", .real .nan),
    ("Infinity", .real (.infinity false)), ("-Infinity", .real (.infinity true))]

/-- A value that is no list, no object and no string. -/
def scalar (cursor : Cursor) : Outcome Json :=
  match constants.find? fun constant => constant.1.toList.isPrefixOf cursor.rest with
  | some (name, value) => .ok (value, cursor.skip name.length)
  | none => number cursor

mutual

/-- A value under which lists and objects may go `levels` levels down; the cursor stands at its first
character. -/
def value : Nat → Nat → Cursor → Outcome Json
  | 0, _, cursor => fail .value cursor.position
  | fuel + 1, levels, cursor =>
    match cursor.rest with
    | [] => fail .value cursor.position
    | '"' :: _ =>
      match string (cursor.skip 1) with
      | .ok (content, after) => .ok (.text content, after)
      | .error e => .error e
    | '[' :: _ =>
      match levels with
      | 0 => .error (.beyond .tooDeep)
      | levels + 1 =>
        let inside := (cursor.skip 1).skipBlanks
        match inside.rest with
        | ']' :: _ => .ok (.list [], inside.skip 1)
        | _ => items fuel levels [] inside
    | '\x7b' :: _ =>
      match levels with
      | 0 => .error (.beyond .tooDeep)
      | levels + 1 =>
        let inside := (cursor.skip 1).skipBlanks
        match inside.rest with
        | '\x7d' :: _ => .ok (.object [], inside.skip 1)
        | _ => members fuel levels [] inside
    | _ => scalar cursor

/-- The items of a list from one of them on; `read` holds those before it, last first. -/
def items : Nat → Nat → List Json → Cursor → Outcome Json
  | 0, _, _, cursor => fail .value cursor.position
  | fuel + 1, levels, read, cursor =>
    match value fuel levels cursor with
    | .error e => .error e
    | .ok (item, after) =>
      let after := after.skipBlanks
      match after.rest with
      | ']' :: _ => .ok (.list (item :: read).reverse, after.skip 1)
      | ',' :: _ => items fuel levels (item :: read) (after.skip 1).skipBlanks
      | _ => fail .comma after.position

/-- The fields of an object from one of them on. -/
def members : Nat → Nat → Fields → Cursor → Outcome Json
  | 0, _, _, cursor => fail .propertyName cursor.position
  | fuel + 1, levels, read, cursor =>
    match cursor.rest with
    | '"' :: _ =>
      match string (cursor.skip 1) with
      | .error e => .error e
      | .ok (key, after) =>
        let after := after.skipBlanks
        match after.rest with
        | ':' :: _ =>
          match value fuel levels (after.skip 1).skipBlanks with
          | .error e => .error e
          | .ok (field, after) =>
            let after := after.skipBlanks
            match after.rest with
            | '\x7d' :: _ => .ok (.object (read.set key field), after.skip 1)
            | ',' :: _ => members fuel levels (read.set key field) (after.skip 1).skipBlanks
            | _ => fail .comma after.position
        | _ => fail .colon after.position
    | _ => fail .propertyName cursor.position

end

/-- The value that fills a text. A character opens at most one list, and each list takes two steps
of the readers above, so twice the length is enough for all of them. -/
def document (cs : List Char) (levels : Nat := usualLevels) : Except ParseError Json :=
  match value (2 * cs.length + 1) levels (Cursor.mk 0 cs).skipBlanks with
  | .error e => .error e
  | .ok (result, after) =>
    let after := after.skipBlanks
    if after.rest.isEmpty then .ok result else fail .extra after.position

end Json.Parser

/-- Reads one value that fills the text. A text that opens with a byte order mark is refused. -/
def Json.parse (text : String) (levels : Nat := usualLevels) : Except ParseError Json :=
  match text.toList with
  | cs@(first :: _) =>
    if first.toNat == 0xFEFF then .error (.malformed .byteOrderMark 0)
    else Json.Parser.document cs levels
  | [] => Json.Parser.document [] levels

/-- Where a position lies in a text; lines and columns count from one, and a line ends at a line
feed. -/
structure Place where
  position : Nat
  line : Nat
  column : Nat
  deriving DecidableEq, Repr

namespace Place

/-- The place of a position in a text. -/
def of (cs : List Char) (position : Nat) : Place :=
  let before := cs.take position
  { position, line := before.count '\n' + 1,
    column := (before.reverse.takeWhile (· != '\n')).length + 1 }

/-- The place in words. -/
def message (place : Place) : String :=
  s!"line {place.line} column {place.column} (char {place.position})"

end Place
end PageObjects
