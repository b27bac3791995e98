import PageObjects.Text.Printable

/-!
# Quoted text in messages

A message shows a text in single quotes, or in double quotes when the text holds a single quote and
no double quote. The quote and the backslash are escaped, tab, line feed and carriage return are
named, and any other unprintable character is written as its code in hexadecimal.
-/

namespace PageObjects.Text

/-- One lower-case hexadecimal digit. -/
def hexDigit (n : Nat) : Char :=
  if n < 10 then Char.ofNat ('0'.toNat + n) else Char.ofNat ('a'.toNat + (n - 10))

/-- The last `width` hexadecimal digits of a number. -/
def hexDigits : Nat → Nat → List Char
  | 0, _ => []
  | width + 1, n => hexDigits width (n / 16) ++ [hexDigit (n % 16)]

/-- How one character is shown between quotes of the given kind. -/
def quotedChar (quote : Char) (c : Char) : List Char :=
  if c == quote || c == '\\' then ['\\', c]
  else if c == '\t' then ['\\', 't']
  else if c == '\n' then ['\\', 'n']
  else if c == '\r' then ['\\', 'r']
  else if isPrintable c then [c]
  else if c.toNat ≤ 0xFF then '\\' :: 'x' :: hexDigits 2 c.toNat
  else if c.toNat ≤ 0xFFFF then '\\' :: 'u' :: hexDigits 4 c.toNat
  else '\\' :: 'U' :: hexDigits 8 c.toNat

/-- The text as a message shows it. -/
def quoted (text : String) : String :=
  let cs := text.toList
  let quote := if cs.contains '\'' && !cs.contains '"' then '"' else '\''
  String.ofList (quote :: cs.flatMap (quotedChar quote) ++ [quote])

/-- Items in square brackets, separated by commas. -/
def bracketed (items : List String) : String :=
  "[" ++ ", ".intercalate items ++ "]"

/-- A list of texts as a message shows it. -/
def quotedList (texts : List String) : String :=
  bracketed (texts.map quoted)

/-- Texts in the order of their code points. -/
def sorted (texts : List String) : List String :=
  texts.mergeSort fun a b => decide (a ≤ b)

end PageObjects.Text
