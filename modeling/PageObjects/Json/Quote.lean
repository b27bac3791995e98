import PageObjects.Text.Quoted

/-!
# Quoted JSON text

`encode` writes a text between double quotes in printable ASCII: the double quote, the backslash
and the controls that have a letter are escaped by it, every other control, DEL and every character
beyond ASCII by its UTF-16 units in four hexadecimal digits. Generated code writes literals and the
texts of selectors in this way.
-/

namespace PageObjects.Json.Quote

open PageObjects.Text (hexDigits)

/-- A UTF-16 unit as an escape of four hexadecimal digits. -/
def unitEscape (unit : Nat) : List Char := '\\' :: 'u' :: hexDigits 4 unit

/-- The UTF-16 units of a character. -/
def units (c : Char) : List Nat :=
  if c.toNat < 0x10000 then [c.toNat]
  else
    let offset := c.toNat - 0x10000
    [0xD800 + offset / 0x400, 0xDC00 + offset % 0x400]

/-- How one character is written between the quotes. -/
def encodeChar (c : Char) : List Char :=
  if c == '"' || c == '\\' then ['\\', c]
  else if c == '\n' then ['\\', 'n']
  else if c == '\r' then ['\\', 'r']
  else if c == '\t' then ['\\', 't']
  else if c.toNat == 0x0C then ['\\', 'f']
  else if c.toNat == 0x08 then ['\\', 'b']
  else if 0x20 ≤ c.toNat && c.toNat ≤ 0x7E then [c]
  else (units c).flatMap unitEscape

/-- The text between double quotes. -/
def encode (text : String) : String :=
  String.ofList ('"' :: text.toList.flatMap encodeChar ++ ['"'])

end PageObjects.Json.Quote
