import PageObjects.Text.Blank

/-!
# Decimal integers in text

* `digitValue?`: the value of a decimal digit of any script.
* `wholeNumber?`: white space around, a sign, and digits with single underscores between them.
-/

namespace PageObjects.Text

/-- The zeros of the decimal digits beyond ASCII; each is followed by the digits one to nine. -/
def digitZeros : List Nat := [
  0x660, 0x6F0, 0x7C0, 0x966, 0x9E6, 0xA66, 0xAE6, 0xB66, 0xBE6, 0xC66, 0xCE6, 0xD66, 0xDE6, 0xE50,
  0xED0, 0xF20, 0x1040, 0x1090, 0x17E0, 0x1810, 0x1946, 0x19D0, 0x1A80, 0x1A90, 0x1B50, 0x1BB0,
  0x1C40, 0x1C50, 0xA620, 0xA8D0, 0xA900, 0xA9D0, 0xA9F0, 0xAA50, 0xABF0, 0xFF10, 0x104A0, 0x10D30,
  0x11066, 0x110F0, 0x11136, 0x111D0, 0x112F0, 0x11450, 0x114D0, 0x11650, 0x116C0, 0x11730, 0x118E0,
  0x11950, 0x11C50, 0x11D50, 0x11DA0, 0x16A60, 0x16AC0, 0x16B50, 0x1D7CE, 0x1D7D8, 0x1D7E2, 0x1D7EC,
  0x1D7F6, 0x1E140, 0x1E2F0, 0x1E950, 0x1FBF0]

/-- The value of an ASCII decimal digit. -/
def asciiDigitValue? (c : Char) : Option Nat :=
  if isAsciiDigit c then some (c.toNat - '0'.toNat) else none

/-- The value of a decimal digit of any script. -/
def digitValue? (c : Char) : Option Nat :=
  if isAscii c then asciiDigitValue? c
  else (digitZeros.find? fun base => base ≤ c.toNat && c.toNat < base + 10).map (c.toNat - ·)

/-- The value of a hexadecimal digit. -/
def hexValue? (c : Char) : Option Nat :=
  if '0' ≤ c && c ≤ '9' then some (c.toNat - '0'.toNat)
  else if 'a' ≤ c && c ≤ 'f' then some (c.toNat - 'a'.toNat + 10)
  else if 'A' ≤ c && c ≤ 'F' then some (c.toNat - 'A'.toNat + 10)
  else none

/-- The number that digits denote, most significant first. -/
def ofDigits (digits : List Nat) : Nat :=
  digits.foldl (fun n d => 10 * n + d) 0

/-- Digits with single underscores between them. -/
def separatedDigits? (value? : Char → Option Nat) : List Char → Option (List Nat)
  | [] => none
  | [c] => (value? c).map fun d => [d]
  | c :: '_' :: rest =>
    match value? c, separatedDigits? value? rest with
    | some d, some ds => some (d :: ds)
    | _, _ => none
  | c :: rest =>
    match value? c, separatedDigits? value? rest with
    | some d, some ds => some (d :: ds)
    | _, _ => none

/-- An optional sign and digits with single underscores between them. -/
def signedDigits? (value? : Char → Option Nat) : List Char → Option (Bool × List Nat)
  | '-' :: rest => (separatedDigits? value? rest).map fun ds => (true, ds)
  | '+' :: rest => (separatedDigits? value? rest).map fun ds => (false, ds)
  | cs => (separatedDigits? value? cs).map fun ds => (false, ds)

/-- The integer with the given sign and digits. -/
def signedNumber (signed : Bool × List Nat) : Int :=
  if signed.1 then - Int.ofNat (ofDigits signed.2) else Int.ofNat (ofDigits signed.2)

/-- The most digits an integer may be written with. -/
def digitLimit : Nat := 4300

/-- An integer argument: white space around, a sign, digits of any script, single underscores between
digits, and at most `digitLimit` digits. -/
def wholeNumber? (text : String) : Option Int :=
  match signedDigits? digitValue? (trimWith isWhiteSpace text.toList) with
  | some signed => if signed.2.length ≤ digitLimit then some (signedNumber signed) else none
  | none => none

end PageObjects.Text
