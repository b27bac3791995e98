/-!
# From bytes to text

The encoding of a JSON document is read off its first bytes: a byte order mark decides, else the
pattern of zero bytes among the first four, else it is UTF-8. A half of a surrogate pair written
out in any of the encodings is let through, as one character U+FFFD.

Positions count bytes from zero.
-/

namespace PageObjects

/-- How a document's characters are written as bytes. -/
inductive Encoding where
  | utf8
  | utf16 (bigEndian : Bool)
  | utf32 (bigEndian : Bool)
  deriving DecidableEq, Repr

/-- The name of an encoding. -/
def Encoding.name : Encoding → String
  | .utf8 => "utf-8"
  | .utf16 bigEndian => if bigEndian then "utf-16-be" else "utf-16-le"
  | .utf32 bigEndian => if bigEndian then "utf-32-be" else "utf-32-le"

/-- What is wrong with a run of bytes. -/
inductive ByteFault where
  | invalidStart
  | invalidContinuation
  | unexpectedEnd
  | truncated
  | outOfRange
  deriving DecidableEq, Repr

/-- The fault in words. -/
def ByteFault.message : ByteFault → String
  | .invalidStart => "invalid start byte"
  | .invalidContinuation => "invalid continuation byte"
  | .unexpectedEnd => "unexpected end of data"
  | .truncated => "truncated data"
  | .outOfRange => "code point not in range(0x110000)"

/-- Why bytes are not read as text: the first bytes at fault, `length` of them from `position` on,
and the first of them. -/
structure DecodeError where
  encoding : Encoding
  fault : ByteFault
  position : Nat
  length : Nat
  byte : UInt8
  deriving DecidableEq, Repr

/-- A byte in two hexadecimal digits. -/
def hexByte (byte : UInt8) : String :=
  let digits := Nat.toDigits 16 byte.toNat
  String.ofList (if digits.length < 2 then '0' :: digits else digits)

/-- The error in words. -/
def DecodeError.message (e : DecodeError) : String :=
  if e.length == 1 then
    s!"'{e.encoding.name}' codec can't decode byte 0x{hexByte e.byte} in position {e.position}: {e.fault.message}"
  else
    s!"'{e.encoding.name}' codec can't decode bytes in position {e.position}-{e.position + e.length - 1}: {e.fault.message}"

namespace Encoding

/-- The character with the code, or U+FFFD for a half of a surrogate pair. -/
def charOf (code : Nat) : Char :=
  if 0xD800 ≤ code && code ≤ 0xDFFF then Char.ofNat 0xFFFD else Char.ofNat code

/-- What stands at the head of some bytes: a character and the number of bytes it takes, or a fault
and the number of bytes at fault. -/
inductive Head where
  | char (c : Char) (length : Nat)
  | fault (fault : ByteFault) (length : Nat)

/-! ## UTF-8 -/

/-- A byte that goes on with a character. -/
def isContinuation (byte : UInt8) : Bool := byte.toNat / 64 == 2

/-- The low six bits of a continuation byte. -/
def payload (byte : UInt8) : Nat := byte.toNat % 64

/-- A second byte that a character with the first byte `lead` may have: beyond continuation bytes,
it excludes the forms longer than needed, the codes above U+10FFFF and the surrogates. -/
def allowsSecond (lead second : UInt8) : Bool :=
  isContinuation second &&
    (if lead.toNat == 0xE0 then 0xA0 ≤ second.toNat
    else if lead.toNat == 0xED then second.toNat < 0xA0
    else if lead.toNat == 0xF0 then 0x90 ≤ second.toNat
    else if lead.toNat == 0xF4 then second.toNat < 0x90
    else true)

/-- The three bytes write a half of a surrogate pair. -/
def writesSurrogate (lead second third : UInt8) : Bool :=
  lead.toNat == 0xED && isContinuation second && 0xA0 ≤ second.toNat && isContinuation third

/-- A character of three bytes that starts with `lead`. -/
def threeByteHead (lead : UInt8) : List UInt8 → Head
  | [] => .fault .unexpectedEnd 1
  | [second] => if allowsSecond lead second then .fault .unexpectedEnd 2 else .fault .invalidContinuation 1
  | second :: third :: _ =>
    if writesSurrogate lead second third then .char (Char.ofNat 0xFFFD) 3
    else if !allowsSecond lead second then .fault .invalidContinuation 1
    else if !isContinuation third then .fault .invalidContinuation 2
    else .char (charOf (lead.toNat % 16 * 4096 + payload second * 64 + payload third)) 3

/-- A character of four bytes that starts with `lead`. -/
def fourByteHead (lead : UInt8) : List UInt8 → Head
  | [] => .fault .unexpectedEnd 1
  | second :: rest =>
    if !allowsSecond lead second then .fault .invalidContinuation 1
    else
      match rest with
      | [] => .fault .unexpectedEnd 2
      | third :: rest =>
        if !isContinuation third then .fault .invalidContinuation 2
        else
          match rest with
          | [] => .fault .unexpectedEnd 3
          | fourth :: _ =>
            if !isContinuation fourth then .fault .invalidContinuation 3
            else
              .char (charOf (lead.toNat % 8 * 262144 + payload second * 4096 + payload third * 64 +
                payload fourth)) 4

/-- The head of bytes in UTF-8, split into the first byte and the rest. -/
def utf8Head (lead : UInt8) (rest : List UInt8) : Head :=
  let n := lead.toNat
  if n < 0x80 then .char (Char.ofNat n) 1
  else if n < 0xC2 then .fault .invalidStart 1
  else if n < 0xE0 then
    match rest with
    | [] => .fault .unexpectedEnd 1
    | second :: _ =>
      if isContinuation second then .char (charOf (n % 32 * 64 + payload second)) 2
      else .fault .invalidContinuation 1
  else if n < 0xF0 then threeByteHead lead rest
  else if n < 0xF5 then fourByteHead lead rest
  else .fault .invalidStart 1

/-! ## UTF-16 and UTF-32 -/

/-- The number that bytes write, in the given order. -/
def word (bigEndian : Bool) (bytes : List UInt8) : Nat :=
  (if bigEndian then bytes else bytes.reverse).foldl (fun n byte => n * 256 + byte.toNat) 0

/-- The head of bytes in UTF-16. -/
def utf16Head (bigEndian : Bool) : List UInt8 → Head
  | a :: b :: rest =>
    let unit := word bigEndian [a, b]
    if 0xD800 ≤ unit && unit ≤ 0xDBFF then
      match rest with
      | c :: d :: _ =>
        let low := word bigEndian [c, d]
        if 0xDC00 ≤ low && low ≤ 0xDFFF then
          .char (Char.ofNat (0x10000 + (unit - 0xD800) * 0x400 + (low - 0xDC00))) 4
        else .char (charOf unit) 2
      | _ => .char (charOf unit) 2
    else .char (charOf unit) 2
  | bytes => .fault .truncated bytes.length

/-- The head of bytes in UTF-32. -/
def utf32Head (bigEndian : Bool) : List UInt8 → Head
  | a :: b :: c :: d :: _ =>
    let code := word bigEndian [a, b, c, d]
    if code < 0x110000 then .char (charOf code) 4 else .fault .outOfRange 4
  | bytes => .fault .truncated bytes.length

/-- The head of bytes in an encoding. -/
def head (encoding : Encoding) (lead : UInt8) (rest : List UInt8) : Head :=
  match encoding with
  | .utf8 => utf8Head lead rest
  | .utf16 bigEndian => utf16Head bigEndian (lead :: rest)
  | .utf32 bigEndian => utf32Head bigEndian (lead :: rest)

/-- The characters that bytes write from `position` on; `read` holds those before, last first. -/
def decodeFrom (encoding : Encoding) : Nat → Nat → List Char → List UInt8 → Except DecodeError String
  | 0, _, read, _ => .ok (String.ofList read.reverse)
  | _, _, read, [] => .ok (String.ofList read.reverse)
  | fuel + 1, position, read, lead :: rest =>
    match encoding.head lead rest with
    | .char c length => decodeFrom encoding fuel (position + length) (c :: read) (rest.drop (length - 1))
    | .fault fault length => .error ⟨encoding, fault, position, length, lead⟩

/-- The text that bytes write in an encoding; the first byte stands at `position`. -/
def decode (encoding : Encoding) (position : Nat) (bytes : List UInt8) : Except DecodeError String :=
  decodeFrom encoding bytes.length position [] bytes

/-- The encoding that a byte order mark gives and the length of the mark, which takes part in the
count of positions unless the encoding is UTF-8. -/
def ofMark? : List UInt8 → Option (Encoding × Nat)
  | 0x00 :: 0x00 :: 0xFE :: 0xFF :: _ => some (.utf32 true, 4)
  | 0xFF :: 0xFE :: 0x00 :: 0x00 :: _ => some (.utf32 false, 4)
  | 0xFE :: 0xFF :: _ => some (.utf16 true, 2)
  | 0xFF :: 0xFE :: _ => some (.utf16 false, 2)
  | 0xEF :: 0xBB :: 0xBF :: _ => some (.utf8, 3)
  | _ => none

/-- The encoding of bytes that open with no mark. -/
def ofZeros : List UInt8 → Encoding
  | a :: b :: c :: d :: _ =>
    if a == 0 then (if b == 0 then .utf32 true else .utf16 true)
    else if b == 0 then (if c == 0 && d == 0 then .utf32 false else .utf16 false)
    else .utf8
  | [a, b] => if a == 0 then .utf16 true else if b == 0 then .utf16 false else .utf8
  | _ => .utf8

end Encoding

/-- The text of a JSON document given as bytes. -/
def decodeDocument (bytes : List UInt8) : Except DecodeError String :=
  match Encoding.ofMark? bytes with
  | some (encoding, length) =>
    encoding.decode (if encoding == .utf8 then 0 else length) (bytes.drop length)
  | none => (Encoding.ofZeros bytes).decode 0 bytes

end PageObjects
