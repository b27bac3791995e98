import PageObjects.Text.Ranges

/-!
# Punycode

Text beyond ASCII written in small letters, digits and hyphens. The ASCII characters come first as they
are, with a hyphen after them. Then every other character, in the order of code points, is written as
the number of steps to its place and code point from those of the one before it.

Numbers have digits of base 36, the lowest first. The weight of a digit, and whether it is the last,
depends on a bias that follows the size of the numbers so far.

* `encode`: the written form.
* `decode?`: the code points that a written form stands for.
-/

namespace PageObjects.HostName.Punycode

/-! ## Digits -/

/-- The number of digits. -/
def base : Nat := 36

/-- The character of a digit: letters for the first 26. -/
def digitChar (digit : Nat) : Char :=
  if digit < 26 then Char.ofNat ('a'.toNat + digit) else Char.ofNat ('0'.toNat + (digit - 26))

/-- The digit of a character. -/
def digitValue? (c : Char) : Option Nat :=
  if 'a' ≤ c && c ≤ 'z' then some (c.toNat - 'a'.toNat)
  else if Text.isAsciiDigit c then some (c.toNat - '0'.toNat + 26)
  else none

/-- The least value with which a digit at a position is not the last one. -/
def threshold (bias position : Nat) : Nat := max 1 (min 26 (base * (position + 1) - bias))

theorem one_le_threshold (bias position : Nat) : 1 ≤ threshold bias position := by
  unfold threshold
  omega

/-- Divides a number until it is small, and counts the divisions. -/
def scaled (n divisions : Nat) : Nat × Nat :=
  if 455 < n then scaled (n / 35) (divisions + 1) else (n, divisions)
termination_by n
decreasing_by omega

/-- The bias after a number. `length` is that of the text so far with the new character, and the first
number of all counts less. -/
def nextBias (number length : Nat) (isFirst : Bool) : Nat :=
  let damped := if isFirst then number / 700 else number / 2
  let (rest, divisions) := scaled (damped + damped / length) 0
  base * divisions + base * rest / (rest + 38)

/-! ## Writing -/

/-- The digits of a number from a position on. -/
def digits (bias position n : Nat) : List Char :=
  let t := threshold bias position
  if n < t then [digitChar n]
  else digitChar (t + (n - t) % (base - t)) :: digits bias (position + 1) ((n - t) / (base - t))
termination_by n
decreasing_by
  have h := one_le_threshold bias position
  have := Nat.div_le_self (n - threshold bias position) (base - threshold bias position)
  omega

/-- Where writing stands: what is written, the steps since then, the bias, and how many characters of
the text are written. -/
structure Writing where
  written : List Char := []
  steps : Nat := 0
  bias : Nat := 72
  count : Nat

/-- Steps over a character of the text while those with one code point are written. -/
def Writing.pass (ascii code : Nat) (w : Writing) (c : Char) : Writing :=
  if c.toNat < code then { w with steps := w.steps + 1 }
  else if c.toNat == code then
    { written := w.written ++ digits w.bias 0 w.steps, steps := 0,
      bias := nextBias w.steps (w.count + 1) (w.count == ascii), count := w.count + 1 }
  else w

/-- Writes the characters with the given code points; all below `next` are written. -/
def Writing.run (text : List Char) (ascii : Nat) : List Nat → Nat → Writing → Writing
  | [], _, w => w
  | code :: codes, next, w =>
    let w := text.foldl (pass ascii code)
      { w with steps := w.steps + (code - next) * (w.count + 1) }
    run text ascii codes (code + 1) { w with steps := w.steps + 1 }

/-- Puts a number into increasing ones, once. -/
def insertCode (n : Nat) : List Nat → List Nat
  | [] => [n]
  | m :: rest =>
    if n < m then n :: m :: rest else if n == m then m :: rest else m :: insertCode n rest

/-- The written form. -/
def encode (text : List Char) : List Char :=
  let ascii := text.filter Text.isAscii
  let codes := ((text.filter fun c => !Text.isAscii c).map Char.toNat).foldr insertCode []
  let rest := Writing.run text ascii.length codes 128 { count := ascii.length }
  ascii ++ (if ascii.isEmpty then [] else ['-']) ++ rest.written

/-! ## Reading -/

/-- Reads a number from a position on, whose digits there weigh `weight`: the number and what follows
it. -/
def number? (bias : Nat) : List Char → Nat → Nat → Option (Nat × List Char)
  | [], _, _ => none
  | c :: rest, position, weight =>
    match digitValue? c with
    | none => none
    | some digit =>
      let t := threshold bias position
      if digit < t then some (digit * weight, rest)
      else
        (number? bias rest (position + 1) (weight * (base - t))).map fun (n, after) =>
          (digit * weight + n, after)

/-- The greatest code point. -/
def codeLimit : Nat := 0x10FFFF

/-- Puts the code points that numbers stand for into a text. `steps` is where the text stands, and
`next` the code point that it has come to. -/
def insertAll? : Nat → Nat → Nat → Nat → Bool → List Nat → List Char → Option (List Nat)
  | 0, _, _, _, _, _, _ => none
  | _, _, _, _, _, text, [] => some text
  | fuel + 1, bias, next, steps, isFirst, text, cs =>
    match number? bias cs 0 1 with
    | none => none
    | some (n, rest) =>
      let places := text.length + 1
      let code := next + (steps + n) / places
      let place := (steps + n) % places
      if code ≤ codeLimit then
        insertAll? fuel (nextBias n places isFirst) code (place + 1) false
          (text.insertIdx place code) rest
      else none

/-- The code points that a written form stands for. What is before its last hyphen is ASCII. -/
def decode? (cs : List Char) : Option (List Nat) :=
  let rest := (cs.reverse.takeWhile (· != '-')).reverse
  let ascii := cs.take (cs.length - rest.length - 1)
  insertAll? (rest.length + 1) 72 128 0 true (ascii.map Char.toNat) rest

end PageObjects.HostName.Punycode
