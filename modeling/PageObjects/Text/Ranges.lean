/-!
# Tables of code points

A property of characters is written as the ASCII characters that have it, said by a test, and a
table of the closed ranges of code points beyond ASCII. The tables follow Unicode 14.
-/

namespace PageObjects.Text

/-- Closed ranges of code points, in increasing order. -/
abbrev Ranges := Array (Nat × Nat)

/-- `c` lies in one of the ranges. -/
def Ranges.has (table : Ranges) (c : Char) : Bool :=
  table.any fun range => range.1 ≤ c.toNat && c.toNat ≤ range.2

/-- `c` is an ASCII character. -/
def isAscii (c : Char) : Bool := c.toNat < 128

/-- An ASCII letter. -/
def isAsciiLetter (c : Char) : Bool :=
  ('a' ≤ c && c ≤ 'z') || ('A' ≤ c && c ≤ 'Z')

/-- An ASCII decimal digit. -/
def isAsciiDigit (c : Char) : Bool := '0' ≤ c && c ≤ '9'

end PageObjects.Text
