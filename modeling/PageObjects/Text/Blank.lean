import PageObjects.Text.Ranges

/-!
# Blanks and line breaks

* `isBlank`: the `White_Space` characters and the four information separators U+001C to U+001F.
* `trim` removes blanks at both ends.
* `lines` cuts at every mandatory line break: LF, VT, FF, CR, the separators U+001C to U+001E,
  NEL, LS and PS. CR LF is one break, and a break at the end opens no further line.
-/

namespace PageObjects.Text

/-- The `White_Space` property. -/
def isWhiteSpace (c : Char) : Bool :=
  let n := c.toNat
  (9 ≤ n && n ≤ 13) || n == 0x20 || n == 0x85 || n == 0xA0 || n == 0x1680 ||
    (0x2000 ≤ n && n ≤ 0x200A) || n == 0x2028 || n == 0x2029 || n == 0x202F || n == 0x205F ||
    n == 0x3000

/-- White space, or one of the information separators U+001C to U+001F. -/
def isBlank (c : Char) : Bool :=
  isWhiteSpace c || (0x1C ≤ c.toNat && c.toNat ≤ 0x1F)

/-- The characters left when those that satisfy `drop` are removed at both ends. -/
def trimWith (drop : Char → Bool) (cs : List Char) : List Char :=
  ((cs.dropWhile drop).reverse.dropWhile drop).reverse

/-- The characters without the blanks at both ends. -/
def trim (cs : List Char) : List Char := trimWith isBlank cs

/-- A character that ends a line. -/
def isLineBreak (c : Char) : Bool :=
  let n := c.toNat
  (0x0A ≤ n && n ≤ 0x0D) || (0x1C ≤ n && n ≤ 0x1E) || n == 0x85 || n == 0x2028 || n == 0x2029

/-- The lines of a text; `line` holds the current line, last character first. -/
def linesFrom (line : List Char) : List Char → List (List Char)
  | [] => if line.isEmpty then [] else [line.reverse]
  | '\r' :: '\n' :: rest => line.reverse :: linesFrom [] rest
  | c :: rest => if isLineBreak c then line.reverse :: linesFrom [] rest else linesFrom (c :: line) rest

/-- The lines of a text, without their breaks. -/
def lines (text : String) : List String :=
  (linesFrom [] text.toList).map String.ofList

end PageObjects.Text
