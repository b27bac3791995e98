import PageObjects.Text.Digits

/-!
# Integers given as settings

A setting that is an integer may come as a text. White space around it and a plus sign are passed
over, and three things are removed before it is read as a plain decimal integer:

* `dropZeros?`: zeros in front, with the underscores among them.
* `dropZeroFraction`: a point with zeros only after it.
* `dropSeparators`: underscores, when each stands alone between other characters.

`integerSetting` is the whole reading. Zeros that are removed do not count against `digitLimit`.
-/

namespace PageObjects.Text

/-- Why a text is no integer. -/
inductive IntegerFault where
  | unreadable
  | oversized
  deriving DecidableEq, Repr

/-- A digit from one to nine. -/
def isNonzeroDigit (c : Char) : Bool := isAsciiDigit c && c != '0'

/-- The characters from the first one on that is neither a zero nor an underscore. It has to be a
digit, a minus sign or a point; the character before, `last`, stays in front of a point, and alone
where nothing else is left. -/
def dropZerosAfter? (last : Char) : List Char → Option (List Char)
  | [] => some [last]
  | c :: rest =>
    if c == '0' || c == '_' then dropZerosAfter? c rest
    else if c == '.' then some (last :: c :: rest)
    else if isNonzeroDigit c || c == '-' then some (c :: rest)
    else none

/-- The characters without zeros in front; none if they start with neither digit nor minus sign. -/
def dropZeros? : List Char → Option (List Char)
  | [] => none
  | c :: rest =>
    if c == '0' then dropZerosAfter? c rest
    else if isNonzeroDigit c || c == '-' then some (c :: rest)
    else none

/-- The characters without a tail that is a point and at least one zero, and only zeros. -/
def dropZeroFraction (cs : List Char) : List Char :=
  let whole := cs.takeWhile (· != '.')
  let fraction := cs.drop (whole.length + 1)
  if fraction.isEmpty || fraction.any (· != '0') then cs else whole

/-- Underscores stand neither at an end nor beside each other. -/
def hasSingleSeparators (cs : List Char) : Bool :=
  cs.head? != some '_' && cs.getLast? != some '_' && !(cs.zip (cs.drop 1)).contains ('_', '_')

/-- The characters without their underscores, if those are single separators. -/
def dropSeparators (cs : List Char) : List Char :=
  if hasSingleSeparators cs then cs.filter (· != '_') else cs

/-- The characters with zeros in front removed behind their sign. -/
def dropSignedZeros? : List Char → Option (List Char)
  | '+' :: '-' :: _ => none
  | '+' :: rest => dropZeros? rest
  | '-' :: rest => (dropZeros? rest).map ('-' :: ·)
  | cs => dropZeros? cs

/-- The digits that the characters start with; none at all if the first is a zero. -/
def leadingDigits : List Char → List Char
  | '0' :: _ => []
  | cs => cs.takeWhile isAsciiDigit

/-- The value of at most `digitLimit` digits without a zero in front. -/
def plainNatural? (cs : List Char) : Option Nat :=
  let digits := leadingDigits cs
  if cs == ['0'] then some 0
  else if digits.isEmpty || digits.length < cs.length || digitLimit < digits.length then none
  else some (ofDigits (digits.filterMap asciiDigitValue?))

/-- The value of an optional minus sign and digits without a zero in front. -/
def plainInteger? : List Char → Option Int
  | '-' :: rest => (plainNatural? rest).map fun n => - Int.ofNat n
  | cs => (plainNatural? cs).map Int.ofNat

/-- More than `digitLimit` digits stand at the very start or behind a minus sign there. -/
def startsOversized : List Char → Bool
  | '-' :: rest => digitLimit < (leadingDigits rest).length
  | cs => digitLimit < (leadingDigits cs).length

/-- The integer that the text of a setting stands for. Too many digits are told apart from what is
unreadable only where nothing had to be removed in front of them. -/
def integerSetting (text : String) : Except IntegerFault Int :=
  if startsOversized text.toList then .error .oversized
  else
    match dropSignedZeros? (trimWith isWhiteSpace text.toList) with
    | none => .error .unreadable
    | some cs =>
      match plainInteger? (dropSeparators (dropZeroFraction cs)) with
      | some n => .ok n
      | none => .error .unreadable

end PageObjects.Text
