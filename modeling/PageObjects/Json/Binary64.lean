/-!
# Binary floating-point numbers

A number written with a point or an exponent is the binary64 number nearest to it, ties to the even
mantissa. The number is kept exactly, as `± mantissa · 2 ^ exponent`.

* `Binary64.ofDecimal`: rounding of a decimal numeral.
* `Binary64.whole?`: the integer a number is equal to, if it is one.
* `Binary64.shortest`: the fewest decimal digits that read back as the number.
-/

namespace PageObjects

/-- A binary64 number. -/
inductive Binary64 where
  | finite (negative : Bool) (mantissa : Nat) (exponent : Int)
  | infinity (negative : Bool)
  | nan
  deriving DecidableEq, Repr, Inhabited

namespace Binary64

/-- `n / d` rounded to the nearest integer, a half to the even one. -/
def roundDiv (n d : Nat) : Nat :=
  let q := n / d
  let r := n % d
  if 2 * r < d then q
  else if d < 2 * r then q + 1
  else if q % 2 == 0 then q else q + 1

/-- `n · 2 ^ k` as a fraction. -/
def scaled (n : Nat) (k : Int) : Nat × Nat :=
  if 0 ≤ k then (n * Nat.pow 2 k.toNat, 1) else (n, Nat.pow 2 (-k).toNat)

/-- Mantissas lie below this bound. -/
def mantissaBound : Nat := Nat.pow 2 53

/-- The least exponent of a binary64 number. -/
def leastExponent : Int := -1074

/-- The greatest exponent of a binary64 number. -/
def greatestExponent : Int := 971

/-- The number `± n / d` rounded; `n` is not zero. -/
def ofRatio (negative : Bool) (n d : Nat) : Binary64 :=
  let guess : Int := Int.ofNat n.log2 - Int.ofNat d.log2 - 53
  let mantissaAt (e : Int) : Nat :=
    let (sn, sd) := scaled n (-e)
    roundDiv sn (sd * d)
  let floorAt (e : Int) : Nat :=
    let (sn, sd) := scaled n (-e)
    sn / (sd * d)
  let exponent := if floorAt guess < mantissaBound then guess else guess + 1
  let exponent := if exponent < leastExponent then leastExponent else exponent
  let mantissa := mantissaAt exponent
  let (mantissa, exponent) :=
    if mantissa == mantissaBound then (mantissaBound / 2, exponent + 1) else (mantissa, exponent)
  if greatestExponent < exponent then .infinity negative else .finite negative mantissa exponent

/-- The decimal numeral `± digits · 10 ^ power`, rounded. A numeral whose leading digit stands at
or beyond the place of `10 ^ 310` is infinite, one whose leading digit stands below that of
`10 ^ -400` is zero. -/
def ofDecimal (negative : Bool) (digits : Nat) (power : Int) : Binary64 :=
  if digits == 0 then .finite negative 0 leastExponent
  else
    let places : Int := Int.ofNat (Nat.toDigits 10 digits).length
    if 310 < places + power then .infinity negative
    else if places + power < -400 then .finite negative 0 leastExponent
    else if 0 ≤ power then ofRatio negative (digits * Nat.pow 10 power.toNat) 1
    else ofRatio negative digits (Nat.pow 10 (-power).toNat)

/-- The integer that the number is equal to. -/
def whole? : Binary64 → Option Int
  | .finite negative mantissa exponent =>
    let (n, d) := scaled mantissa exponent
    if n % d == 0 then some (if negative then - Int.ofNat (n / d) else Int.ofNat (n / d)) else none
  | _ => none

/-- The number is neither infinite nor a NaN. -/
def isFinite : Binary64 → Bool
  | .finite _ _ _ => true
  | _ => false

/-! ## The shortest decimal -/

/-- `n / d` lies in the interval of reals that round to `mantissa · 2 ^ exponent`. -/
def readsBack (mantissa : Nat) (exponent : Int) (n d : Nat) : Bool :=
  n != 0 && ofRatio false n d == .finite false mantissa exponent

/-- `n · 10 ^ k` as a fraction. -/
def decimalScaled (n : Nat) (k : Int) : Nat × Nat :=
  if 0 ≤ k then (n * Nat.pow 10 k.toNat, 1) else (n, Nat.pow 10 (-k).toNat)

/-- The greatest `k ≤ start` within `fuel` steps for which some multiple of `10 ^ k` reads back,
and the multiplier; of two multipliers the one nearer to the number, and the even one when both are
equally near. -/
def shortestFrom (mantissa : Nat) (exponent : Int) : Nat → Int → Nat × Int
  | 0, k => (0, k)
  | fuel + 1, k =>
    let (n, d) := scaled mantissa exponent
    let (un, ud) := decimalScaled 1 k
    -- the number is `(n * ud) / (d * un)` units of `10 ^ k`
    let top := n * ud
    let bottom := d * un
    let low := top / bottom
    let high := low + 1
    let reads (m : Nat) : Bool :=
      let (a, b) := decimalScaled m k
      readsBack mantissa exponent a b
    match reads low, reads high with
    | true, true =>
      let beyond := 2 * (top % bottom)
      (if beyond < bottom || beyond == bottom && low % 2 == 0 then low else high, k)
    | true, false => (low, k)
    | false, true => (high, k)
    | false, false => shortestFrom mantissa exponent fuel (k - 1)

/-- The decimal multiplier and power of ten of the shortest numeral that reads back as
`mantissa · 2 ^ exponent`. -/
def shortest (mantissa : Nat) (exponent : Int) : Nat × Int :=
  if mantissa == 0 then (0, 0) else shortestFrom mantissa exponent 700 310

/-- A numeral in its decimal digits, with the power of ten of its last digit: positional between
`10 ^ -4` and `10 ^ 16`, with an exponent of at least two digits elsewhere. -/
def numeral (digits : List Char) (power : Int) : List Char :=
  let point : Int := Int.ofNat digits.length + power
  if -4 < point && point ≤ 16 then
    if point ≤ 0 then
      '0' :: '.' :: List.replicate (-point).toNat '0' ++ digits
    else if Int.ofNat digits.length ≤ point then
      digits ++ List.replicate (point - Int.ofNat digits.length).toNat '0' ++ ['.', '0']
    else
      digits.take point.toNat ++ '.' :: digits.drop point.toNat
  else
    let exponent := point - 1
    let mark := if exponent < 0 then '-' else '+'
    let places := Nat.toDigits 10 exponent.natAbs
    let places := if places.length < 2 then '0' :: places else places
    let head := match digits with
      | [] => []
      | [d] => [d]
      | d :: rest => d :: '.' :: rest
    head ++ 'e' :: mark :: places

/-- The number in its shortest decimal form; `special` names infinity and NaN. -/
def display (special : String × String) : Binary64 → String
  | .nan => special.2
  | .infinity negative => (if negative then "-" else "") ++ special.1
  | .finite negative mantissa exponent =>
    let (digits, power) := shortest mantissa exponent
    let text := if digits == 0 then ['0', '.', '0'] else numeral (Nat.toDigits 10 digits) power
    String.ofList (if negative then '-' :: text else text)

end Binary64
end PageObjects
