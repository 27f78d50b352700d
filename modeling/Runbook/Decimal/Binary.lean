import Runbook.Text.Numeral

/-!
# Binary floating-point numbers

A floating-point number of 64 bits is a whole number times a power of two, an infinity, or not a
number. `Binary.ofDecimal` finds the one nearest to a decimal, with ties going to the even mantissa.
`Binary.describe` writes a number with the fewest digits that still read back as the same number,
always positionally and always with a decimal point.
-/

namespace Runbook

/-- A floating-point number. -/
inductive Binary where
  /-- The number `mantissa * 2 ^ exponent`, or its negative. -/
  | finite (negative : Bool) (mantissa : Nat) (exponent : Int)
  | infinite (negative : Bool)
  | notANumber
  deriving Repr, DecidableEq

namespace Binary

/-- The least exponent of a finite number. -/
def leastExponent : Int := -1074

/-- The greatest exponent of a finite number. -/
def greatestExponent : Int := 971

/-- The least mantissa of a number whose exponent is not the least. -/
def leastMantissa : Nat := 4503599627370496

/-! ## From decimals -/

/-- A fraction as its numerator and denominator, times two to the power of `n`. -/
def scaleTwo (num den : Nat) (n : Int) : Nat × Nat :=
  if n ≥ 0 then (num * Nat.pow 2 n.toNat, den) else (num, den * Nat.pow 2 (-n).toNat)

/-- A fraction as its numerator and denominator, times ten to the power of `n`. -/
def scaleTen (num den : Nat) (n : Int) : Nat × Nat :=
  if n ≥ 0 then (num * Nat.pow 10 n.toNat, den) else (num, den * Nat.pow 10 (-n).toNat)

/-- The quotient rounded to the nearest whole number; a tie goes to the even neighbour. -/
def divideEven (num den : Nat) : Nat :=
  let q := num / den
  let r := num % den
  if 2 * r > den || (2 * r == den && q % 2 == 1) then q + 1 else q

/-- The finite or infinite number nearest to `num / den`. -/
def ofFraction (negative : Bool) (num den : Nat) : Binary :=
  let estimate : Int := (num.log2 : Int) - (den.log2 : Int) - 52
  let (n, d) := scaleTwo num den (-estimate)
  let exponent := max leastExponent (if n < leastMantissa * d then estimate - 1 else estimate)
  let (n, d) := scaleTwo num den (-exponent)
  let mantissa := divideEven n d
  let (mantissa, exponent) :=
    if mantissa = 2 * leastMantissa then (leastMantissa, exponent + 1) else (mantissa, exponent)
  if exponent > greatestExponent then .infinite negative
  else .finite negative mantissa exponent

/-- The number nearest to `digits * 10 ^ exponent`. Decimals far outside the range of finite numbers
are settled by their magnitude alone. -/
def ofDecimal (negative : Bool) (digits : Nat) (exponent : Int) : Binary :=
  let magnitude : Int := (Text.ofNat digits).length + exponent
  if digits = 0 || magnitude < -400 then .finite negative 0 leastExponent
  else if magnitude > 400 then .infinite negative
  else
    let (n, d) := scaleTen digits 1 exponent
    ofFraction negative n d

/-! ## Shortest decimals -/

/-- Whether the fraction `num / den` rounds to `mantissa * 2 ^ exponent`. -/
def roundsTo (mantissa : Nat) (exponent : Int) (num den : Nat) : Bool :=
  let below := if mantissa = leastMantissa && exponent > leastExponent then 1 else 2
  let (n, d) := scaleTwo num den (2 - exponent)
  let low := (4 * mantissa - below) * d
  let high := (4 * mantissa + 2) * d
  if mantissa % 2 = 0 then low ≤ n && n ≤ high else low < n && n < high

/-- Of the two decimals with the power `power` of ten that enclose the number, the nearer that
rounds to it, if there is one. -/
def neighbour? (mantissa : Nat) (exponent power : Int) : Option Nat :=
  let (n, d) := scaleTwo mantissa 1 exponent
  let (n, d) := scaleTen n d (-power)
  let low := n / d
  let reads (digits : Nat) : Bool :=
    let (num, den) := scaleTen digits 1 power
    roundsTo mantissa exponent num den
  let nearerFirst := if 2 * (n % d) < d then [low, low + 1] else [low + 1, low]
  nearerFirst.find? reads

/-- The first decimal of at least `count` digits that rounds to the number, which lies below ten to
the power `top`. -/
def shortestFrom (mantissa : Nat) (exponent top : Int) : Nat → Nat → Nat × Int
  | 0, _ => (mantissa, exponent)
  | fuel + 1, count =>
    match neighbour? mantissa exponent (top - count) with
    | some digits => (digits, top - count)
    | none => shortestFrom mantissa exponent top fuel (count + 1)

/-- The number of digits before the decimal point, which is not positive for small fractions. -/
def decimalTop (mantissa : Nat) (exponent : Int) : Int :=
  let (n, d) := scaleTwo mantissa 1 exponent
  if n ≥ d then (Text.ofNat (n / d)).length
  else 1 - (Text.ofNat (d / n)).length

/-- Digits times a power of ten, written positionally with at least one digit on either side of the
point. -/
def positional (digits : Nat) (power : Int) : Text :=
  let text := Text.ofNat digits
  if power ≥ 0 then text ++ List.replicate power.toNat '0' ++ ".0"
  else
    let places := (-power).toNat
    let text := List.replicate (places + 1 - text.length) '0' ++ text
    let fraction := ((text.drop (text.length - places)).reverse.dropWhile (· == '0')).reverse
    text.take (text.length - places) ++ "." ++ (if fraction.isEmpty then ['0'] else fraction)

/-- The text of a number. -/
def describe : Binary → Text
  | .notANumber => "NaN"
  | .infinite negative => (if negative then ['-'] else []) ++ "inf"
  | .finite negative mantissa exponent =>
    let (digits, power) :=
      if mantissa = 0 then (0, 0)
      else shortestFrom mantissa exponent (decimalTop mantissa exponent) 20 1
    (if negative then ['-'] else []) ++ positional digits power

end Binary

end Runbook
