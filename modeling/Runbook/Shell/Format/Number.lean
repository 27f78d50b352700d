import Runbook.Decimal.Binary
import Runbook.Shell.Bytes

/-!
# Numbers in formatted output

`readInteger` reads the argument of a conversion of whole numbers and `readReal` that of one of
fractions; both say what is wrong with it. Fractions are binary floating-point numbers, and each of
them is written from its exact value: `Fraction.write` with a fixed number of places,
`Fraction.writeScaled` with a power of ten, `Fraction.writeShort` in the shorter of these ways, and
`writeBinary` in base sixteen with a power of two.
-/

namespace Runbook.Shell.Format

/-! ## Reading -/

/-- What is wrong with the text of a number, given what is left behind the number. -/
def complaintAbout (text rest : Text) (isNumber inRange : Bool) : Option Text :=
  if !isNumber then
    if text.isEmpty then none else some (text ++ ": expected numeric value")
  else if !rest.isEmpty then some (text ++ ": not completely converted")
  else if !inRange then some (text ++ ": Numerical result out of range")
  else none

/-- A text without the spaces before it and without its sign, and whether that is a minus. -/
def splitSign (text : Text) : Bool × Text :=
  match trimStart text with
  | '-' :: rest => (true, rest)
  | '+' :: rest => (false, rest)
  | rest => (false, rest)

/-- Whether a character is a digit of a base up to sixteen. -/
def isDigitIn (base : Nat) (c : Char) : Bool :=
  (c.isDigit || 'a' ≤ c && c ≤ 'f' || 'A' ≤ c && c ≤ 'F') && Text.digitValue c < base

/-- The digits at the start of a text, in the base that the first of them tell, that base, and what
follows them. -/
def takeDigits (text : Text) : Nat × Text × Text :=
  let after (base : Nat) (digits : Text) : Nat × Text × Text :=
    (base, digits.takeWhile (isDigitIn base), digits.dropWhile (isDigitIn base))
  let marked (base : Nat) (digits : Text) : Nat × Text × Text :=
    if (digits.head?.map (isDigitIn base)).getD false then after base digits else after 8 text
  match text with
  | '0' :: c :: rest =>
    if c = 'x' || c = 'X' then marked 16 rest
    else if c = 'b' || c = 'B' then marked 2 rest
    else after 8 text
  | text => after (if text.head? = some '0' then 8 else 10) text

/-- The code of the character that stands behind a quote, if a text starts with one. -/
def quotedCode? : Text → Option Nat
  | '\'' :: rest | '"' :: rest => some ((rest.head?.map Char.toNat).getD 0)
  | _ => none

/-- Reads a whole number; one that does not fit is cut down to the bounds of its type. The bounds of
a number without a sign are those of the magnitude, and a minus turns it round. -/
def readInteger (hasSign : Bool) (text : Text) : Int × Option Text :=
  match quotedCode? text with
  | some code => (code, none)
  | none =>
    let (negative, start) := splitSign text
    let (base, digits, rest) := takeDigits start
    let magnitude := Text.numeralValueIn base digits
    let most := if hasSign then (UInt64.size / 2 - if negative then 0 else 1) else UInt64.size - 1
    let inRange : Bool := magnitude ≤ most
    let value : Int := if negative && (hasSign || inRange) then -(min magnitude most : Nat)
      else (min magnitude most : Nat)
    (value, complaintAbout text rest (!digits.isEmpty) inRange)

/-- A decimal fraction: its digits as a number, and how many of them stand after the point. -/
structure Fraction where
  negative : Bool
  digits : Nat
  places : Nat

/-- The exponent at the start of a text behind a mark, if there is one, and what comes after it. -/
def readExponent (mark : Char) (text : Text) : Int × Text :=
  match text with
  | c :: rest =>
    let (negative, digits) := match rest with
      | '-' :: digits => (true, digits)
      | '+' :: digits => (false, digits)
      | digits => (false, digits)
    let found := digits.takeWhile Char.isDigit
    if c.toLower = mark && !found.isEmpty then
      let n : Int := Text.numeralValue found
      (if negative then -n else n, digits.drop found.length)
    else (0, text)
  | [] => (0, [])

/-- The digits of a number in a base before and behind its point, and what follows them. -/
def takePoint (base : Nat) (text : Text) : Text × Text × Text :=
  let whole := text.takeWhile (isDigitIn base)
  match text.drop whole.length with
  | '.' :: rest =>
    let part := rest.takeWhile (isDigitIn base)
    if (whole ++ part).isEmpty then ([], [], text) else (whole, part, rest.drop part.length)
  | rest => (whole, [], rest)

/-- Reads a decimal fraction, and gives what follows it. There is none if there are no digits. -/
def readDecimal (text : Text) : Option (Fraction × Text) :=
  let (negative, start) := splitSign text
  let (whole, part, rest) := takePoint 10 start
  if (whole ++ part).isEmpty then none
  else
    let (exponent, rest) := readExponent 'e' rest
    let exponent := max (-400) (min exponent 400)
    let digits := Text.numeralValue (whole ++ part)
    some (⟨negative, digits * Nat.pow 10 exponent.toNat, part.length + (-exponent).toNat⟩, rest)

/-- Whether a text starts with a word, in whatever case. -/
def startsWith (word text : Text) : Bool := word.isPrefixOf (text.map Char.toLower)

/-- The floating-point number nearest to some digits in base sixteen, of which `places` are behind
the point, times a power of two. -/
def nearestBinary (negative : Bool) (digits places : Nat) (exponent : Int) : Binary :=
  let exponent := exponent - 4 * places
  if digits = 0 then .finite negative 0 Binary.leastExponent
  else if (digits.log2 : Int) + exponent < -1100 then .finite negative 0 Binary.leastExponent
  else if (digits.log2 : Int) + exponent > 1100 then .infinite negative
  else
    let (num, den) := Binary.scaleTwo digits 1 exponent
    Binary.ofFraction negative num den

/-- Whether a number whose digits are not all zero has got out of range. -/
def isOutOfRange : Binary → Bool
  | .finite _ mantissa _ => mantissa < Binary.leastMantissa
  | .infinite _ => true
  | .notANumber => false

/-- Reads a floating-point number: its name if it is no finite one, or its digits. -/
def readReal (text : Text) : Binary × Option Text :=
  match quotedCode? text with
  | some code => (.ofDecimal false code 0, none)
  | none =>
    let (negative, start) := splitSign text
    let zero : Binary := .finite negative 0 Binary.leastExponent
    let named (value : Binary) (length : Nat) : Binary × Option Text :=
      (value, complaintAbout text (start.drop length) true true)
    if startsWith "infinity" start then named (.infinite negative) 8
    else if startsWith "inf" start then named (.infinite negative) 3
    else if startsWith "nan" start then
      match start.drop 3 with
      | '(' :: rest =>
        let inside := rest.takeWhile fun c => c.isAlphanum || c == '_'
        let isClosed := (rest.drop inside.length).head? = some ')'
        named .notANumber (if isClosed then inside.length + 5 else 3)
      | _ => named .notANumber 3
    else
      let isHex : Bool := startsWith "0x" start
      let (base, body) := if isHex then (16, start.drop 2) else (10, start)
      let (whole, part, rest) := takePoint base body
      let digits := Text.numeralValueIn base (whole ++ part)
      if (whole ++ part).isEmpty then
        if isHex then (zero, complaintAbout text (start.drop 1) true true)
        else (.finite false 0 Binary.leastExponent, complaintAbout text start false true)
      else
        let (exponent, rest) := readExponent (if isHex then 'p' else 'e') rest
        let value := if isHex then nearestBinary negative digits part.length exponent
          else .ofDecimal negative digits (exponent - part.length)
        (value, complaintAbout text rest true (digits = 0 || !isOutOfRange value))

/-! ## Writing -/

/-- The quotient rounded to the nearest whole number; a half goes to the even neighbour. -/
def nearest (num den : Nat) : Nat := Binary.divideEven num den

/-- A number of units of the last of the given decimal places, as a text; `always` wants a point
even if there are no places. -/
def withPoint (always : Bool) (units places : Nat) : Text :=
  let whole := Text.ofNat (units / Nat.pow 10 places)
  if places = 0 then (if always then whole ++ ['.'] else whole)
  else whole ++ '.' :: Text.padded places (units % Nat.pow 10 places)

/-- The exact value of a floating-point number. -/
def Fraction.ofBinary (negative : Bool) (mantissa : Nat) (exponent : Int) : Fraction :=
  if exponent ≥ 0 then ⟨negative, mantissa * Nat.pow 2 exponent.toNat, 0⟩
  else ⟨negative, mantissa * Nat.pow 5 (-exponent).toNat, (-exponent).toNat⟩

/-- A fraction with the given number of decimal places. -/
def Fraction.write (fraction : Fraction) (always : Bool) (places : Nat) : Text :=
  let units := nearest (fraction.digits * Nat.pow 10 places) (Nat.pow 10 fraction.places)
  withPoint always units places

/-- The first digits of a fraction, one more of them than `places`, as a number, and the exponent of
the first. -/
def Fraction.leading (fraction : Fraction) (places : Nat) : Nat × Int :=
  if fraction.digits = 0 then (0, 0)
  else
    let length := (Text.ofNat fraction.digits).length
    let digits := nearest (fraction.digits * Nat.pow 10 (places + 1)) (Nat.pow 10 length)
    let exponent : Int := (length : Int) - 1 - fraction.places
    if digits = Nat.pow 10 (places + 1) then (digits / 10, exponent + 1) else (digits, exponent)

/-- A fraction with one digit before the point and a power of ten behind it. -/
def Fraction.writeScaled (fraction : Fraction) (always : Bool) (places : Nat) : Text :=
  let (digits, exponent) := fraction.leading places
  withPoint always digits places ++ 'e' :: (if exponent < 0 then '-' else '+') ::
    Text.padded 2 exponent.natAbs

/-- A decimal without the zeros at the end of its places. -/
def trimZeros (text : Text) : Text :=
  let mantissa := text.takeWhile (· ≠ 'e')
  let trimmed := (mantissa.reverse.dropWhile (· == '0')).reverse
  let trimmed := if trimmed.getLast? = some '.' then trimmed.dropLast else trimmed
  if mantissa.elem '.' then trimmed ++ text.drop mantissa.length else text

/-- A fraction with the given number of digits, in the shorter of the two ways to write it. -/
def Fraction.writeShort (fraction : Fraction) (always : Bool) (digits : Nat) : Text :=
  let places := digits - 1
  let exponent := (fraction.leading places).2
  let text := if exponent < -4 || places < exponent then fraction.writeScaled always places
    else fraction.write always (places - exponent).toNat
  if always then text else trimZeros text

/-- How many digits in base sixteen there are behind the point of a floating-point number. -/
def binaryPlaces : Nat := 13

/-- A floating-point number in base sixteen, without the mark for that, with one digit before the
point and a power of two behind the others, of which there are as many as are given or needed. -/
def writeBinary (mantissa : Nat) (exponent : Int) (always : Bool) (places : Option Nat) : Text :=
  let kept := min (places.getD binaryPlaces) binaryPlaces
  let units := nearest mantissa (Nat.pow 16 (binaryPlaces - kept))
  let digits := Nat.toDigits 16 (units % Nat.pow 16 kept)
  let digits := if kept = 0 then [] else List.replicate (kept - digits.length) '0' ++ digits
  let digits := match places with
    | none => (digits.reverse.dropWhile (· == '0')).reverse
    | some n => digits ++ List.replicate (n - kept) '0'
  let power : Int := if mantissa = 0 then 0
    else if mantissa < Binary.leastMantissa then Binary.leastExponent + 52 else exponent + 52
  Text.ofNat (units / Nat.pow 16 kept) ++
    (if digits.isEmpty && !always then [] else '.' :: digits) ++
    'p' :: (if power < 0 then '-' else '+') :: Text.ofNat power.natAbs

end Runbook.Shell.Format
