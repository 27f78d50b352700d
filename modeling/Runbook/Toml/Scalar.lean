import Runbook.Toml.Value

/-!
# Numbers, dates and other plain values

A plain value stands in a document without quotes or brackets. `Value.ofScalar?` reads its whole
text: a truth value, a whole number in one of four bases, a decimal number, or a date or time.
Digits may be grouped by single underscores between them, and a decimal number has no superfluous
zero at its start.

Of a whole number, only the start and the places next to underscores are looked at here. What else
its digits are made of matters to those who want the number: then one with a letter too many has no
value that they could take.
-/

namespace Runbook.Toml

/-! ## Numbers -/

/-- Whether `c` is a digit in base sixteen. -/
def isHexDigit (c : Char) : Bool :=
  c.isDigit || ('a' ≤ c && c ≤ 'f') || ('A' ≤ c && c ≤ 'F')

/-- The digits of a run in which single underscores may stand between digits. -/
def groupedDigits? (isDigit : Char → Bool) : Text → Option Text
  | [] => none
  | [c] => if isDigit c then some [c] else none
  | c :: '_' :: rest =>
    if isDigit c then (groupedDigits? isDigit rest).map (c :: ·) else none
  | c :: rest => if isDigit c then (groupedDigits? isDigit rest).map (c :: ·) else none

/-- The sign of a number. -/
inductive Sign where
  | none
  | plus
  | minus
  deriving Repr, DecidableEq

/-- A number with the sign. -/
def Sign.apply (sign : Sign) (n : Nat) : Int := if sign = .minus then -n else n

/-- The sign of a number, and what follows it. -/
def splitSign : Text → Sign × Text
  | '+' :: rest => (.plus, rest)
  | '-' :: rest => (.minus, rest)
  | text => (.none, text)

/-- The whole number of a sign and digits; it has no value if there are no digits or if something
other than a digit is among them. -/
def wholeNumber (base : Nat) (isDigit : Char → Bool) (sign : Sign) (digits : Text) : Value :=
  if digits.isEmpty || !digits.all isDigit then .badInteger
  else .integer (sign.apply (Text.numeralValueIn base digits))

/-- Whether the pieces of a number after its first underscore have a digit of some base next to
each underscore. -/
def piecesMeet : List Text → Bool
  | [] => true
  | [last] => (last.head?.map isHexDigit).getD false
  | piece :: rest =>
    (piece.head?.map isHexDigit).getD false && (piece.getLast?.map isHexDigit).getD false &&
      piecesMeet rest

/-- Reads a whole number in base ten. Its digits up to the first underscore are digits in that base.
-/
def decimal? (sign : Sign) (text : Text) : Option Value :=
  match Text.pieces '_' text with
  | first :: rest =>
    let starts := !first.isEmpty && first.all Char.isDigit &&
      (first.head? ≠ some '0' || text = "0")
    if starts && piecesMeet rest then
      some (wholeNumber 10 Char.isDigit sign (first ++ rest.flatten))
    else none
  | [] => none

/-- Reads a whole number. -/
def integer? (text : Text) : Option Value :=
  let inBase (base : Nat) (isDigit : Char → Bool) (rest : Text) : Option Value :=
    if rest.isEmpty then some .badInteger
    else (groupedDigits? isDigit rest).map (wholeNumber base isDigit .none)
  match text with
  | '0' :: 'x' :: rest => inBase 16 isHexDigit rest
  | '0' :: 'o' :: rest => inBase 8 (fun c => '0' ≤ c && c ≤ '7') rest
  | '0' :: 'b' :: rest => inBase 2 (fun c => c == '0' || c == '1') rest
  | _ =>
    let (sign, rest) := splitSign text
    decimal? sign rest

/-- Reads the exponent of a decimal number, without its letter. -/
def exponent? (text : Text) : Option Int :=
  let (sign, rest) := splitSign text
  (groupedDigits? Char.isDigit rest).map fun digits => sign.apply (Text.numeralValue digits)

/-- Whether `c` introduces an exponent. -/
def isExponentMark (c : Char) : Bool := c == 'e' || c == 'E'

/-- Whether a number has a fraction or an exponent. -/
def isFractional (text : Text) : Bool := text.any fun c => c == '.' || isExponentMark c

/-- The digits before the point of a decimal number, with no superfluous zero at their start. -/
def wholeDigits? (text : Text) : Option Text :=
  match groupedDigits? Char.isDigit text with
  | some ('0' :: _ :: _) => none
  | digits => digits

/-- Reads a number with a fraction, an exponent or both. -/
def fractional? (text : Text) : Option Value := do
  let (sign, rest) := splitSign text
  let number := rest.takeWhile (!isExponentMark ·)
  let exponent ← match rest.dropWhile (!isExponentMark ·) with
    | [] => some 0
    | _ :: digits => exponent? digits
  let whole ← wholeDigits? (number.takeWhile (· ≠ '.'))
  let fraction ← match number.dropWhile (· ≠ '.') with
    | [] => some []
    | _ :: digits => groupedDigits? Char.isDigit digits
  let digits := Text.numeralValue (whole ++ fraction)
  match Binary.ofDecimal (sign = .minus) digits (exponent - fraction.length) with
  | .infinite _ => some .hugeFloat
  | value => some (.float value)

/-- Reads a number: one of the special ones, one with a fraction or an exponent, or a whole one. -/
def number? (text : Text) : Option Value :=
  let (sign, rest) := splitSign text
  let inBase := sign = .none && rest.head? = some '0' &&
    ((rest[1]?).map fun c => c == 'x' || c == 'o' || c == 'b').getD false
  if rest = "inf" then some (.float (.infinite (sign = .minus)))
  else if rest = "nan" then some (.float .notANumber)
  else if isFractional rest && !inBase then fractional? text
  else integer? text

/-! ## Dates and times -/

/-- Takes exactly `n` digits, and gives their value and what follows. -/
def fixedDigits? (n : Nat) (text : Text) : Option (Nat × Text) :=
  let digits := text.take n
  if digits.length = n && digits.all Char.isDigit then
    some (Text.numeralValue digits, text.drop n)
  else none

/-- Takes the character `c`. -/
def expect? (c : Char) : Text → Option Text
  | d :: rest => if d = c then some rest else none
  | [] => none

/-- How many days a month has. -/
def daysOfMonth (year month : Nat) : Nat :=
  if month = 2 then
    if year % 4 = 0 && (year % 100 ≠ 0 || year % 400 = 0) then 29 else 28
  else if month = 4 || month = 6 || month = 9 || month = 11 then 30
  else 31

/-- Takes a date, and gives what follows. -/
def date? (text : Text) : Option Text := do
  let (year, rest) ← fixedDigits? 4 text
  let (month, rest) ← fixedDigits? 2 (← expect? '-' rest)
  let (day, rest) ← fixedDigits? 2 (← expect? '-' rest)
  if 1 ≤ month && month ≤ 12 && 1 ≤ day && day ≤ daysOfMonth year month then some rest else none

/-- Takes a time of day, in which seconds and their fraction are optional, and gives what follows.
-/
def time? (text : Text) : Option Text := do
  let (hour, rest) ← fixedDigits? 2 text
  let (minute, rest) ← fixedDigits? 2 (← expect? ':' rest)
  if hour > 23 || minute > 59 then none
  match rest with
  | ':' :: rest =>
    let (second, rest) ← fixedDigits? 2 rest
    if second > 60 then none
    match rest with
    | '.' :: rest =>
      let places := rest.takeWhile Char.isDigit
      if places.isEmpty then none else some (rest.drop places.length)
    | rest => some rest
  | rest => some rest

/-- Whether a text is the offset of a time, or nothing. -/
def isOffset (text : Text) : Bool :=
  match text with
  | [] | ['Z'] | ['z'] => true
  | sign :: rest =>
    (sign == '+' || sign == '-') &&
      match (do
        let (hours, rest) ← fixedDigits? 2 rest
        let (minutes, rest) ← fixedDigits? 2 (← expect? ':' rest)
        some (hours ≤ 23 && minutes ≤ 59 && rest.isEmpty)) with
      | some valid => valid
      | none => false

/-- Whether a text is a time of day, a date, or both with or without an offset. -/
def isDatetime (text : Text) : Bool :=
  match date? text with
  | some [] => true
  | some (mark :: rest) =>
    (mark == 'T' || mark == 't' || mark == ' ') && ((time? rest).map isOffset).getD false
  | none => time? text == some []

/-! ## All plain values -/

/-- Reads a plain value from the whole of its text. -/
def Value.ofScalar? (text : Text) : Option Value :=
  if text = "true" then some (.boolean true)
  else if text = "false" then some (.boolean false)
  else if isDatetime text then some .datetime
  else number? text

/-- Whether `c` may stand in a plain value: a plain value goes on up to a space, a line end or a
character that structures the document. -/
def isScalarChar (c : Char) : Bool := !(" \t\r\n=,[]\x7b\x7d#" : Text).elem c

/-- Takes a plain value. One space may join a date to a time. -/
def scalar? (text : Text) : Option (Value × Text) :=
  let word := text.takeWhile isScalarChar
  let rest := text.dropWhile isScalarChar
  let joined : Option (Value × Text) :=
    match date? word, rest with
    | some [], ' ' :: d :: more =>
      if d.isDigit then
        let time := (d :: more).takeWhile isScalarChar
        some (.datetime, (d :: more).drop time.length)
          |>.filter fun _ => isDatetime (word ++ ' ' :: time)
      else (Value.ofScalar? word).map (·, rest)
    | _, _ => (Value.ofScalar? word).map (·, rest)
  joined

end Runbook.Toml
