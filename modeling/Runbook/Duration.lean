import Runbook.Text.Lowercase
import Runbook.Text.Numeral
import Runbook.Word

/-!
# Durations

A duration is a whole number of nanoseconds. `Duration.parse` reads a number and one unit, such as
`30s` or `2 H`; blank characters may stand around the whole and before the unit, and the unit is
read in any letter case. Minutes and hours are turned into seconds in a machine word, which is the
one place where a well-formed duration can overflow.

`Duration.describe` writes a duration in the largest unit that leaves a whole part, with the exact
fraction and no trailing zeros.
-/

namespace Runbook

/-- A span of time. Reference: `std::time::Duration`. -/
structure Duration where
  nanoseconds : Nat
  deriving Repr, DecidableEq

namespace Duration

/-- The duration of `n` whole seconds. -/
def ofSeconds (n : Nat) : Duration := ⟨n * 1000000000⟩

/-- The duration of `n` whole milliseconds. -/
def ofMilliseconds (n : Nat) : Duration := ⟨n * 1000000⟩

/-- The whole seconds of a duration. -/
def seconds (d : Duration) : Nat := d.nanoseconds / 1000000000

/-- The nanoseconds beyond the whole seconds. -/
def subsecond (d : Duration) : Nat := d.nanoseconds % 1000000000

/-! ## Writing -/

/-- A fraction of `digits` decimal places, with its point but without trailing zeros; nothing if it
is zero. -/
def fraction (digits value : Nat) : Text :=
  if value = 0 then []
  else '.' :: ((Text.padded digits value).reverse.dropWhile (· == '0')).reverse

/-- `n` counted in a unit of `10 ^ digits` parts. -/
def inUnit (digits n : Nat) (unit : Text) : Text :=
  Text.ofNat (n / Nat.pow 10 digits) ++ fraction digits (n % Nat.pow 10 digits) ++ unit

/-- A duration in words: in seconds, milliseconds, microseconds or nanoseconds, whichever is the
largest that leaves a whole part. Reference: the `Debug` text of a `Duration`. -/
def describe (d : Duration) : Text :=
  let n := d.nanoseconds
  if n ≥ 1000000000 then inUnit 9 n "s"
  else if n ≥ 1000000 then inUnit 6 n "ms"
  else if n ≥ 1000 then inUnit 3 n "µs"
  else inUnit 0 n "ns"

/-! ## Reading -/

/-- Why a text is not a duration. -/
inductive ParseError where
  | empty
  | missingUnit (text : Text)
  | missingNumber
  | numberTooLarge (digits : Text)
  | unknownUnit (unit : Text)
  deriving Repr, DecidableEq

/-- The reason in words. Reference: the errors of `parse_duration`. -/
def ParseError.message : ParseError → Text
  | .empty => "empty duration string"
  | .missingUnit text => "duration '" ++ text ++ "' is missing a unit suffix"
  | .missingNumber => "invalid duration number '': cannot parse integer from empty string"
  | .numberTooLarge digits =>
    "invalid duration number '" ++ digits ++ "': number too large to fit in target type"
  | .unknownUnit unit => "unsupported duration unit '" ++ unit ++ "'; expected ms, s, m, or h"

/-- A unit that a duration may be given in. -/
inductive TimeUnit where
  | millisecond
  | second
  | minute
  | hour
  deriving Repr, DecidableEq

/-- The unit with the given lower-case name. Reference: the last match of `parse_duration`. -/
def TimeUnit.ofName? (name : Text) : Option TimeUnit :=
  if name = "ms" then some .millisecond
  else if name = "s" then some .second
  else if name = "m" then some .minute
  else if name = "h" then some .hour
  else none

/-- The duration of `n` units. Hours are multiplied out through minutes. Reference: the last match
of `parse_duration`. -/
def TimeUnit.times (n : Nat) : TimeUnit → Except Overflow Duration
  | .millisecond => .ok (ofMilliseconds n)
  | .second => .ok (ofSeconds n)
  | .minute => return ofSeconds (← multiplyWord n 60)
  | .hour => return ofSeconds (← multiplyWord (← multiplyWord n 60) 60)

/-- Reads a duration such as `500ms`, `30s`, `10m` or `2h`. Reference: `parse_duration`. -/
def parse (text : Text) : Checked ParseError Duration :=
  let text := Text.trim text
  let digits := text.takeWhile Char.isDigit
  let rest := text.dropWhile Char.isDigit
  let unit := Text.lower (Text.trim rest)
  if text.isEmpty then refuse .empty
  else if rest.isEmpty then refuse (.missingUnit text)
  else if digits.isEmpty then refuse .missingNumber
  else if Text.numeralValue digits ≥ wordSize then refuse (.numberTooLarge digits)
  else match TimeUnit.ofName? unit with
    | none => refuse (.unknownUnit unit)
    | some u => (u.times (Text.numeralValue digits)).mapError .overflow

end Duration

end Runbook
