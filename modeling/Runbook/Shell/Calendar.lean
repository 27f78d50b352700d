import Runbook.Text.Numeral

/-!
# Dates

A moment is a number of seconds since the start of 1970, by a clock without a time zone. A `Date` is
the same moment by the calendar; `Date.ofSeconds` and `Date.seconds` lead there and back.
-/

namespace Runbook.Shell

/-- A moment by the calendar. -/
structure Date where
  year : Int
  /-- The month, from 1 on. -/
  month : Nat
  /-- The day of the month, from 1 on. -/
  day : Nat
  hour : Nat
  minute : Nat
  second : Nat

namespace Date

/-- How many days of a year that begins with March are before a month. -/
def daysBefore (month : Nat) : Nat := (153 * ((month + 9) % 12) + 2) / 5

/-- How many days after the start of 1970 a date is. -/
def days (year : Int) (month day : Nat) : Int :=
  let year := if month ≤ 2 then year - 1 else year
  year * 365 + year.fdiv 4 - year.fdiv 100 + year.fdiv 400 + daysBefore month + day - 1 - 719468

/-- How many seconds after the start of 1970 a date is. -/
def seconds (date : Date) : Int :=
  days date.year date.month date.day * 86400 + date.hour * 3600 + date.minute * 60 + date.second

/-- The year, the month and the day that is so many days after the start of 1970. -/
def ofDays (days : Int) : Int × Nat × Nat :=
  let days := days + 719468
  let era := days.fdiv 146097
  let day := (days - era * 146097).toNat
  let year := (day - day / 1460 + day / 36524 - day / 146096) / 365
  let rest := day - (365 * year + year / 4 - year / 100)
  let month := (5 * rest + 2) / 153
  let number := if month < 10 then month + 3 else month - 9
  let year : Int := era * 400 + year
  (if number ≤ 2 then year + 1 else year, number, rest - (153 * month + 2) / 5 + 1)

/-- The date of a moment. -/
def ofSeconds (seconds : Int) : Date :=
  let (year, month, day) := ofDays (seconds.fdiv 86400)
  let rest := (seconds.fmod 86400).toNat
  ⟨year, month, day, rest / 3600, rest / 60 % 60, rest % 60⟩

/-- The length of a month. -/
def monthLength (year : Int) (month : Nat) : Nat :=
  if month = 2 then (if year % 4 = 0 && (year % 100 ≠ 0 || year % 400 = 0) then 29 else 28)
  else if month = 4 || month = 6 || month = 9 || month = 11 then 30 else 31

/-- A date if there is one with these numbers. -/
def check? (date : Date) : Option Date :=
  if 1 ≤ date.month && date.month ≤ 12 && 1 ≤ date.day &&
      date.day ≤ monthLength date.year date.month && date.hour < 24 && date.minute < 60 &&
      date.second ≤ 60 then
    some date
  else none

/-- A date written as digits: a year, which may be left out or shortened to two digits, and two
digits each for the month, the day, the hour and the minute; seconds may follow after a point. -/
def ofStamp? (thisYear : Int) (text : Text) : Option Date :=
  let digits := text.takeWhile Char.isDigit
  let number (start count : Nat) : Nat := Text.numeralValue ((digits.drop start).take count)
  let second := match text.drop digits.length with
    | [] => some 0
    | ['.', a, b] => if a.isDigit && b.isDigit then some (Text.numeralValue [a, b]) else none
    | _ => none
  let start := digits.length - 8
  let year : Option Int := match start with
    | 0 => if digits.length = 8 then some thisYear else none
    | 2 => some (if number 0 2 < 69 then 2000 + number 0 2 else 1900 + number 0 2 : Nat)
    | 4 => some (number 0 4 : Nat)
    | _ => none
  match year, second with
  | some year, some second =>
    check? ⟨year, number start 2, number (start + 2) 2, number (start + 4) 2, number (start + 6) 2,
      second⟩
  | _, _ => none

/-- Numbers between which a separator stands. -/
def numbers? (separator : Char) (text : Text) : Option (List Nat) :=
  (Text.pieces separator text).mapM fun part =>
    if part.isEmpty || !part.all Char.isDigit then none else some (Text.numeralValue part)

/-- A time of day. -/
def timeOfDay? (text : Text) : Option (Nat × Nat × Nat) := match numbers? ':' text with
  | some [hour, minute] => some (hour, minute, 0)
  | some [hour, minute, second] => some (hour, minute, second)
  | _ => none

/-- The moment that a text means, given what time it is. -/
def moment? (now : Int) (text : Text) : Option Int :=
  let text := text.map fun c => if c = 'T' then ' ' else c
  let isWord (word : Text) : Bool := !word.isEmpty && word ≠ "UTC" && word ≠ "Z"
  match (Text.pieces ' ' text).filter isWord with
  | [] => some (now - now.fmod 86400)
  | [word] => single word
  | [day, time] => do
    let midnight ← single day
    let (hour, minute, second) ←
      timeOfDay? (if time.getLast? = some 'Z' then time.dropLast else time)
    let date ← check? { ofSeconds midnight with hour, minute, second }
    return date.seconds
  | _ => none
where
  /-- The moment that a single word means. -/
  single (word : Text) : Option Int :=
    match word with
    | '@' :: '-' :: digits =>
      if digits.isEmpty || !digits.all Char.isDigit then none
      else some (-(Text.numeralValue digits))
    | '@' :: digits =>
      if digits.isEmpty || !digits.all Char.isDigit then none else some (Text.numeralValue digits)
    | word =>
      if word = "now" || word = "today" then some now
      else if word = "yesterday" then some (now - 86400)
      else if word = "tomorrow" then some (now + 86400)
      else match timeOfDay? word with
        | some (hour, minute, second) =>
          (check? { ofSeconds now with hour, minute, second }).map seconds
        | none => match numbers? '-' word with
          | some [year, month, day] => (check? ⟨year, month, day, 0, 0, 0⟩).map seconds
          | _ => if word.length = 8 && word.all Char.isDigit then
              (check? ⟨Text.numeralValue (word.take 4), Text.numeralValue ((word.drop 4).take 2),
                Text.numeralValue (word.drop 6), 0, 0, 0⟩).map seconds
            else none

end Date

end Runbook.Shell
