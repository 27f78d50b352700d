import Mathlib.Tactic.SplitIfs
import Runbook.Duration

/-!
# Amounts of units

Only minutes and hours are multiplied out in a word. As long as the product fits, so many of a unit
are a duration of that length (`Duration.TimeUnit.times_of_lt`), and else there is none
(`Duration.TimeUnit.times_of_le`). `Duration.InRange` says of a text that what it holds fits once it
is multiplied out, and `Duration.ofText?` is the duration alone, of a text that need not be there.
-/

namespace Runbook.Duration

/-- How many milliseconds or seconds a unit counts for, in whichever of the two it is stored. -/
def TimeUnit.factor : TimeUnit → Nat
  | .millisecond | .second => 1
  | .minute => 60
  | .hour => 3600

/-- How long a unit is. -/
def TimeUnit.nanoseconds : TimeUnit → Nat
  | .millisecond => 1000000
  | .second => 1000000000
  | .minute => 60 * 1000000000
  | .hour => 3600 * 1000000000

/-- The number that a text starts with. -/
def amount (text : Text) : Nat := Text.numeralValue ((Text.trim text).takeWhile Char.isDigit)

/-- The unit that follows the number. -/
def unit? (text : Text) : Option TimeUnit :=
  TimeUnit.ofName? (Text.lower (Text.trim ((Text.trim text).dropWhile Char.isDigit)))

/-- An amount that fits in a word still does so once its unit is multiplied out. -/
def InRange (text : Text) : Prop :=
  amount text < wordSize → ∀ unit ∈ unit? text, amount text * unit.factor < wordSize

instance (text : Text) : Decidable (InRange text) :=
  inferInstanceAs (Decidable (_ → ∀ unit ∈ unit? text, _))

/-- A product that fits in a word is computed. -/
theorem multiplyWord_of_lt {a b : Nat} (h : a * b < wordSize) : multiplyWord a b = .ok (a * b) :=
  if_pos h

/-- A product that does not fit in a word is not computed. -/
theorem multiplyWord_of_le {a b : Nat} (h : wordSize ≤ a * b) :
    multiplyWord a b = .error .multiply :=
  if_neg (Nat.not_lt.mpr h)

/-- So many units that they multiply out to a word are a duration. -/
theorem TimeUnit.times_of_lt {n : Nat} {unit : TimeUnit} (h : n * unit.factor < wordSize) :
    unit.times n = .ok ⟨n * unit.nanoseconds⟩ := by
  cases unit with
  | millisecond | second => rfl
  | minute =>
    have hminutes : multiplyWord n 60 = .ok (n * 60) := multiplyWord_of_lt h
    rw [times, hminutes, nanoseconds, ← Nat.mul_assoc]
    rfl
  | hour =>
    -- The hours are multiplied out through minutes, which are fewer than the seconds.
    have hall : n * 3600 < wordSize := h
    have hminutes : multiplyWord n 60 = .ok (n * 60) := multiplyWord_of_lt (by omega)
    have hseconds : multiplyWord (n * 60) 60 = .ok (n * 60 * 60) := multiplyWord_of_lt (by omega)
    have hlength : n * (3600 * 1000000000) = n * 60 * 60 * 1000000000 := by omega
    rw [times, hminutes, nanoseconds, hlength]
    change (multiplyWord (n * 60) 60 >>= fun seconds => pure (ofSeconds seconds)) = _
    rw [hseconds]
    rfl

/-- Of a word of units that do not multiply out to a word the product is not computed. -/
theorem TimeUnit.times_of_le {n : Nat} {unit : TimeUnit} (hlt : n < wordSize)
    (h : wordSize ≤ n * unit.factor) : unit.times n = .error .multiply := by
  cases unit with
  | millisecond | second => exact absurd h (by rw [factor, Nat.mul_one]; exact Nat.not_le.mpr hlt)
  | minute =>
    have hminutes : multiplyWord n 60 = .error .multiply := multiplyWord_of_le h
    rw [times, hminutes]
    rfl
  | hour =>
    have hall : wordSize ≤ n * 3600 := h
    by_cases hfits : n * 60 < wordSize
    · have hseconds : multiplyWord (n * 60) 60 = .error .multiply :=
        multiplyWord_of_le (by omega)
      rw [times, multiplyWord_of_lt hfits]
      change (multiplyWord (n * 60) 60 >>= fun seconds => pure (ofSeconds seconds)) = _
      rw [hseconds]
      rfl
    · rw [times, multiplyWord_of_le (Nat.not_lt.mp hfits)]
      rfl

/-- The duration that a text holds, if there is a text. -/
def ofText? (text : Option Text) : Option Duration := text.bind fun text => (parse text).toOption

/-- A text holds the duration that it is read as. -/
theorem ofText?_eq_some_iff {text : Option Text} {duration : Duration} :
    ofText? text = some duration ↔ ∃ t, text = some t ∧ parse t = .ok duration := by
  rw [ofText?, Option.bind_eq_some_iff]
  refine exists_congr fun t => and_congr_right fun _ => ?_
  cases parse t with
  | ok found => simp [Except.toOption]
  | error fault => simp [Except.toOption]

end Runbook.Duration
