import Runbook.Text.Basic

/-!
# Decimal numerals

Numbers are written with the ten ASCII digits and no leading zero. `Text.ofNat` writes a number,
`Text.numeralValue` reads a run of digits.
-/

namespace Runbook.Text

/-- The decimal numeral of `n`. -/
def ofNat (n : Nat) : Text := Nat.toDigits 10 n

/-- The decimal numeral of `n`, with a hyphen before it if `n` is negative. -/
def ofInt (n : Int) : Text := if n < 0 then '-' :: ofNat n.natAbs else ofNat n.natAbs

/-- The value of a digit in a base up to sixteen; letters count from ten in either case. -/
def digitValue (c : Char) : Nat :=
  if c.isDigit then c.toNat - '0'.toNat
  else if 'a' ≤ c ∧ c ≤ 'f' then c.toNat - 'a'.toNat + 10
  else if 'A' ≤ c ∧ c ≤ 'F' then c.toNat - 'A'.toNat + 10
  else 0

/-- The number that a run of digits denotes in the given base. -/
def numeralValueIn (base : Nat) (digits : Text) : Nat :=
  digits.foldl (fun value c => value * base + digitValue c) 0

/-- The number that a run of decimal digits denotes. -/
def numeralValue (digits : Text) : Nat := numeralValueIn 10 digits

/-- `n` in decimal, with zeros before it up to `width` digits. -/
def padded (width n : Nat) : Text :=
  let digits := ofNat n
  List.replicate (width - digits.length) '0' ++ digits

end Runbook.Text
