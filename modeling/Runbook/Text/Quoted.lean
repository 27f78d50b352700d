import Runbook.Text.Basic
import Runbook.Text.Lowercase
import Runbook.Text.Quoted.Table

/-!
# Quoted texts

A quoted text stands between double quotes, with a backslash before each double quote and each
backslash in it. Line feeds, carriage returns, tabs and the null character have letters of their
own, and every other character without a printable shape is written as its code point.
-/

namespace Runbook.Text

/-- One character as it is written between double quotes. -/
def escaped (c : Char) : Text :=
  if c = '"' then ['\\', '"']
  else if c = '\\' then ['\\', '\\']
  else if c = '\n' then ['\\', 'n']
  else if c = '\r' then ['\\', 'r']
  else if c = '\t' then ['\\', 't']
  else if c = null then ['\\', '0']
  else if inIntervals escapedIntervals c then
    ['\\', 'u', '\x7b'] ++ Nat.toDigits 16 c.toNat ++ ['\x7d']
  else [c]

/-- The text between double quotes, escaped. Reference: the `Debug` text of a `str`. -/
def quoted (t : Text) : Text := '"' :: (t.flatMap escaped ++ ['"'])

end Runbook.Text
