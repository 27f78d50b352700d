import Runbook.Text.Basic

/-!
# Machine words

Counts and amounts are 64-bit words, in a program that is built with overflow checks: an operation
whose exact result does not fit in a word stops it with an `Overflow`. Built without these checks,
as a program is for release, it would go on with the result modulo `wordSize` instead, and nothing
here is about that. A computation that may also refuse its input is `Checked`: it ends with a value,
with a refusal that has a reason, or with an overflow.
-/

namespace Runbook

/-- The number of values that a machine word can take. -/
def wordSize : Nat := UInt64.size

/-- The first number that is too large for a word with a sign. -/
def signedLimit : Nat := 9223372036854775808

/-- The first number that is too large for two words with a common sign. -/
def doubleLimit : Nat := signedLimit * wordSize

/-- An operation on machine words whose result left their range. -/
inductive Overflow where
  | add
  | multiply
  deriving Repr, DecidableEq

/-- What the program says when it stops on an overflow. -/
def Overflow.message : Overflow → Text
  | .add => "attempt to add with overflow"
  | .multiply => "attempt to multiply with overflow"

/-- Why a computation has no value: its input was refused, or it left the range of a word. -/
inductive Fault (ε : Type) where
  | refused (reason : ε)
  | overflow (operation : Overflow)
  deriving Repr, DecidableEq

/-- The same fault, `f` applied to the reason of a refusal. -/
def Fault.map {ε ε' : Type} (f : ε → ε') : Fault ε → Fault ε'
  | .refused reason => .refused (f reason)
  | .overflow operation => .overflow operation

/-- A computation that may refuse its input or overflow. -/
abbrev Checked (ε α : Type) := Except (Fault ε) α

/-- The computation that refuses its input for `reason`. -/
def refuse {ε α : Type} (reason : ε) : Checked ε α := .error (.refused reason)

/-- The same computation, `f` applied to the reason of a refusal. -/
def Checked.mapReason {ε ε' α : Type} (f : ε → ε') (c : Checked ε α) : Checked ε' α :=
  c.mapError (·.map f)

/-- The product of two numbers, if it fits in a word. Without overflow checks it would be taken
modulo `wordSize`. -/
def multiplyWord (a b : Nat) : Except Overflow Nat :=
  if a * b < wordSize then .ok (a * b) else .error .multiply

/-- The sum of two numbers, if it fits in a word. Without overflow checks it would be taken modulo
`wordSize`. -/
def addWord (a b : Nat) : Except Overflow Nat :=
  if a + b < wordSize then .ok (a + b) else .error .add

end Runbook
