import Runbook.Proofs.Text
import Runbook.Text.Numeral

/-!
# Numbers in texts

A number is written in digits, and these are read as the number again (`Text.numeralValue_ofNat`),
with or without zeros before them. So different numbers are written differently, also in front of a
text that does not start with a digit (`Text.ofNat_append_inj`).
-/

namespace Runbook.Text

/-- A number is written in digits. -/
theorem isDigit_of_mem_ofNat {n : Nat} {c : Char} (h : c ∈ ofNat n) : c.isDigit = true :=
  Nat.isDigit_of_mem_toDigits (by decide) (by decide) h

/-- There is no line feed in a number. -/
theorem newline_notMem_ofNat (n : Nat) : '\n' ∉ ofNat n :=
  fun h => absurd (isDigit_of_mem_ofNat h) (by decide)

/-- A number is written with one digit at least. -/
theorem ofNat_ne_nil (n : Nat) : ofNat n ≠ [] := Nat.toDigits_ne_nil

/-! ## Reading what is written -/

/-- Reading digits is reading them in the base ten of the library. -/
theorem numeralValue_eq_ofDigitChars {digits : Text} (h : ∀ c ∈ digits, c.isDigit = true) :
    numeralValue digits = Nat.ofDigitChars 10 digits 0 := by
  refine List.foldl_ext _ _ _ fun value c hc => ?_
  rw [digitValue, if_pos (h c hc), Nat.mul_comm]

/-- The number that is written is read. -/
@[simp] theorem numeralValue_ofNat (n : Nat) : numeralValue (ofNat n) = n := by
  rw [numeralValue_eq_ofDigitChars fun c hc => isDigit_of_mem_ofNat hc]
  exact Nat.ofDigitChars_ten_toDigits

/-- Different numbers are written differently. -/
theorem ofNat_injective : Function.Injective ofNat :=
  Function.LeftInverse.injective numeralValue_ofNat

/-- A number is told from what follows it, if that does not start with a digit. -/
theorem ofNat_append_inj {n n' : Nat} {word rest rest' : Text}
    (hword : word.head?.map Char.isDigit = some false)
    (h : ofNat n ++ (word ++ rest) = ofNat n' ++ (word ++ rest')) :
    n = n' ∧ rest = rest' := by
  have hhead : ∀ rest : Text, ∀ c ∈ (word ++ rest).head?, c.isDigit = false := by
    intro rest c hc
    obtain ⟨d, hd, hdigit⟩ := Option.map_eq_some_iff.mp hword
    rw [List.head?_append, hd, Option.some_or] at hc
    rwa [← Option.some.inj hc]
  obtain ⟨hnumber, hrest⟩ := append_inj_of_span (fun c hc => isDigit_of_mem_ofNat hc)
    (hhead rest) (fun c hc => isDigit_of_mem_ofNat hc) (hhead rest') h
  exact ⟨ofNat_injective hnumber, List.append_cancel_left hrest⟩

/-! ## Padded numbers -/

/-- Zeros before a number do not count. -/
theorem numeralValue_zeros (k : Nat) (digits : Text) :
    numeralValue (List.replicate k '0' ++ digits) = numeralValue digits := by
  induction k with
  | zero => rfl
  | succ k ih => exact ih

/-- A padded number is read as the number. -/
theorem numeralValue_padded (width n : Nat) : numeralValue (padded width n) = n := by
  rw [padded, numeralValue_zeros, numeralValue_ofNat]

/-- A number is padded to just the width that is asked for if it is not too large for it. -/
theorem length_padded {width n : Nat} (hpos : 0 < width) (h : n < Nat.pow 10 width) :
    (padded width n).length = width := by
  have hlength : (ofNat n).length ≤ width := (Nat.length_toDigits_le_iff (by decide) hpos).mpr h
  rw [padded, List.length_append, List.length_replicate]
  omega

end Runbook.Text
