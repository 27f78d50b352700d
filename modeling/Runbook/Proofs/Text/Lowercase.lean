import Runbook.Text.Lowercase

/-!
# Lower case within ASCII

Lower case is defined for all of Unicode, but where it comes out as plain letters it was plain
letters before: of the characters outside ASCII only the sign for kelvin has its partner there, the
letter `k`. So a text without that letter is the lower case of the texts that differ from it in the
case of ASCII letters, and of no others (`Text.lower_eq_iff`).
-/

namespace Runbook.Text

/-- The character is one of ASCII. -/
def IsAscii (c : Char) : Prop := c.toNat < 128

instance (c : Char) : Decidable (IsAscii c) := inferInstanceAs (Decidable (_ < _))

/-- A run of the table starts within ASCII, or leads to characters that are not part of it, or has
the sign for kelvin only. -/
theorem lowercaseRuns_cases : ∀ run ∈ lowercaseRuns,
    run.last < 128 ∨
    (128 ≤ run.first + run.up - run.down ∧
      (run.last + run.up - run.down < 0xD800 ∨
        0xDFFF < run.first + run.up - run.down ∧ run.last + run.up - run.down < 0x110000)) ∨
    (run.first = run.last ∧ run.first + run.up - run.down = 'k'.toNat) := by decide +kernel

/-- What holds of all characters of ASCII, looked at one by one. -/
theorem forall_isAscii {p : Char → Prop} (h : ∀ n < 128, p (Char.ofNat n)) {c : Char}
    (hc : IsAscii c) : p c := by
  have hchar := h c.toNat hc
  rwa [Char.ofNat_toNat] at hchar

/-- Within ASCII the partner of a letter is the one in ASCII. -/
theorem lowerChar_of_isAscii {c : Char} (h : IsAscii c) : lowerChar c = c.toLower :=
  forall_isAscii (p := fun c => lowerChar c = c.toLower) (by decide +kernel) h

/-- Outside ASCII no partner but one is in ASCII. -/
theorem lowerChar_of_not_isAscii {c : Char} (h : ¬ IsAscii c) :
    ¬ IsAscii (lowerChar c) ∨ lowerChar c = 'k' := by
  have hc : 128 ≤ c.toNat := Nat.not_lt.mp h
  unfold lowerChar
  cases hfind : lowercaseRuns.find? (·.covers c.toNat) with
  | none => exact .inl h
  | some run =>
    have hcovers : run.covers c.toNat = true :=
      List.find?_some (p := fun run : CaseRun => run.covers c.toNat) hfind
    simp only [CaseRun.covers, Bool.and_eq_true, decide_eq_true_eq] at hcovers
    obtain ⟨⟨hfirst, hlast⟩, -⟩ := hcovers
    -- The character is too large for a run of ASCII, and only the sign for kelvin leads into it.
    rcases lowercaseRuns_cases run (List.mem_of_find?_eq_some hfind) with
      hascii | ⟨hlow, hvalid⟩ | ⟨hone, hk⟩
    · omega
    · have hchar : (c.toNat + run.up - run.down).isValidChar := by
        unfold Nat.isValidChar
        omega
      have hvalue : (Char.ofNat (c.toNat + run.up - run.down)).toNat =
          c.toNat + run.up - run.down := by
        rw [Char.ofNat, dif_pos hchar]
        rfl
      refine .inl (Nat.not_lt.mpr ?_)
      simp only [hvalue]
      omega
    · have hsame : c.toNat + run.up - run.down = 'k'.toNat := by omega
      simp only [hsame, Char.ofNat_toNat, or_true]

/-- The lower case of an ASCII character is its partner, wherever it stands. -/
theorem lowerAt_of_isAscii {c : Char} (h : IsAscii c) (before after : Text) :
    lowerAt before c after = [c.toLower] := by
  have hdotted : c ≠ '\u0130' := by
    rintro rfl
    exact absurd h (by decide)
  have hsigma : c ≠ '\u03A3' := by
    rintro rfl
    exact absurd h (by decide)
  rw [lowerAt, if_neg hdotted, if_neg hsigma, lowerChar_of_isAscii h]

/-- The lower case of any other character is not in ASCII, or a `k`. -/
theorem lowerAt_of_not_isAscii {c : Char} (h : ¬ IsAscii c) (before after : Text) :
    ∃ d ∈ lowerAt before c after, ¬ IsAscii d ∨ d = 'k' := by
  rw [lowerAt]
  split
  · exact ⟨'\u0307', by simp, .inl (by decide)⟩
  · split
    · split
      · exact ⟨_, List.mem_singleton_self _, .inl (by decide)⟩
      · exact ⟨_, List.mem_singleton_self _, .inl (by decide)⟩
    · exact ⟨_, List.mem_singleton_self _, lowerChar_of_not_isAscii h⟩

/-- The lower case of an ASCII text is that of its characters. -/
theorem lowerFrom_of_isAscii {t : Text} (h : ∀ c ∈ t, IsAscii c) (before : Text) :
    lowerFrom before t = t.map Char.toLower := by
  induction t generalizing before with
  | nil => rfl
  | cons c t ih =>
    obtain ⟨hc, ht⟩ := List.forall_mem_cons.mp h
    rw [lowerFrom, lowerAt_of_isAscii hc, ih ht]
    rfl

/-- A text whose lower case is in ASCII, without a `k`, is in ASCII itself. -/
theorem isAscii_of_lowerFrom {t before : Text}
    (h : ∀ d ∈ lowerFrom before t, IsAscii d ∧ d ≠ 'k') : ∀ c ∈ t, IsAscii c := by
  induction t generalizing before with
  | nil => nofun
  | cons c t ih =>
    rw [lowerFrom] at h
    refine List.forall_mem_cons.mpr ⟨?_, ih fun d hd => h d (List.mem_append_right _ hd)⟩
    refine Decidable.byContradiction fun hc => ?_
    obtain ⟨d, hd, hout⟩ := lowerAt_of_not_isAscii hc before t
    obtain ⟨hascii, hk⟩ := h d (List.mem_append_left _ hd)
    exact hout.elim (absurd hascii) hk

/-- A character whose ASCII partner is in ASCII is so itself. -/
theorem isAscii_of_toLower {c : Char} (h : IsAscii c.toLower) : IsAscii c := by
  unfold Char.toLower at h
  split at h
  · next hupper =>
    have hz : c.toNat ≤ 'Z'.toNat := hupper.2
    exact Nat.lt_of_le_of_lt hz (by decide)
  · exact h

/-- An ASCII text without a `k` is the lower case of the texts that differ from it in the case of
ASCII letters only. -/
theorem lower_eq_iff {t name : Text} (h : ∀ d ∈ name, IsAscii d ∧ d ≠ 'k') :
    lower t = name ↔ t.map Char.toLower = name := by
  constructor
  · rintro rfl
    exact (lowerFrom_of_isAscii (isAscii_of_lowerFrom h) []).symm
  · rintro rfl
    refine lowerFrom_of_isAscii (fun c hc => isAscii_of_toLower ?_) []
    exact (h c.toLower (List.mem_map_of_mem hc)).1

end Runbook.Text
