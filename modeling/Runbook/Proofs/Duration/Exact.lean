import Runbook.Proofs.Duration.Written

/-!
# What a written duration lasts

A written amount of a unit lasts exactly as long as it says (`Duration.Lasts`). Minutes and hours
are turned into seconds in a machine word on the way, and an amount of them whose seconds do not fit
(`Duration.Overflows`) stops the program: it is neither refused nor taken for a shorter one. No
other text does, so a text whose products fit is read or refused (`Duration.parse_ne_overflow`).
-/

namespace Runbook.Duration

/-- The text is an amount of a unit that can be multiplied out, and `duration` is as long as that.
-/
def Lasts (text : Text) (duration : Duration) : Prop :=
  ∃ amount unit, Written text amount unit ∧ amount * unit.factor < wordSize ∧
    duration.nanoseconds = amount * unit.nanoseconds

/-- The text is an amount of a unit whose number fits in a word, and it cannot be multiplied out. -/
def Overflows (text : Text) : Prop :=
  ∃ amount unit, Written text amount unit ∧ amount < wordSize ∧ wordSize ≤ amount * unit.factor

/-- Every unit counts for something. -/
theorem TimeUnit.factor_pos (unit : TimeUnit) : 0 < unit.factor := by
  cases unit <;> decide

section
variable {text : Text}

/-- A text is read as the duration that it lasts. -/
theorem parse_of_lasts {duration : Duration} (h : Lasts text duration) :
    parse text = .ok duration := by
  obtain ⟨amount, unit, hwritten, hfits, hlength⟩ := h
  have hlt : amount < wordSize :=
    Nat.lt_of_le_of_lt (Nat.le_mul_of_pos_right amount unit.factor_pos) hfits
  rw [parse_of_written hwritten hlt, TimeUnit.times_of_lt hfits, ← hlength]
  rfl

/-- A text that overflows is neither read nor refused. -/
theorem parse_of_overflows (h : Overflows text) : parse text = .error (.overflow .multiply) := by
  obtain ⟨amount, unit, hwritten, hlt, hover⟩ := h
  rw [parse_of_written hwritten hlt, TimeUnit.times_of_le hlt hover]
  rfl

/-- A text lasts a duration, overflows or is refused. -/
theorem parse_cases (text : Text) : (∃ duration, Lasts text duration) ∨ Overflows text ∨
    ∃ reason, parse text = refuse reason := by
  by_cases hrefused : ∃ reason, parse text = refuse reason
  · exact .inr (.inr hrefused)
  · obtain ⟨amount, unit, hwritten, hlt⟩ := written_of_parse (not_exists.mp hrefused)
    by_cases hfits : amount * unit.factor < wordSize
    · exact .inl ⟨_, amount, unit, hwritten, hfits, rfl⟩
    · exact .inr (.inl ⟨amount, unit, hwritten, hlt, Nat.not_lt.mp hfits⟩)

/-- The duration that is read is the one that the text lasts. -/
theorem parse_eq_ok_iff {duration : Duration} :
    parse text = .ok duration ↔ Lasts text duration := by
  refine ⟨fun h => ?_, parse_of_lasts⟩
  rcases parse_cases text with ⟨other, hlasts⟩ | hover | ⟨reason, hrefused⟩
  · rwa [Except.ok.inj (h.symm.trans (parse_of_lasts hlasts))]
  · cases h.symm.trans (parse_of_overflows hover)
  · cases h.symm.trans hrefused

/-- Reading stops the program just on the texts that overflow, and on a product. -/
theorem parse_eq_overflow_iff {operation : Overflow} :
    parse text = .error (.overflow operation) ↔ operation = .multiply ∧ Overflows text := by
  constructor
  · intro h
    rcases parse_cases text with ⟨other, hlasts⟩ | hover | ⟨reason, hrefused⟩
    · cases h.symm.trans (parse_of_lasts hlasts)
    · cases h.symm.trans (parse_of_overflows hover)
      exact ⟨rfl, hover⟩
    · cases h.symm.trans hrefused
  · rintro ⟨rfl, hover⟩
    exact parse_of_overflows hover

/-- A duration whose products fit is read without an overflow. -/
theorem parse_ne_overflow (h : InRange text) (operation : Overflow) :
    parse text ≠ .error (.overflow operation) := by
  intro hover
  obtain ⟨-, n, unit, hwritten, hlt, hlarge⟩ := parse_eq_overflow_iff.mp hover
  obtain ⟨-, rfl, hunit⟩ := parts_of_written hwritten
  exact absurd (h hlt unit hunit) (Nat.not_lt.mpr hlarge)

end

end Runbook.Duration
