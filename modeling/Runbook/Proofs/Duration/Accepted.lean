import Runbook.Proofs.Duration.Exact
import Runbook.Text.Utf8

/-!
# Which texts are durations

`Duration.parse_decides`: reading decides the notation `Duration.Written`. What is written in it
with a number that fits in a word is read, with the one number and unit that it has, unless it
overflows when it is multiplied out; every other text is refused.

Reading cuts a text where its digits end. Digits are characters of ASCII, which take one byte each,
so the number of digits is also the place where the bytes of the text can be cut without cutting a
character (`Text.utf8_cut`).
-/

namespace Runbook

/-! ## Bytes of ASCII texts -/

namespace Text

/-- A character of ASCII takes one byte. -/
theorem length_utf8EncodeChar_of_isAscii {c : Char} (h : IsAscii c) :
    (String.utf8EncodeChar c).length = 1 := by
  have hle : c.val ≤ 127 := UInt32.le_iff_toNat_le.mpr (Nat.le_of_lt_succ h)
  rw [String.length_utf8EncodeChar, Char.utf8Size_eq_one_iff.mpr hle]

/-- A text of ASCII has as many bytes as characters. -/
theorem length_utf8_of_isAscii {t : Text} (h : ∀ c ∈ t, IsAscii c) :
    (utf8 t).length = t.length := by
  induction t with
  | nil => rfl
  | cons c t ih =>
    obtain ⟨hc, ht⟩ := List.forall_mem_cons.mp h
    have hcons : utf8 (c :: t) = String.utf8EncodeChar c ++ utf8 t := rfl
    rw [hcons, List.length_append, length_utf8EncodeChar_of_isAscii hc, ih ht, List.length_cons,
      Nat.add_comm]

/-- Cut after as many bytes as it starts with characters of ASCII, the bytes of a text are those of
these characters and those of the others. -/
theorem utf8_cut {start : Text} (h : ∀ c ∈ start, IsAscii c) (rest : Text) :
    (utf8 (start ++ rest)).take start.length = utf8 start ∧
      (utf8 (start ++ rest)).drop start.length = utf8 rest := by
  have happend : utf8 (start ++ rest) = utf8 start ++ utf8 rest := List.flatMap_append
  rw [happend, ← length_utf8_of_isAscii h]
  exact ⟨List.take_left, List.drop_left⟩

end Text

namespace Duration

/-! ## What is written -/

section
variable {text : Text} {n n' : Nat} {unit unit' : TimeUnit}

/-- A text is an amount of one unit in one way only. -/
theorem Written.unique (h : Written text n unit) (h' : Written text n' unit') :
    n' = n ∧ unit' = unit := by
  obtain ⟨-, hamount, hunit⟩ := parts_of_written h
  obtain ⟨-, hamount', hunit'⟩ := parts_of_written h'
  exact ⟨hamount'.symm.trans hamount, Option.some.inj (hunit'.symm.trans hunit)⟩

/-- A duration is written with digits, letters of units and blanks. -/
theorem Written.mem (h : Written text n unit) {c : Char} (hc : c ∈ text) :
    c.isDigit = true ∨ c ∈ unitLetters ∨ Text.isBlank c = true := by
  obtain @⟨before, digits, between, name, after, _, hbefore, -, hdigits, hbetween, hname, hafter⟩
    := h
  simp only [List.mem_append] at hc
  rcases hc with (hc | hc | hc | hc) | hc
  · exact .inr (.inr (List.all_eq_true.mp hbefore c hc))
  · exact .inl (hdigits c hc)
  · exact .inr (.inr (List.all_eq_true.mp hbetween c hc))
  · exact .inr (.inl (mem_unitLetters hname hc))
  · exact .inr (.inr (List.all_eq_true.mp hafter c hc))

end

/-! ## What is read -/

section
variable {text : Text}

/-- A text is refused just if it is no amount of a unit whose number fits in a word. -/
theorem exists_refuse_iff : (∃ reason, parse text = refuse reason) ↔
    ¬ ∃ n unit, Written text n unit ∧ n < wordSize := by
  constructor
  · rintro ⟨reason, hrefused⟩ ⟨n, unit, hwritten, hlt⟩
    by_cases hfits : n * unit.factor < wordSize
    · cases hrefused.symm.trans (parse_of_lasts ⟨n, unit, hwritten, hfits, rfl⟩)
    · have hover : Overflows text := ⟨n, unit, hwritten, hlt, Nat.not_lt.mp hfits⟩
      cases hrefused.symm.trans (parse_of_overflows hover)
  · intro hnone
    by_contra hread
    exact hnone (written_of_parse (not_exists.mp hread))

/-- A text that does not overflow lasts as long as it says, if its number fits in a word. -/
theorem lasts_iff_of_not_overflows (h : ¬ Overflows text) {duration : Duration} :
    Lasts text duration ↔ ∃ n unit, Written text n unit ∧ n < wordSize ∧
      duration.nanoseconds = n * unit.nanoseconds := by
  constructor
  · rintro ⟨n, unit, hwritten, hfits, hlength⟩
    have hlt : n < wordSize := Nat.lt_of_le_of_lt (Nat.le_mul_of_pos_right n unit.factor_pos) hfits
    exact ⟨n, unit, hwritten, hlt, hlength⟩
  · rintro ⟨n, unit, hwritten, hlt, hlength⟩
    refine ⟨n, unit, hwritten, Nat.lt_of_not_le fun hlarge => h ?_, hlength⟩
    exact ⟨n, unit, hwritten, hlt, hlarge⟩

/-- The place where the digits end is one where the bytes of a text can be cut. -/
theorem utf8_cut_digits (text : Text) :
    let place := text.findIdx fun c => !c.isDigit
    (Text.utf8 text).take place = Text.utf8 (text.takeWhile Char.isDigit) ∧
      (Text.utf8 text).drop place = Text.utf8 (text.dropWhile Char.isDigit) := by
  intro place
  have hdigits : ∀ c ∈ text.takeWhile Char.isDigit, Text.IsAscii c :=
    fun c hc => isAscii_of_isDigit (List.mem_takeWhile_imp hc)
  have hplace : (text.takeWhile Char.isDigit).length = place := by
    rw [List.takeWhile_eq_take_findIdx_not, List.length_take,
      Nat.min_eq_left List.findIdx_le_length]
  have hcut := Text.utf8_cut hdigits (text.dropWhile Char.isDigit)
  rwa [List.takeWhile_append_dropWhile, hplace] at hcut

end

/-- A text is refused just if it is no amount of a unit whose number fits in a word. Any other text,
unless it overflows, is read, and just as the duration that it is written as: so many milliseconds,
seconds, minutes or hours. There is one way only to take it as an amount, and it has digits, blanks
and the letters of the units in it and nothing else. Where the digits end, the bytes of the trimmed
text are cut into the bytes of the digits and those of the rest. -/
theorem parse_decides (text : Text) :
    ((∃ reason, parse text = refuse reason) ↔
      ¬ ∃ n unit, Written text n unit ∧ n < wordSize) ∧
    (¬ Overflows text → ∀ duration, parse text = .ok duration ↔
      ∃ n unit, Written text n unit ∧ n < wordSize ∧
        duration.nanoseconds = n * unit.nanoseconds) ∧
    (∀ n unit n' unit', Written text n unit → Written text n' unit' → n' = n ∧ unit' = unit) ∧
    (∀ n unit, Written text n unit →
      ∀ c ∈ text, c.isDigit = true ∨ c ∈ unitLetters ∨ Text.isBlank c = true) ∧
    let trimmed := Text.trim text
    let place := trimmed.findIdx fun c => !c.isDigit
    (Text.utf8 trimmed).take place = Text.utf8 (trimmed.takeWhile Char.isDigit) ∧
      (Text.utf8 trimmed).drop place = Text.utf8 (trimmed.dropWhile Char.isDigit) := by
  refine ⟨exists_refuse_iff, fun h duration => ?_, fun _ _ _ _ h h' => h.unique h',
    fun _ _ h c hc => h.mem hc, utf8_cut_digits _⟩
  rw [parse_eq_ok_iff, lasts_iff_of_not_overflows h]

/-- Seven hours between blanks of several kinds, their unit in upper case. -/
theorem parse_decides_hours :
    let text : Text := "\u3000007\u00a0H\n".toList
    Written text 7 .hour ∧ ¬ Overflows text ∧ parse text = .ok (.ofSeconds 25200) ∧
      ∀ c ∈ text, c.isDigit = true ∨ c ∈ unitLetters ∨ Text.isBlank c = true := by
  intro text
  have hwritten : Written text 7 .hour :=
    @Written.intro ['\u3000'] "007".toList ['\u00a0'] ['H'] ['\n'] .hour
      (by decide) (by decide) (List.all_eq_true.mp (by decide)) (by decide) rfl (by decide)
  obtain ⟨-, hread, hunique, hmem, -⟩ := parse_decides text
  have hfits : ¬ Overflows text := by
    rintro ⟨n, unit, hother, -, hlarge⟩
    obtain ⟨rfl, rfl⟩ := hunique _ _ _ _ hwritten hother
    exact absurd hlarge (by decide)
  refine ⟨hwritten, hfits, (hread hfits _).mpr ?_, hmem _ _ hwritten⟩
  exact ⟨7, .hour, hwritten, by decide, by decide⟩

end Duration

end Runbook
