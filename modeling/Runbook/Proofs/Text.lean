import Mathlib.Data.List.Basic
import Runbook.Text.Basic

/-!
# Blank and other texts

A text is blank if all of its characters are, so that one visible character anywhere in it is enough
(`Text.blank_eq_false_iff`): a text put together from pieces shows something as soon as one of the
pieces does.

A text is taken apart where the kind of its characters changes (`Text.span_append`), so it is told
by the parts as soon as they are of different kinds (`Text.append_inj_of_span`).
-/

namespace Runbook.Text

/-! ## Blank texts -/

/-- A text that is not blank has a character that is not. -/
theorem blank_eq_false_iff {t : Text} : blank t = false ↔ ∃ c ∈ t, isBlank c = false := by
  simp [blank]

/-- A text is blank if its parts are. -/
@[simp] theorem blank_append (s t : Text) : blank (s ++ t) = (blank s && blank t) := List.all_append

/-- A text that starts with something other than blanks is not blank. -/
theorem blank_append_of_left {s : Text} (h : blank s = false) (t : Text) :
    blank (s ++ t) = false := by
  rw [blank_append, h, Bool.false_and]

/-- A note that is not blank shows after any text. -/
theorem blank_appendNote (t : Text) {note : Text} (h : blank note = false) :
    blank (appendNote t note) = false := by
  rw [appendNote, blank_append, h, Bool.and_false]

/-- Pieces with a text between them are blank if each of them is, and the text as well unless there
is no place for it. -/
theorem blank_intercalate_iff (between : Text) (pieces : List Text) :
    blank (List.intercalate between pieces) = true ↔
      (∀ piece ∈ pieces, blank piece = true) ∧ (1 < pieces.length → blank between = true) := by
  induction pieces with
  | nil => simp [blank]
  | cons piece rest ih =>
    cases rest with
    | nil => simp
    | cons next rest =>
      rw [List.intercalate_cons_cons, blank_append, blank_append, Bool.and_eq_true,
        Bool.and_eq_true, ih]
      simp only [List.forall_mem_cons, List.length_cons]
      constructor
      · rintro ⟨⟨hpiece, hbetween⟩, hrest, -⟩
        exact ⟨⟨hpiece, hrest⟩, fun _ => hbetween⟩
      · rintro ⟨⟨hpiece, hrest⟩, hbetween⟩
        exact ⟨⟨hpiece, hbetween (by omega)⟩, hrest, fun _ => hbetween (by omega)⟩

/-! ## Parts of different kinds -/

/-- Characters of a kind before one of another are all there are of it at the start. -/
theorem span_append {p : Char → Bool} {start rest : Text} (hstart : ∀ c ∈ start, p c = true)
    (hrest : ∀ c ∈ rest.head?, p c = false) :
    (start ++ rest).takeWhile p = start ∧ (start ++ rest).dropWhile p = rest := by
  rw [List.takeWhile_append_of_pos hstart, List.dropWhile_append_of_pos hstart]
  cases rest with
  | nil => exact ⟨List.append_nil _, rfl⟩
  | cons c rest =>
    have hc : ¬ p c = true := Bool.eq_false_iff.mp (hrest c rfl)
    rw [List.takeWhile_cons_of_neg hc, List.dropWhile_cons_of_neg hc, List.append_nil]
    exact ⟨rfl, rfl⟩

/-- A text falls apart in one way only into a start of one kind and a rest that does not begin with
that kind. -/
theorem append_inj_of_span {p : Char → Bool} {start start' rest rest' : Text}
    (hstart : ∀ c ∈ start, p c = true) (hrest : ∀ c ∈ rest.head?, p c = false)
    (hstart' : ∀ c ∈ start', p c = true) (hrest' : ∀ c ∈ rest'.head?, p c = false)
    (h : start ++ rest = start' ++ rest') : start = start' ∧ rest = rest' := by
  obtain ⟨htake, hdrop⟩ := span_append hstart hrest
  obtain ⟨htake', hdrop'⟩ := span_append hstart' hrest'
  rw [h] at htake hdrop
  exact ⟨htake.symm.trans htake', hdrop.symm.trans hdrop'⟩

end Runbook.Text
