import Mathlib.Data.List.Basic
import Runbook.Proofs.Console
import Runbook.Proofs.Text.Lines
import Runbook.Proofs.Text.Trim

/-!
# What an excerpt leaves out

A text is shown as it is or as a window on its lines. The window has the first lines and the last
ones, and between them the number of those left out; that no line is lost or shown twice is to say
that these three make up the lines of the text (`Excerpt.Cut`). There is one way to cut lines so
(`Excerpt.Cut.unique`), and the window is cut that way (`Excerpt.ofText_of_long`), although its end
is found by counting from the start of the text and not from the end.

`Excerpt.abridge_cut` says of every text which of the three excerpts it has, and that none of the
sums and differences that are computed on the way leaves the range of a word.
-/

namespace Runbook.Excerpt

/-! ## Cutting lines -/

/-- Lines cut the way a policy cuts them: as many as it shows of their start, those left out, and as
many as it shows of their end. -/
structure Cut (policy : Policy) (lines head middle tail : List Text) : Prop where
  lines_eq : lines = head ++ middle ++ tail
  head_length : head.length = policy.head.toNat
  tail_length : tail.length = policy.tail.toNat

section
variable {policy : Policy} {lines head middle tail : List Text}

/-- What is left out is all that is not in one of the two ends. -/
theorem Cut.length_eq (h : Cut policy lines head middle tail) :
    middle.length + (policy.head.toNat + policy.tail.toNat) = lines.length := by
  rw [h.lines_eq, List.length_append, List.length_append, h.head_length, h.tail_length]
  omega

/-- The lines of the two ends are among the lines that were cut. -/
theorem Cut.mem_lines (h : Cut policy lines head middle tail) {line : Text}
    (hline : line ∈ head ++ tail) : line ∈ lines := by
  rw [h.lines_eq, List.append_assoc, List.mem_append, List.mem_append]
  exact (List.mem_append.mp hline).imp_right .inr

/-- There is only one way to cut lines. -/
theorem Cut.unique {head' middle' tail' : List Text} (h : Cut policy lines head middle tail)
    (h' : Cut policy lines head' middle' tail') :
    head' = head ∧ middle' = middle ∧ tail' = tail := by
  have hlines : head' ++ middle' ++ tail' = head ++ middle ++ tail :=
    h'.lines_eq.symm.trans h.lines_eq
  obtain ⟨hfront, htail⟩ := List.append_inj' hlines (h'.tail_length.trans h.tail_length.symm)
  obtain ⟨hhead, hmiddle⟩ := List.append_inj hfront (h'.head_length.trans h.head_length.symm)
  exact ⟨hhead, hmiddle, htail⟩

/-- Lines that are at least as many as the two ends together can be cut. -/
theorem exists_cut (h : policy.head.toNat + policy.tail.toNat ≤ lines.length) :
    ∃ middle, Cut policy lines (lines.take policy.head.toNat) middle
      (lines.drop (lines.length - policy.tail.toNat)) := by
  let front := lines.length - policy.tail.toNat
  have hfront : policy.head.toNat ≤ front := by omega
  refine ⟨(lines.take front).drop policy.head.toNat, ?lines, ?head, ?tail⟩
  case lines =>
    calc lines
      _ = lines.take front ++ lines.drop front := (List.take_append_drop front lines).symm
      _ = (lines.take front).take policy.head.toNat ++ (lines.take front).drop policy.head.toNat ++
          lines.drop front := by rw [List.take_append_drop policy.head.toNat]
      _ = lines.take policy.head.toNat ++ (lines.take front).drop policy.head.toNat ++
          lines.drop front := by rw [List.take_take, Nat.min_eq_left hfront]
  case head => rw [List.length_take]; omega
  case tail => rw [List.length_drop]; omega

/-- The two ends and the separator are no more lines than there were, as long as a line is left out
for the separator. -/
theorem Cut.length_lines_window (h : Cut policy lines head middle tail) (omitted : Nat) :
    (window head tail omitted).lines.length = policy.head.toNat + policy.tail.toNat + 1 ∧
      (1 ≤ middle.length → (window head tail omitted).lines.length ≤ lines.length) := by
  have hshown : (window head tail omitted).lines.length =
      policy.head.toNat + policy.tail.toNat + 1 := by
    rw [Excerpt.lines, List.length_append, List.length_cons, h.head_length, h.tail_length]
    omega
  refine ⟨hshown, fun hmiddle => ?_⟩
  have hlength := h.length_eq
  omega

end

/-! ## The excerpt of a text -/

section
variable {policy : Policy} {text : Text}

/-- A text that is short once its blank ends are gone is shown as it is. -/
theorem ofText_of_short (hne : text ≠ [])
    (h : (Text.lines (Text.trim text)).length ≤ policy.maxLines.toNat) :
    ofText policy text = .full text := by
  have hne' : ¬ text.isEmpty = true := fun he => hne (List.isEmpty_iff.mp he)
  simp only [ofText, if_neg hne', if_pos h]

/-- Of a text that is longer than the policy shows in full, the two ends of its lines are shown, and
how many there are between them. -/
theorem ofText_of_long
    (window : policy.head.toNat + policy.tail.toNat ≤ policy.maxLines.toNat)
    (h : policy.maxLines.toNat < (Text.lines (Text.trim text)).length) :
    ∃ head middle tail, ofText policy text = .window head tail middle.length ∧
      1 ≤ middle.length ∧ Cut policy (Text.lines (Text.trim text)) head middle tail := by
  have hne : ¬ text.isEmpty = true := by
    intro he
    rw [List.isEmpty_iff.mp he] at h
    exact absurd h (Nat.not_lt_zero _)
  obtain ⟨middle, hcut⟩ := exists_cut (Nat.le_trans window (Nat.le_of_lt h))
  have hlength := hcut.length_eq
  refine ⟨_, middle, _, ?_, by omega, hcut⟩
  simp only [ofText, if_neg hne, if_neg (Nat.not_le.mpr h)]
  rw [← hlength, Nat.add_sub_cancel]

end

/-- Under a policy whose window is no longer than a text shown in full, the excerpt of a text is
computed without an overflow. It is empty just if the text is, and the text itself just if that is
not longer than the policy allows once its blank ends are gone. Otherwise the lines of the trimmed
text are cut, in the only way there is, into those at the start and those at the end that the policy
asks for and at least one line between them. These ends are the window, with a separator between
them that makes it no longer than the lines were, and the count of what is left out is exact. -/
theorem abridge_cut {policy : Policy}
    (window : policy.head.toNat + policy.tail.toNat ≤ policy.maxLines.toNat) (text : Text) :
    let lines := Text.lines (Text.trim text)
    lines.length ≤ text.length ∧
    ∃ excerpt, abridge policy text = .ok excerpt ∧
      (excerpt = .empty ↔ text = []) ∧
      (∀ shown, excerpt = .full shown ↔
        shown = text ∧ text ≠ [] ∧ lines.length ≤ policy.maxLines.toNat) ∧
      ((∃ head tail omitted, excerpt = .window head tail omitted) ↔
        policy.maxLines.toNat < lines.length) ∧
      ∀ head tail omitted, excerpt = .window head tail omitted →
        ∃ middle, Cut policy lines head middle tail ∧
          (∀ head' middle' tail', Cut policy lines head' middle' tail' →
            head' = head ∧ middle' = middle ∧ tail' = tail) ∧
          middle.length = omitted ∧ 1 ≤ omitted ∧
          omitted + (policy.head.toNat + policy.tail.toNat) = lines.length ∧
          excerpt.lines = head ++ "...".toList :: tail ∧
          excerpt.lines.length = policy.head.toNat + policy.tail.toNat + 1 ∧
          excerpt.lines.length ≤ lines.length := by
  intro lines
  refine ⟨Nat.le_trans (Text.length_lines_le _) (Text.length_trim_le text), ofText policy text,
    abridge_of_fits (Policy.fits_of_le window) text, ?_⟩
  by_cases hlong : policy.maxLines.toNat < lines.length
  · obtain ⟨head, middle, tail, htext, hmiddle, hcut⟩ := ofText_of_long window hlong
    have hne : text ≠ [] := by
      rintro rfl
      exact absurd hlong (Nat.not_lt_zero _)
    rw [htext]
    refine ⟨iff_of_false nofun hne,
      fun shown => iff_of_false nofun fun h => absurd hlong (Nat.not_lt.mpr h.2.2),
      iff_of_true ⟨_, _, _, rfl⟩ hlong, ?_⟩
    rintro _ _ _ ⟨⟩
    obtain ⟨hshown, hle⟩ := hcut.length_lines_window middle.length
    exact ⟨middle, hcut, fun _ _ _ hother => hcut.unique hother, rfl, hmiddle, hcut.length_eq, rfl,
      hshown, hle hmiddle⟩
  · have hshort := Nat.not_lt.mp hlong
    by_cases hne : text = []
    · subst hne
      exact ⟨iff_of_true rfl rfl, fun shown => iff_of_false nofun fun h => absurd rfl h.2.1,
        iff_of_false nofun hlong, nofun⟩
    · rw [ofText_of_short hne hshort]
      refine ⟨iff_of_false nofun hne, fun shown => ?_, iff_of_false nofun hlong, nofun⟩
      exact ⟨fun h => ⟨(full.inj h).symm, hne, hshort⟩, fun h => congrArg full h.1.symm⟩

/-- Four lines between blank ends, where three are shown in full: the window that is as long as that
leaves out one of them. -/
theorem abridge_cut_tight :
    let policy : Policy := ⟨3, 1, 2⟩
    let text : Text := "\n a\r\nb\n\nc \n".toList
    policy.head.toNat + policy.tail.toNat ≤ policy.maxLines.toNat ∧
    ∃ excerpt, abridge policy text = .ok excerpt ∧
      excerpt = .window [['a']] [[], ['c']] 1 ∧
      ∃ middle, Cut policy (Text.lines (Text.trim text)) [['a']] middle [[], ['c']] ∧
        middle.length = 1 ∧ excerpt.lines.length ≤ (Text.lines (Text.trim text)).length := by
  intro policy text
  have window : policy.head.toNat + policy.tail.toNat ≤ policy.maxLines.toNat := by decide
  obtain ⟨-, excerpt, habridge, -, -, -, hwindow⟩ := abridge_cut window text
  have hexcerpt : excerpt = .window [['a']] [[], ['c']] 1 := by
    have hvalue : abridge policy text = .ok (.window [['a']] [[], ['c']] 1) := by decide +kernel
    exact Except.ok.inj (habridge.symm.trans hvalue)
  obtain ⟨middle, hcut, -, hmiddle, -, -, -, -, hle⟩ := hwindow _ _ _ hexcerpt
  exact ⟨window, excerpt, habridge, hexcerpt, middle, hcut, hmiddle, hle⟩

end Runbook.Excerpt
