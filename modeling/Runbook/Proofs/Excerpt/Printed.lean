import Mathlib.Data.List.Forall2
import Runbook.Proofs.Excerpt
import Runbook.Proofs.Text.LineEnds

/-!
# The lines of an excerpt in print

`Excerpt.lines` are the lines that an excerpt shows, and `Excerpt.render` is the text that is
printed, in which a reader finds lines again. They are the same lines but for carriage returns:
where the excerpt itself writes the line feed after a line, a carriage return at the end of that
line comes to stand before a line feed, and is no part of the line in print
(`Excerpt.LosesReturn`). The excerpt ends the last line of a text that is shown as it is, and all
lines of a window.

`Excerpt.lines_render` says that nothing else is lost, and that nothing at all is if the text does
not end in a carriage return and no line end has a second one before it. That something may be lost
is `Excerpt.lines_ne_printed`.
-/

namespace Runbook.Excerpt

/-- A line that is ended by the excerpt ends in a carriage return. -/
def LosesReturn : Excerpt → Prop
  | .empty => False
  | .full text => text.getLast? = some '\r'
  | .window head tail _ => ∃ line ∈ head ++ tail, line.getLast? = some '\r'

/-- The lines are printed as they are, but for a carriage return at the end of some of them. -/
def PrintedAs (shown printed : List Text) : Prop :=
  List.Forall₂ (fun shown printed => shown = printed ∨ shown = printed ++ ['\r']) shown printed

/-- Lines that are printed as they are lose nothing. -/
theorem PrintedAs.refl (ls : List Text) : PrintedAs ls ls :=
  List.forall₂_same.mpr fun _ _ => .inl rfl

/-- Lines that are all ended by the excerpt are printed without carriage returns at their ends. -/
theorem printedAs_map_dropReturn (ls : List Text) : PrintedAs ls (ls.map Text.dropReturn) :=
  List.forall₂_map_right_iff.mpr (List.forall₂_same.mpr fun line _ => Text.eq_dropReturn_or line)

/-! ## The two ways to show a text -/

/-- A text that is shown as it is has its lines in print, unless it ends in a carriage return. -/
theorem lines_render_full {text : Text} (hne : text ≠ []) :
    (Text.lines (full text).render = (full text).lines ↔ ¬ (full text).LosesReturn) ∧
      PrintedAs (full text).lines (Text.lines (full text).render) := by
  rw [render, Excerpt.lines, LosesReturn]
  by_cases hreturn : text.getLast? = some '\r'
  · obtain ⟨front, rfl⟩ := List.getLast?_eq_some_iff.mp hreturn
    obtain ⟨start, last, hlines, hprinted⟩ := Text.lines_endLine_return front
    rw [hlines, hprinted]
    refine ⟨iff_of_false (fun heq => ?_) (not_not.mpr hreturn), ?_⟩
    · obtain ⟨hlast, -⟩ := List.cons.inj (List.append_cancel_left heq)
      exact List.cons_ne_nil _ _ (List.self_eq_append_right.mp hlast)
    · exact List.rel_append (PrintedAs.refl start) (.cons (.inr rfl) .nil)
  · rw [Text.lines_endLine hne hreturn]
    exact ⟨iff_of_true rfl hreturn, PrintedAs.refl _⟩

section
variable {head tail : List Text}

/-- The separator is a line without line feed or carriage return, so that it does not matter to what
is true of it. -/
theorem forall_mem_shown_iff {p : Text → Prop} (hseparator : p separator) :
    (∀ line ∈ head ++ separator :: tail, p line) ↔ ∀ line ∈ head ++ tail, p line := by
  simp only [List.forall_mem_append, List.forall_mem_cons, hseparator, true_and]

/-- The lines of a window are printed without the carriage returns at their ends. -/
theorem lines_render_window (h : ∀ line ∈ head ++ tail, '\n' ∉ line) (omitted : Nat) :
    Text.lines (window head tail omitted).render =
      (window head tail omitted).lines.map Text.dropReturn :=
  Text.lines_unlines ((forall_mem_shown_iff (by decide)).mpr h)

/-- A window has its lines in print just if none of them ends in a carriage return. -/
theorem map_dropReturn_window_iff (head tail : List Text) (omitted : Nat) :
    (window head tail omitted).lines.map Text.dropReturn = (window head tail omitted).lines ↔
      ¬ (window head tail omitted).LosesReturn := by
  rw [Text.map_dropReturn_eq_self_iff, Excerpt.lines, LosesReturn,
    forall_mem_shown_iff (by decide)]
  simp only [not_exists, not_and, ne_eq]

end

/-! ## Carriage returns of the text -/

/-- A line of the trimmed text that ends in a carriage return has lost another one. -/
theorem infix_of_mem_lines_trim {text line : Text} (h : line ∈ Text.lines (Text.trim text))
    (hreturn : line.getLast? = some '\r') : ['\r', '\r', '\n'] <:+: text := by
  rcases Text.return_of_mem_lines h hreturn with hlast | hinfix
  · have hvisible := (Text.tight_trim text).finish _ hlast
    exact absurd hvisible (by decide)
  · obtain ⟨before, after, -, -, htext⟩ := Text.exists_trim text
    rw [htext]
    exact hinfix.trans ⟨before, after, rfl⟩

/-- Under a policy whose window is no longer than a text shown in full, the lines of an excerpt are
those that are found in print, unless a line that the excerpt ends has a carriage return at its end;
there are always as many, and no more than such carriage returns are lost. A text that does not end
in a carriage return, and has none before the one of a line end, loses none. -/
theorem lines_render {policy : Policy}
    (window : policy.head.toNat + policy.tail.toNat ≤ policy.maxLines.toNat) (text : Text) :
    ∃ excerpt, abridge policy text = .ok excerpt ∧
      (Text.lines excerpt.render = excerpt.lines ↔ ¬ excerpt.LosesReturn) ∧
      PrintedAs excerpt.lines (Text.lines excerpt.render) ∧
      (text.getLast? ≠ some '\r' → ¬ ['\r', '\r', '\n'] <:+: text →
        Text.lines excerpt.render = excerpt.lines) := by
  refine ⟨ofText policy text, abridge_of_fits (Policy.fits_of_le window) text, ?_⟩
  by_cases hlong : policy.maxLines.toNat < (Text.lines (Text.trim text)).length
  · obtain ⟨head, middle, tail, htext, -, hcut⟩ := ofText_of_long window hlong
    have hlines := lines_render_window (fun line hline =>
      Text.newline_notMem_of_mem_lines (hcut.mem_lines hline)) middle.length
    have hiff := map_dropReturn_window_iff head tail middle.length
    rw [htext, hlines]
    refine ⟨hiff, printedAs_map_dropReturn _, fun _ hinfix => hiff.mpr ?_⟩
    rintro ⟨line, hline, hreturn⟩
    exact hinfix (infix_of_mem_lines_trim (hcut.mem_lines hline) hreturn)
  · by_cases hne : text = []
    · subst hne
      exact ⟨iff_of_true rfl id, PrintedAs.refl [], fun _ _ => rfl⟩
    · obtain ⟨hiff, hprinted⟩ := lines_render_full hne
      rw [ofText_of_short hne (Nat.not_lt.mp hlong)]
      exact ⟨hiff, hprinted, fun hlast _ => hiff.mpr hlast⟩

/-- A window on four lines, the first of which keeps one of two carriage returns and loses it in
print. -/
theorem lines_render_returns :
    let policy : Policy := ⟨3, 1, 1⟩
    let text : Text := "a\r\r\nb\nc\nd\r\n".toList
    policy.head.toNat + policy.tail.toNat ≤ policy.maxLines.toNat ∧
    ∃ excerpt, abridge policy text = .ok excerpt ∧
      excerpt.lines = [['a', '\r'], separator, ['d']] ∧ excerpt.LosesReturn ∧
      Text.lines excerpt.render ≠ excerpt.lines ∧
      PrintedAs excerpt.lines (Text.lines excerpt.render) := by
  intro policy text
  have window : policy.head.toNat + policy.tail.toNat ≤ policy.maxLines.toNat := by decide
  obtain ⟨excerpt, habridge, hiff, hprinted, -⟩ := lines_render window text
  have hexcerpt : excerpt = .window [['a', '\r']] [['d']] 2 := by
    have hvalue : abridge policy text = .ok (.window [['a', '\r']] [['d']] 2) := by decide +kernel
    exact Except.ok.inj (habridge.symm.trans hvalue)
  have hloses : excerpt.LosesReturn := by
    rw [hexcerpt]
    exact ⟨['a', '\r'], by decide, rfl⟩
  exact ⟨window, excerpt, habridge, by rw [hexcerpt]; rfl, hloses,
    fun hsame => hiff.mp hsame hloses, hprinted⟩

/-- A text that ends in a carriage return is shown with it, and printed as a line without it. -/
theorem lines_ne_printed :
    let policy := Policy.default
    let text : Text := "a\r".toList
    policy.head.toNat + policy.tail.toNat ≤ policy.maxLines.toNat ∧
    ∃ excerpt, abridge policy text = .ok excerpt ∧ excerpt.lines = ["a\r".toList] ∧
      Text.lines excerpt.render = ["a".toList] ∧ Text.lines excerpt.render ≠ excerpt.lines :=
  ⟨by decide, .full "a\r".toList, by decide +kernel, by decide +kernel, by decide +kernel,
    by decide +kernel⟩

end Runbook.Excerpt
