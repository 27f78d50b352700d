import Runbook.Proofs.Excerpt.Ends
import Runbook.Proofs.Rendering

/-!
# Abridging what is printed

What is printed of a text can be abridged again, under the same policy. Nothing changes while the
print is short, because it ends its last line already (`Excerpt.render_ofText_of_ended`). But a
window on as many lines as may be shown in full is printed with one line more, the separator, and is
long itself.

Such a print is cut where the text was cut (`Excerpt.Cut.shown`): the separator now stands for the
lines between the two ends, as long as trimming the print takes nothing from them. It does not,
since the first line of a window starts with the character that the trimmed text starts with, or
with the separator, and the last line ends likewise (`Excerpt.Cut.exists_visible_start`,
`Excerpt.Cut.exists_visible_end`). The main statement is `Excerpt.abridge_render`. Carriage returns
are the one thing that may get lost on the way.
-/

namespace Runbook.Excerpt

variable {policy : Policy} {text : Text} {head middle tail : List Text}

/-! ## Print that is short -/

/-- A short text that ends its last line is printed as it is. -/
theorem render_ofText_of_ended (hlast : text.getLast? = some '\n')
    (h : (Text.lines (Text.trim text)).length ≤ policy.maxLines.toNat) :
    (ofText policy text).render = text := by
  have hne : text ≠ [] := by
    rintro rfl
    cases hlast
  rw [render_ofText_of_short hne h, Text.endLine, if_pos hlast]

/-! ## Print of a window -/

/-- The first line of a window on a trimmed text does not start with a blank. -/
theorem Cut.exists_visible_start (h : Cut policy (Text.lines (Text.trim text)) head middle tail) :
    ∃ line ∈ (head ++ separator :: tail).head?, ∃ c ∈ line.head?, Text.isBlank c = false := by
  cases head with
  | nil => exact ⟨separator, rfl, '.', rfl, by decide⟩
  | cons first rest =>
    refine ⟨first, rfl, Text.exists_visible_start (Text.tight_trim text).start ?_⟩
    rw [h.lines_eq]
    rfl

/-- The last line of a window on a trimmed text does not end in a blank. -/
theorem Cut.exists_visible_end (h : Cut policy (Text.lines (Text.trim text)) head middle tail) :
    ∃ line ∈ (head ++ separator :: tail).getLast?, ∃ c ∈ line.getLast?, Text.isBlank c = false := by
  rcases List.eq_nil_or_concat' tail with rfl | ⟨start, last, rfl⟩
  · exact ⟨separator, List.getLast?_concat, '.', rfl, by decide⟩
  · refine ⟨last, ?_, Text.exists_visible_end (Text.tight_trim text).finish ?_⟩
    · rw [← List.cons_append, ← List.append_assoc]
      exact List.getLast?_concat
    · rw [h.lines_eq, ← List.append_assoc, List.getLast?_concat]

/-- What is printed of a window has the lines of the window once it is trimmed, but for carriage
returns at their ends. -/
theorem Cut.lines_trim_render (h : Cut policy (Text.lines (Text.trim text)) head middle tail)
    (omitted : Nat) :
    Text.lines (Text.trim (window head tail omitted).render) =
      (head ++ separator :: tail).map Text.dropReturn := by
  refine Text.lines_trim_unlines ((forall_mem_shown_iff (by decide)).mpr fun line hline => ?_)
    h.exists_visible_start h.exists_visible_end
  exact Text.newline_notMem_of_mem_lines (h.mem_lines hline)

/-- Without carriage returns before those of line ends, the lines of a window are printed as they
are. -/
theorem Cut.map_dropReturn (h : Cut policy (Text.lines (Text.trim text)) head middle tail)
    (hreturns : ¬ ['\r', '\r', '\n'] <:+: text) :
    (head ++ separator :: tail).map Text.dropReturn = head ++ separator :: tail := by
  refine Text.map_dropReturn_eq_self_iff.mpr
    ((forall_mem_shown_iff (by decide)).mpr fun line hline hreturn => ?_)
  exact hreturns (infix_of_mem_lines_trim (h.mem_lines hline) hreturn)

/-- The separator takes the place of the lines that were left out, so the lines of a window are cut
where the lines of the text were. -/
theorem Cut.shown {lines : List Text} (h : Cut policy lines head middle tail) :
    Cut policy (head ++ separator :: tail) head [separator] tail where
  lines_eq := by rw [List.append_assoc, List.singleton_append]
  head_length := h.head_length
  tail_length := h.tail_length

/-- A window on all the lines that may be shown in full is cut out of its own print again, with the
separator as the one line left out. -/
theorem Cut.ofText_render (h : Cut policy (Text.lines (Text.trim text)) head middle tail)
    (hreturns : ¬ ['\r', '\r', '\n'] <:+: text)
    (hfull : policy.head.toNat + policy.tail.toNat = policy.maxLines.toNat) (omitted : Nat) :
    ofText policy (window head tail omitted).render = window head tail 1 := by
  have hlines := h.lines_trim_render omitted
  rw [h.map_dropReturn hreturns] at hlines
  have hlong : policy.maxLines.toNat <
      (Text.lines (Text.trim (window head tail omitted).render)).length := by
    have hlength := h.shown.length_eq
    rw [List.length_singleton] at hlength
    rw [hlines]
    omega
  obtain ⟨head', middle', tail', hwindow, -, hcut⟩ := ofText_of_long (Nat.le_of_eq hfull) hlong
  rw [hlines] at hcut
  obtain ⟨rfl, rfl, rfl⟩ := h.shown.unique hcut
  rw [hwindow, List.length_singleton]

/-- A window on fewer lines is printed as it is. -/
theorem Cut.render_ofText_render (h : Cut policy (Text.lines (Text.trim text)) head middle tail)
    (hless : policy.head.toNat + policy.tail.toNat < policy.maxLines.toNat) (omitted : Nat) :
    (ofText policy (window head tail omitted).render).render =
      (window head tail omitted).render := by
  refine render_ofText_of_ended (Text.getLast?_unlines (by simp)) ?_
  have hlength := h.shown.length_eq
  rw [List.length_singleton] at hlength
  rw [h.lines_trim_render, List.length_map]
  omega

/-! ## Print of any excerpt -/

/-- Under a policy whose window is no longer than a text shown in full, what is printed of a text is
printed as it is when it is abridged again, if the text has no carriage return or the window shows
fewer lines than may be shown in full. A window on as many lines is one line longer than what may be
shown in full, and is cut again at the same places. -/
theorem abridge_render {policy : Policy}
    (window : policy.head.toNat + policy.tail.toNat ≤ policy.maxLines.toNat) {text : Text}
    (h : '\r' ∉ text ∨ policy.head.toNat + policy.tail.toNat < policy.maxLines.toNat) :
    ∃ excerpt again, abridge policy text = .ok excerpt ∧ abridge policy excerpt.render = .ok again ∧
      again.render = excerpt.render ∧
      (policy.head.toNat + policy.tail.toNat = policy.maxLines.toNat →
        ∀ head tail omitted, excerpt = .window head tail omitted →
          (Text.lines excerpt.render).length = policy.maxLines.toNat + 1 ∧
            again = .window head tail 1) := by
  have fits := Policy.fits_of_le window
  refine ⟨_, _, abridge_of_fits fits text, abridge_of_fits fits _, ?_⟩
  by_cases hlong : policy.maxLines.toNat < (Text.lines (Text.trim text)).length
  · obtain ⟨head, middle, tail, hwindow, -, hcut⟩ := ofText_of_long window hlong
    rw [hwindow]
    rcases Nat.lt_or_eq_of_le window with hless | hfull
    · refine ⟨hcut.render_ofText_render hless _, fun hfull => ?_⟩
      exact absurd hfull (Nat.ne_of_lt hless)
    · have hreturns : ¬ ['\r', '\r', '\n'] <:+: text := by
        have hnone : '\r' ∉ text := h.resolve_right (by omega)
        exact fun hpart => hnone (hpart.mem List.mem_cons_self)
      rw [hcut.ofText_render hreturns hfull]
      refine ⟨rfl, fun _ => ?_⟩
      rintro _ _ _ ⟨⟩
      refine ⟨?_, rfl⟩
      have hprinted := lines_render_window (fun line hline =>
        Text.newline_notMem_of_mem_lines (hcut.mem_lines hline)) middle.length
      rw [hprinted, List.length_map, (hcut.length_lines_window _).1, hfull]
  · have hshort := Nat.not_lt.mp hlong
    by_cases hne : text = []
    · subst hne
      exact ⟨rfl, fun _ _ _ _ hwindow => nomatch hwindow⟩
    · rw [ofText_of_short hne hshort]
      refine ⟨?_, fun _ _ _ _ hwindow => nomatch hwindow⟩
      refine render_ofText_of_ended (Text.getLast?_endLine text) ?_
      rwa [Excerpt.render, Text.trim_endLine]

/-- A window on all three lines that may be shown in full, with a blank line in it and blanks around
it. -/
theorem abridge_render_full :
    let policy : Policy := ⟨3, 1, 2⟩
    let text : Text := "\n a \nb\n\u2028\n\nc\u0085\n".toList
    let printed : Text := "a \n...\n\nc\n".toList
    policy.head.toNat + policy.tail.toNat ≤ policy.maxLines.toNat ∧ '\r' ∉ text ∧
    ∃ excerpt again, abridge policy text = .ok excerpt ∧ excerpt.render = printed ∧
      abridge policy printed = .ok again ∧ again = .window ["a ".toList] [[], ['c']] 1 ∧
      again.render = printed := by
  intro policy text printed
  have window : policy.head.toNat + policy.tail.toNat ≤ policy.maxLines.toNat := by decide
  have hreturn : '\r' ∉ text := by decide +kernel
  obtain ⟨excerpt, again, hexcerpt, hagain, hsame, hfull⟩ := abridge_render window (.inl hreturn)
  have hvalue : abridge policy text = .ok (.window ["a ".toList] [[], ['c']] 2) := by
    decide +kernel
  obtain rfl : Excerpt.window ["a ".toList] [[], ['c']] 2 = excerpt :=
    Except.ok.inj (hvalue.symm.trans hexcerpt)
  obtain ⟨-, rfl⟩ := hfull rfl _ _ _ rfl
  have hprinted : (Excerpt.window ["a ".toList] [[], ['c']] 2).render = printed := by
    decide +kernel
  rw [hprinted] at hagain hsame
  exact ⟨window, hreturn, _, _, hexcerpt, hprinted, hagain, rfl, hsame⟩

/-- A second carriage return before a line feed is lost when a window is cut again. -/
example :
    let policy : Policy := ⟨1, 1, 0⟩
    (ofText policy "a\r\r\nb".toList).render = "a\r\n...\n".toList ∧
      (ofText policy "a\r\n...\n".toList).render = "a\n...\n".toList := by
  decide +kernel

end Runbook.Excerpt
