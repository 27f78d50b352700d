import Runbook.Proofs.Excerpt.Printed
import Runbook.Proofs.Text.Ends

/-!
# Excerpts and the blank ends of a text

Blanks at the ends of a text do not make it long, and take no place among the lines of a window:
texts that differ only in such blanks are cut in the same way (`Excerpt.abridge_between`), because
everything that an excerpt counts or takes is counted and taken in the trimmed text.

For the same reason a window never shows blank lines only. Between the first line of the trimmed
text and the last all may be blank, but these two are not, and a window of at least one line shows
one of them (`Excerpt.Cut.exists_visible`). In print it is a line of the text but for blanks at its
ends (`Excerpt.exists_visible_printed`).
-/

namespace Runbook.Excerpt

variable {policy : Policy} {text : Text}

/-! ## Blanks around a text -/

/-- A long text has the same window with blanks around it. -/
theorem ofText_between_of_long {before after : Text} (hbefore : Text.blank before = true)
    (hafter : Text.blank after = true)
    (h : policy.maxLines.toNat < (Text.lines (Text.trim text)).length) :
    ofText policy (before ++ text ++ after) = ofText policy text := by
  have hlong : ∀ t, Text.trim t = Text.trim text → ¬ t.isEmpty = true := by
    intro t ht hempty
    rw [← ht, List.isEmpty_iff.mp hempty] at h
    exact absurd h (Nat.not_lt_zero _)
  have htrim := Text.trim_between hbefore hafter text
  simp only [ofText, if_neg (hlong _ htrim), if_neg (hlong text rfl), htrim,
    if_neg (Nat.not_le.mpr h)]

/-- A short text is short with blanks around it. -/
theorem ofText_between_of_short {before after : Text} (hne : text ≠ [])
    (hbefore : Text.blank before = true) (hafter : Text.blank after = true)
    (h : (Text.lines (Text.trim text)).length ≤ policy.maxLines.toNat) :
    ofText policy (before ++ text ++ after) = .full (before ++ text ++ after) := by
  refine ofText_of_short ?_ ?_
  · exact List.append_ne_nil_of_left_ne_nil (List.append_ne_nil_of_right_ne_nil before hne) after
  · rwa [Text.trim_between hbefore hafter]

/-- Blanks around a text never change what is cut, under a policy whose window is no longer than a
text shown in full. The text with them has a window just if the text without them has one, and it is
the same window. Otherwise each of the two is shown as it is. -/
theorem abridge_between
    (window : policy.head.toNat + policy.tail.toNat ≤ policy.maxLines.toNat) (hne : text ≠ [])
    {before after : Text} (hbefore : Text.blank before = true)
    (hafter : Text.blank after = true) :
    ∃ excerpt padded, abridge policy text = .ok excerpt ∧
      abridge policy (before ++ text ++ after) = .ok padded ∧
      ((∃ head tail omitted, padded = .window head tail omitted) ↔
        ∃ head tail omitted, excerpt = .window head tail omitted) ∧
      (∀ head tail omitted, excerpt = .window head tail omitted →
        padded = .window head tail omitted) ∧
      ((¬ ∃ head tail omitted, excerpt = .window head tail omitted) →
        excerpt = .full text ∧ padded = .full (before ++ text ++ after)) := by
  have fits := Policy.fits_of_le window
  refine ⟨ofText policy text, ofText policy (before ++ text ++ after), abridge_of_fits fits _,
    abridge_of_fits fits _, ?_⟩
  by_cases hlong : policy.maxLines.toNat < (Text.lines (Text.trim text)).length
  · obtain ⟨head, middle, tail, hwindow, -⟩ := ofText_of_long window hlong
    rw [ofText_between_of_long hbefore hafter hlong]
    exact ⟨Iff.rfl, fun _ _ _ h => h, fun hnone => absurd ⟨_, _, _, hwindow⟩ hnone⟩
  · have hshort := Nat.not_lt.mp hlong
    rw [ofText_of_short hne hshort, ofText_between_of_short hne hbefore hafter hshort]
    exact ⟨iff_of_false nofun nofun, nofun, fun _ => ⟨rfl, rfl⟩⟩

/-- Two lines of which a window shows the first, between blanks that join them: white space that
ends no line, carriage returns and line feeds. -/
theorem abridge_between_joined :
    let policy : Policy := ⟨1, 1, 0⟩
    let text : Text := "a\r\nb".toList
    let before : Text := "\n\u2028 ".toList
    let after : Text := "\u0085\r\n\r".toList
    policy.head.toNat + policy.tail.toNat ≤ policy.maxLines.toNat ∧ text ≠ [] ∧
      Text.blank before = true ∧ Text.blank after = true ∧
      abridge policy text = .ok (.window [['a']] [] 1) ∧
      abridge policy (before ++ text ++ after) = .ok (.window [['a']] [] 1) := by
  intro policy text before after
  have window : policy.head.toNat + policy.tail.toNat ≤ policy.maxLines.toNat := by decide
  have hne : text ≠ [] := by decide +kernel
  have hbefore : Text.blank before = true := by decide +kernel
  have hafter : Text.blank after = true := by decide +kernel
  have hvalue : abridge policy text = .ok (.window [['a']] [] 1) := by decide +kernel
  obtain ⟨excerpt, padded, hexcerpt, hpadded, -, hsame, -⟩ :=
    abridge_between window hne hbefore hafter
  have hwindow : excerpt = .window [['a']] [] 1 := Except.ok.inj (hexcerpt.symm.trans hvalue)
  rw [hsame _ _ _ hwindow] at hpadded
  exact ⟨window, hne, hbefore, hafter, hvalue, hpadded⟩

/-! ## Lines that are not blank -/

/-- One of the two ends of a trimmed text has a line that is not blank, if a policy shows any. -/
theorem Cut.exists_visible {head middle tail : List Text}
    (h : Cut policy (Text.lines (Text.trim text)) head middle tail)
    (hshown : 1 ≤ policy.head.toNat + policy.tail.toNat) :
    ∃ line ∈ head ++ tail, Text.blank line = false := by
  have htight := Text.tight_trim text
  rw [← h.head_length, ← h.tail_length] at hshown
  cases head with
  | cons first rest =>
    have hfirst : (Text.lines (Text.trim text)).head? = some first := by
      rw [h.lines_eq]
      rfl
    exact ⟨first, List.mem_cons_self, Text.blank_of_head?_lines htight.start hfirst⟩
  | nil =>
    have hne : tail ≠ [] := by
      rintro rfl
      exact absurd hshown (by decide)
    have hlast : (Text.lines (Text.trim text)).getLast? = some (tail.getLast hne) := by
      rw [h.lines_eq, List.getLast?_append_of_ne_nil _ hne, List.getLast?_eq_some_getLast hne]
    exact ⟨tail.getLast hne, List.getLast_mem hne,
      Text.blank_of_getLast?_lines htight.finish hlast⟩

/-- A line that is shown is found in print, but for blanks at its ends. -/
theorem PrintedAs.exists_losesBlanks {shown printed : List Text} (h : PrintedAs shown printed)
    {line : Text} (hline : line ∈ shown) : ∃ found ∈ printed, Text.LosesBlanks line found := by
  induction h with
  | nil => cases hline
  | @cons first found shown printed hfirst _ ih =>
    rcases List.mem_cons.mp hline with rfl | hrest
    · refine ⟨found, List.mem_cons_self, ?_⟩
      rcases hfirst with rfl | rfl
      · exact .refl _
      · exact .of_append_right found rfl
    · obtain ⟨found', hfound, hleft⟩ := ih hrest
      exact ⟨found', List.mem_cons_of_mem _ hfound, hleft⟩

/-- The excerpt of a text that is not blank has a line in print that is not, and that is a line of
the text but for blanks at its ends, unless the text is cut and no line of it is shown. -/
theorem exists_visible_printed
    (window : policy.head.toNat + policy.tail.toNat ≤ policy.maxLines.toNat)
    (hshown : 1 ≤ policy.head.toNat + policy.tail.toNat) (h : Text.blank text = false) :
    ∃ whole ∈ Text.lines text, ∃ line ∈ Text.lines (ofText policy text).render,
      Text.LosesBlanks whole line ∧ Text.blank line = false := by
  by_cases hlong : policy.maxLines.toNat < (Text.lines (Text.trim text)).length
  · obtain ⟨head, middle, tail, hwindow, -, hcut⟩ := ofText_of_long window hlong
    obtain ⟨shown, hmem, hvisible⟩ := hcut.exists_visible hshown
    obtain ⟨whole, hwhole, hleft⟩ := Text.exists_line_of_mem_lines_trim (hcut.mem_lines hmem)
    have hprinted := lines_render_window (fun line hline =>
      Text.newline_notMem_of_mem_lines (hcut.mem_lines hline)) middle.length
    have hlines : shown ∈ (Excerpt.window head tail middle.length).lines := by
      rw [Excerpt.lines, List.mem_append, List.mem_cons]
      exact (List.mem_append.mp hmem).imp_right .inr
    obtain ⟨line, hline, hleft'⟩ := (printedAs_map_dropReturn _).exists_losesBlanks hlines
    rw [hwindow, hprinted]
    exact ⟨whole, hwhole, line, hline, hleft.trans hleft', by rw [hleft'.blank_eq, hvisible]⟩
  · have hne : text ≠ [] := by
      rintro rfl
      cases h
    obtain ⟨whole, hwhole, hvisible⟩ := Text.exists_visible_line h
    obtain ⟨line, hline, hleft⟩ := (lines_render_full hne).2.exists_losesBlanks hwhole
    rw [ofText_of_short hne (Nat.not_lt.mp hlong)]
    exact ⟨whole, hwhole, line, hline, hleft, by rw [hleft.blank_eq, hvisible]⟩

end Runbook.Excerpt
