import Mathlib.Data.List.DropRight
import Runbook.Proofs.Rendering
import Runbook.Proofs.Text.LineEnds

/-!
# Results in red

A failure in colour is what it prints without colour, line by line in red (`inRed`). Each line is
between the control sequences by itself, so that none of them has a line feed in it, and the red is
taken back right before each line feed (`redOff_before_newline`). The lines are the same with and
without colour (`lines_highlight`). All that taking the control sequences off does not bring back
are the carriage returns before line feeds, which are part of no line (`unhighlight_highlight`,
`Text.unlines_lines`).

`Result.prints_colored` compares what a result prints with and without colour.
-/

namespace Runbook

/-- A line in red. -/
def inRed (line : Text) : Text := redOn ++ line ++ redOff

/-- A line without its ends, each as long as the control sequence there. -/
def withoutRed (line : Text) : Text := (line.drop redOn.length).rdrop redOff.length

/-- A text in red with the control sequences taken off its lines. -/
def unhighlight (text : Text) : Text := Text.unlines ((Text.lines text).map withoutRed)

/-! ## Lines in red -/

/-- What is between the control sequences is the line. -/
@[simp] theorem withoutRed_inRed (line : Text) : withoutRed (inRed line) = line := by
  rw [withoutRed, inRed, List.append_assoc, List.drop_left, List.rdrop_append_length]

/-- A line in red has no line feed in it. -/
theorem newline_notMem_inRed {line : Text} (h : '\n' ∉ line) : '\n' ∉ inRed line := by
  have hon : '\n' ∉ redOn := by decide
  have hoff : '\n' ∉ redOff := by decide
  simp only [inRed, List.mem_append, hon, h, hoff, or_self, not_false_eq_true]

/-- A line in red does not end in a carriage return. -/
theorem getLast?_inRed (line : Text) : (inRed line).getLast? ≠ some '\r' := by
  rw [inRed, List.getLast?_append_of_ne_nil _ (by decide)]
  decide

section
variable (text : Text)

/-- The lines of a text in red have no line feeds in them. -/
theorem newline_notMem_of_mem_map_inRed :
    ∀ line ∈ (Text.lines text).map inRed, '\n' ∉ line := by
  intro line hline
  obtain ⟨plain, hplain, rfl⟩ := List.mem_map.mp hline
  exact newline_notMem_inRed (Text.newline_notMem_of_mem_lines hplain)

/-- A text in red has the lines of the text, in red. -/
theorem lines_highlight : Text.lines (highlight text) = (Text.lines text).map inRed := by
  have hkept : ((Text.lines text).map inRed).map Text.dropReturn = (Text.lines text).map inRed := by
    refine Text.map_dropReturn_eq_self_iff.mpr fun line hline => ?_
    obtain ⟨plain, -, rfl⟩ := List.mem_map.mp hline
    exact getLast?_inRed plain
  exact (Text.lines_unlines (newline_notMem_of_mem_map_inRed text)).trans hkept

/-- Taking the control sequences off a text in red leaves its lines. -/
theorem unhighlight_highlight : unhighlight (highlight text) = Text.unlines (Text.lines text) := by
  have hlines : (Text.lines text).map (withoutRed ∘ inRed) = Text.lines text := by
    rw [show withoutRed ∘ inRed = id from funext withoutRed_inRed, List.map_id]
  rw [unhighlight, lines_highlight, List.map_map, hlines]

/-- A text in red has a line feed for each line of the text. -/
theorem count_newline_highlight :
    (highlight text).count '\n' = (Text.lines text).length := by
  have hcount : (highlight text).count '\n' = ((Text.lines text).map inRed).length :=
    Text.count_newline_unlines (newline_notMem_of_mem_map_inRed text)
  rwa [List.length_map] at hcount

/-- The red is taken back right before each line feed. -/
theorem redOff_before_newline {before after : Text}
    (h : highlight text = before ++ '\n' :: after) : redOff <:+ before := by
  obtain ⟨start, line, hline, rfl⟩ :=
    Text.exists_line_of_unlines (newline_notMem_of_mem_map_inRed text) h
  obtain ⟨plain, -, rfl⟩ := List.mem_map.mp hline
  exact (List.suffix_append _ redOff).trans (List.suffix_append _ _)

end

/-! ## Results -/

/-- What results print with and without colour, under a policy whose window is no longer than a text
shown in full. A success prints the same. A failure prints in colour the lines that it prints
without, each of them between the control sequences and before a line feed. To take these off gives
what it prints without colour but for the carriage returns before line feeds, and just that if there
are none. There are as many line feeds in both, and in colour each of them comes right after the
control sequence that takes the red back. -/
theorem Result.prints_colored {policy : Policy}
    (window : policy.head.toNat + policy.tail.toNat ≤ policy.maxLines.toNat) (result : Result) :
    ∃ plain colored, result.Prints ⟨policy, false⟩ plain ∧ result.Prints ⟨policy, true⟩ colored ∧
      (result.isSuccess = true → colored = plain) ∧
      (result.isSuccess = false →
        colored = (Text.lines plain).flatMap
          (fun line => "\u001b[31m".toList ++ line ++ "\u001b[39m".toList ++ ['\n']) ∧
        unhighlight colored = Text.plainBreaks plain ∧
        (¬ ['\r', '\n'] <:+: plain → unhighlight colored = plain) ∧
        colored.count '\n' = plain.count '\n' ∧
        ∀ before after, colored = before ++ '\n' :: after →
          "\u001b[39m".toList <:+ before) := by
  have fits := Policy.fits_of_le window
  cases result with
  | success stdout =>
    exact ⟨_, _, prints_success fits stdout false, prints_success fits stdout true, fun _ => rfl,
      nofun⟩
  | failure cause stderr =>
    let plain := (Excerpt.ofText policy stderr).render
    have hended : Text.atLineStart plain = true := Excerpt.atLineStart_render _
    have hoff : unhighlight (highlight plain) = Text.plainBreaks plain := by
      rw [unhighlight_highlight, Text.unlines_lines hended]
    refine ⟨plain, highlight plain, prints_failure fits cause stderr,
      prints_failure_colored fits cause stderr, nofun, fun _ => ⟨?wrapped, hoff, ?same, ?count,
        fun before after => redOff_before_newline plain⟩⟩
    case wrapped =>
      rw [highlight, Text.unlines, List.flatMap_map]
      rfl
    case same =>
      intro hreturns
      rw [hoff, Text.plainBreaks_of_not_infix hreturns]
    case count =>
      rw [count_newline_highlight, Text.count_newline_eq_length_lines hended]

/-- A failure with a line that ends in a carriage return and one that does not, in colour and
without. -/
theorem Result.prints_colored_returns :
    let policy : Policy := ⟨3, 1, 1⟩
    let result : Result := .ofStatus 2 "a\r\n\nb".toList
    policy.head.toNat + policy.tail.toNat ≤ policy.maxLines.toNat ∧ result.isSuccess = false ∧
    ∃ colored, result.Prints ⟨policy, false⟩ "a\r\n\nb\n".toList ∧
      result.Prints ⟨policy, true⟩ colored ∧ unhighlight colored = "a\n\nb\n".toList ∧
      colored.count '\n' = 3 := by
  intro policy result
  have window : policy.head.toNat + policy.tail.toNat ≤ policy.maxLines.toNat := by decide
  have hfailed : result.isSuccess = false := rfl
  obtain ⟨plain, colored, hplain, hcolored, -, hfailure⟩ := prints_colored window result
  obtain ⟨-, hoff, -, hcount, -⟩ := hfailure hfailed
  have htext : plain = "a\r\n\nb\n".toList := by
    have hvalue : result.render ⟨policy, false⟩ = .ok "a\r\n\nb\n".toList := by decide +kernel
    exact Except.ok.inj (hplain.render.symm.trans hvalue)
  subst htext
  exact ⟨window, hfailed, colored, hplain, hcolored, hoff.trans (by decide +kernel), hcount⟩

end Runbook
