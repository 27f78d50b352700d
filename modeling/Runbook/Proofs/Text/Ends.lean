import Runbook.Proofs.Text.LineEnds
import Runbook.Proofs.Text.Trim

/-!
# Lines and blank ends

Blanks that are put around a text are taken away again by trimming (`Text.trim_between`). The lines
of the trimmed text are lines of the text but for blanks at their ends (`Text.LosesBlanks`): blanks
before the text are lines of their own up to their last line feed and then go before its first line,
and those after it go after its last line up to a line feed
(`Text.exists_line_of_mem_lines_trim`).

Lines of a trimmed text may be blank, but the first one and the last one are not
(`Text.blank_of_head?_lines`, `Text.blank_of_getLast?_lines`): they start or end with the character
that the text starts or ends with, since only blank characters are part of line ends. When such
lines are completed, all that trimming takes from them is the line feed after the last
(`Text.lines_trim_unlines`).
-/

namespace Runbook.Text

/-! ## Blanks at the ends of a line -/

/-- `left` is the line without some of the blanks at its ends. -/
def LosesBlanks (line left : Text) : Prop :=
  ∃ before after, blank before = true ∧ blank after = true ∧ line = before ++ left ++ after

namespace LosesBlanks

variable {line middle left before after : Text}

/-- Blanks that are lost were at the start or at the end. -/
theorem of_append_left (h : blank before = true) (left : Text) :
    LosesBlanks (before ++ left) left := ⟨before, [], h, rfl, (List.append_nil _).symm⟩

theorem of_append_right (left : Text) (h : blank after = true) :
    LosesBlanks (left ++ after) left := ⟨[], after, rfl, h, rfl⟩

/-- A line may lose no blanks. -/
theorem refl (line : Text) : LosesBlanks line line := ⟨[], [], rfl, rfl, (List.append_nil _).symm⟩

/-- A line that has lost blanks may lose some more. -/
theorem trans (h : LosesBlanks line middle) (h' : LosesBlanks middle left) :
    LosesBlanks line left := by
  obtain ⟨before, after, hbefore, hafter, rfl⟩ := h
  obtain ⟨before', after', hbefore', hafter', rfl⟩ := h'
  refine ⟨before ++ before', after' ++ after, ?_, ?_, by simp only [List.append_assoc]⟩
  · rw [blank_append, hbefore, hbefore', Bool.and_self]
  · rw [blank_append, hafter, hafter', Bool.and_self]

/-- What is left is blank if the line was. -/
theorem blank_eq (h : LosesBlanks line left) : blank left = blank line := by
  obtain ⟨before, after, hbefore, hafter, rfl⟩ := h
  rw [blank_append, blank_append, hbefore, hafter, Bool.true_and, Bool.and_true]

/-- The carriage return at the end of a line is a blank. -/
theorem dropReturn (line : Text) : LosesBlanks line (dropReturn line) := by
  rcases eq_dropReturn_or line with hkept | hdropped
  · rw [← hkept]
    exact refl line
  · have hreturn : blank ['\r'] = true := rfl
    have hline := of_append_right (Text.dropReturn line) hreturn
    rwa [← hdropped] at hline

end LosesBlanks

/-- A text that goes on after a character other than a carriage return loses the one at the end of
what follows. -/
theorem dropReturn_append {s : Text} (h : s.getLast? ≠ some '\r') (t : Text) :
    dropReturn (s ++ t) = s ++ dropReturn t := by
  rcases List.eq_nil_or_concat' t with rfl | ⟨start, c, rfl⟩
  · rw [List.append_nil, dropReturn_of_getLast? h]
    exact (List.append_nil s).symm
  · rw [← List.append_assoc, dropReturn, dropReturn, List.getLast?_concat, List.getLast?_concat,
      List.dropLast_concat, List.dropLast_concat]
    split
    · rfl
    · exact List.append_assoc s start [c]

/-! ## Blanks around a text -/

/-- Blanks around a text have no influence on what trimming leaves of it. -/
theorem trim_between {before after : Text} (hbefore : blank before = true)
    (hafter : blank after = true) (t : Text) : trim (before ++ t ++ after) = trim t := by
  obtain ⟨start, finish, hstart, hfinish, ht⟩ := exists_trim t
  have hleft : blank (before ++ start) = true := by
    rw [blank_append, hbefore, hstart, Bool.and_self]
  have hright : blank (finish ++ after) = true := by
    rw [blank_append, hfinish, hafter, Bool.and_self]
  calc trim (before ++ t ++ after)
    _ = trim ((before ++ start) ++ trim t ++ (finish ++ after)) := by
        conv_lhs => rw [ht]
        simp only [List.append_assoc]
    _ = trim t := trim_of_tight hleft (tight_trim t) hright

/-- Something is left of a text that is not blank. -/
theorem trim_ne_nil {t : Text} (h : blank t = false) : trim t ≠ [] := by
  intro hnil
  obtain ⟨before, after, hbefore, hafter, ht⟩ := exists_trim t
  rw [ht, hnil, blank_append, blank_append, hbefore, hafter] at h
  cases h

/-! ## The first line -/

/-- A character that is not blank is the first one of a line. -/
theorem foldr_lineStep_visible {c : Char} (h : isBlank c = false) (t : Text) :
    ∃ line more, (c :: t).foldr lineStep (false, []) = (false, (c :: line) :: more) := by
  have hfeed : c ≠ '\n' := by
    rintro rfl
    cases h
  have hreturn : c ≠ '\r' := by
    rintro rfl
    cases h
  rw [List.foldr_cons, lineStep, if_neg hfeed, if_neg fun hboth => hreturn hboth.1]
  cases (t.foldr lineStep (false, [])).2 with
  | nil => exact ⟨[], [], rfl⟩
  | cons line more => exact ⟨line, more, rfl⟩

/-- The first line of a text that does not start with a blank does not start with one either. -/
theorem exists_visible_start {t line : Text} (ht : ∀ c ∈ t.head?, isBlank c = false)
    (h : (lines t).head? = some line) : ∃ c ∈ line.head?, isBlank c = false := by
  cases t with
  | nil => cases h
  | cons c t =>
    have hc : isBlank c = false := ht c rfl
    obtain ⟨first, more, hfold⟩ := foldr_lineStep_visible hc t
    rw [lines, hfold, List.head?_cons] at h
    rw [← Option.some.inj h]
    exact ⟨c, rfl, hc⟩

/-- The first line of a text that does not start with a blank is not blank. -/
theorem blank_of_head?_lines {t line : Text} (ht : ∀ c ∈ t.head?, isBlank c = false)
    (h : (lines t).head? = some line) : blank line = false := by
  obtain ⟨c, hc, hvisible⟩ := exists_visible_start ht h
  exact blank_eq_false_iff.mpr ⟨c, List.mem_of_mem_head? hc, hvisible⟩

/-- Blanks before a text that does not start with one leave its lines as they are, but for blanks
before the first line. -/
theorem exists_line_append_left {before t line : Text} (hbefore : blank before = true)
    (ht : ∀ c ∈ t.head?, isBlank c = false) (h : line ∈ lines t) :
    ∃ whole ∈ lines (before ++ t), LosesBlanks whole line := by
  cases t with
  | nil => cases h
  | cons c t =>
    obtain ⟨ls, lead, rfl, hls, hlead⟩ := exists_unlines_append before
    obtain ⟨first, more, hfold⟩ := foldr_lineStep_visible (ht c rfl) t
    have hblank : blank lead = true := by
      rw [blank_append, Bool.and_eq_true] at hbefore
      exact hbefore.2
    have hlines : lines (c :: t) = (c :: first) :: more := congrArg Prod.snd hfold
    have hwhole : lines (lead ++ c :: t) = (lead ++ c :: first) :: more := by
      rw [lines, List.foldr_append, hfold, foldr_lineStep_started hlead]
    rw [List.append_assoc, lines_unlines_append hls, hwhole]
    rw [hlines] at h
    rcases List.mem_cons.mp h with rfl | hmore
    · exact ⟨lead ++ c :: first, List.mem_append_right _ List.mem_cons_self,
        .of_append_left hblank _⟩
    · exact ⟨line, List.mem_append_right _ (List.mem_cons_of_mem _ hmore), .refl line⟩

/-! ## The last line -/

/-- A line that does not end in a blank goes on with the blanks after it, up to a line feed. -/
theorem lines_append_blank {last after : Text} (hlast : '\n' ∉ last) (hne : last ≠ [])
    (hvisible : ∀ c ∈ last.getLast?, isBlank c = false) (hafter : blank after = true) :
    ∃ trail more, blank trail = true ∧ lines (last ++ after) = (last ++ trail) :: more := by
  obtain ⟨ls, rest, rfl, hls, hrest⟩ := exists_unlines_append after
  rw [blank_append, Bool.and_eq_true] at hafter
  cases ls with
  | nil =>
    refine ⟨rest, [], hafter.2, lines_unfinished ?_ (List.append_ne_nil_of_left_ne_nil hne rest)⟩
    exact fun hmem => (List.mem_append.mp hmem).elim hlast hrest
  | cons line ls =>
    obtain ⟨hline, -⟩ := List.forall_mem_cons.mp hls
    have hblank : blank line = true := by
      have hfirst := hafter.1
      rw [unlines_cons, blank_append, Bool.and_eq_true] at hfirst
      exact hfirst.1
    have hreturn : last.getLast? ≠ some '\r' := by
      intro hreturn
      exact absurd (hvisible '\r' hreturn) (by decide)
    have hnewline : '\n' ∉ last ++ line := fun hmem => (List.mem_append.mp hmem).elim hlast hline
    have hshape : last ++ (unlines (line :: ls) ++ rest) =
        (last ++ line) ++ '\n' :: (unlines ls ++ rest) := by
      rw [unlines_cons]
      simp only [List.append_assoc, List.cons_append]
    refine ⟨dropReturn line, lines (unlines ls ++ rest), ?_, ?_⟩
    · rw [(LosesBlanks.dropReturn line).blank_eq, hblank]
    · rw [hshape, lines_append_newline, lines_line hnewline, dropReturn_append hreturn]
      rfl

/-- The last line of a text that does not end in a blank does not end in one either. -/
theorem exists_visible_end {t line : Text} (ht : ∀ c ∈ t.getLast?, isBlank c = false)
    (h : (lines t).getLast? = some line) : ∃ c ∈ line.getLast?, isBlank c = false := by
  obtain ⟨ls, last, rfl, hls, hlast⟩ := exists_unlines_append t
  by_cases hne : last = []
  · subst hne
    rw [List.append_nil] at ht h
    have hlines : ls ≠ [] := by
      rintro rfl
      cases h
    exact absurd (ht '\n' (getLast?_unlines hlines)) (by decide)
  · rw [lines_unlines_append hls, lines_unfinished hlast hne, List.getLast?_concat] at h
    rw [List.getLast?_append_of_ne_nil _ hne] at ht
    rw [← Option.some.inj h]
    have hend := List.getLast_mem_getLast? hne
    exact ⟨last.getLast hne, hend, ht _ hend⟩

/-- The last line of a text that does not end in a blank is not blank. -/
theorem blank_of_getLast?_lines {t line : Text} (ht : ∀ c ∈ t.getLast?, isBlank c = false)
    (h : (lines t).getLast? = some line) : blank line = false := by
  obtain ⟨c, hc, hvisible⟩ := exists_visible_end ht h
  exact blank_eq_false_iff.mpr ⟨c, List.mem_of_mem_getLast? hc, hvisible⟩

/-- Blanks after a text that does not end in one leave its lines as they are, but for blanks after
the last line. -/
theorem exists_line_append_right {t after line : Text} (hafter : blank after = true)
    (ht : ∀ c ∈ t.getLast?, isBlank c = false) (h : line ∈ lines t) :
    ∃ whole ∈ lines (t ++ after), LosesBlanks whole line := by
  obtain ⟨ls, last, rfl, hls, hlast⟩ := exists_unlines_append t
  rw [List.append_assoc, lines_unlines_append hls]
  rw [lines_unlines_append hls] at h
  rcases List.mem_append.mp h with hended | hopen
  · exact ⟨line, List.mem_append_left _ hended, .refl line⟩
  · have hne : last ≠ [] := by
      rintro rfl
      cases hopen
    rw [List.getLast?_append_of_ne_nil _ hne] at ht
    rw [lines_unfinished hlast hne, List.mem_singleton] at hopen
    obtain ⟨trail, more, htrail, hlines⟩ := lines_append_blank hlast hne ht hafter
    rw [hopen, hlines]
    exact ⟨last ++ trail, List.mem_append_right _ List.mem_cons_self, .of_append_right last htrail⟩

/-! ## The lines of a trimmed text -/

/-- Each line of a trimmed text is a line of the text, but for blanks at its ends. -/
theorem exists_line_of_mem_lines_trim {t line : Text} (h : line ∈ lines (trim t)) :
    ∃ whole ∈ lines t, LosesBlanks whole line := by
  obtain ⟨before, after, hbefore, hafter, ht⟩ := exists_trim t
  have htight := tight_trim t
  have hstart : ∀ c ∈ (trim t ++ after).head?, isBlank c = false := by
    have hne : trim t ≠ [] := by
      intro hnil
      rw [hnil] at h
      cases h
    rw [List.head?_append_of_ne_nil _ hne]
    exact htight.start
  obtain ⟨middle, hmiddle, hleft⟩ := exists_line_append_right hafter htight.finish h
  obtain ⟨whole, hwhole, hright⟩ := exists_line_append_left hbefore hstart hmiddle
  rw [← List.append_assoc, ← ht] at hwhole
  exact ⟨whole, hwhole, hright.trans hleft⟩

/-- A text that is not blank has a line that is not. -/
theorem exists_visible_line {t : Text} (h : blank t = false) :
    ∃ line ∈ lines t, blank line = false := by
  obtain ⟨first, more, hlines⟩ := List.exists_cons_of_ne_nil (lines_ne_nil (trim_ne_nil h))
  have hfirst : first ∈ lines (trim t) := by
    rw [hlines]
    exact List.mem_cons_self
  have hhead : (lines (trim t)).head? = some first := by rw [hlines, List.head?_cons]
  obtain ⟨whole, hwhole, hleft⟩ := exists_line_of_mem_lines_trim hfirst
  refine ⟨whole, hwhole, ?_⟩
  rw [← hleft.blank_eq]
  exact blank_of_head?_lines (tight_trim t).start hhead

/-! ## Trimming complete lines -/

/-- The line feed that ends a text is trimmed away again. -/
theorem trim_endLine (t : Text) : trim (endLine t) = trim t := by
  rw [endLine]
  split
  · rfl
  · have hnothing : blank [] = true := rfl
    exact trim_between hnothing (by decide) t

/-- Trimming complete lines takes away the line feed after the last of them and nothing else, if the
first does not start with a blank and the last does not end in one. -/
theorem lines_trim_unlines {ls : List Text} (h : ∀ line ∈ ls, '\n' ∉ line)
    (hstart : ∃ line ∈ ls.head?, ∃ c ∈ line.head?, isBlank c = false)
    (hfinish : ∃ line ∈ ls.getLast?, ∃ c ∈ line.getLast?, isBlank c = false) :
    lines (trim (unlines ls)) = ls.map dropReturn := by
  obtain ⟨last, hlast, c, hc, hvisible⟩ := hfinish
  obtain ⟨start, rfl⟩ := List.getLast?_eq_some_iff.mp hlast
  have hnewline : '\n' ∉ last := h last (List.mem_append_right _ (List.mem_singleton_self last))
  have hstarts : ∀ line ∈ start, '\n' ∉ line := fun line hline =>
    h line (List.mem_append_left _ hline)
  have hne : last ≠ [] := by
    rintro rfl
    cases hc
  have hbody : unlines (start ++ [last]) = [] ++ (unlines start ++ last) ++ ['\n'] := by
    rw [unlines_append, unlines_cons, List.nil_append, List.append_assoc]
    rfl
  have htight : Tight (unlines start ++ last) := by
    constructor
    · obtain ⟨line, hline, d, hd, hdvisible⟩ := hstart
      intro e he
      have hsame : e = d := by
        cases start with
        | nil =>
          obtain rfl : last = line := Option.some.inj hline
          exact Option.some.inj (he.symm.trans hd)
        | cons first rest =>
          obtain rfl : first = line := Option.some.inj hline
          rw [unlines_cons, List.append_assoc, List.head?_append, hd, Option.some_or] at he
          exact (Option.some.inj he).symm
      rwa [hsame]
    · intro e he
      rw [List.getLast?_append_of_ne_nil _ hne] at he
      have hsame : e = c := Option.some.inj (he.symm.trans hc)
      rwa [hsame]
  have hkept : dropReturn last = last := by
    refine dropReturn_of_getLast? fun hreturn => ?_
    have hsame : '\r' = c := Option.some.inj (hreturn.symm.trans hc)
    rw [← hsame] at hvisible
    cases hvisible
  rw [hbody, trim_of_tight rfl htight (by decide), lines_unlines_append hstarts,
    lines_unfinished hnewline hne, List.map_append, List.map_singleton, hkept]

end Runbook.Text
