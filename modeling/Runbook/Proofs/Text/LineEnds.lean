import Runbook.Proofs.Text
import Runbook.Proofs.Text.Lines

/-!
# Where lines end

A text is made of complete lines, which have a line feed after them, and of what follows the last
line feed (`Text.exists_unlines_append`). Cutting it takes one carriage return from the end of each
complete line, and nothing from what follows them (`Text.lines_unlines_append`). So a text whose
lines are all complete is put together again from its lines but for the carriage returns before line
feeds (`Text.unlines_lines`). To end an unfinished line changes a line only if the text ends in a
carriage return, which is then one before a line feed (`Text.lines_endLine`,
`Text.lines_endLine_return`). Putting complete lines together loses nothing of them
(`Text.unlines_inj`).
-/

namespace Runbook.Text

/-- A line without the carriage return at its end, if it has one there. -/
def dropReturn (line : Text) : Text := if line.getLast? = some '\r' then line.dropLast else line

/-- A text without the carriage returns that stand before line feeds. -/
def plainBreaks : Text → Text
  | [] => []
  | c :: t => if c = '\r' ∧ t.head? = some '\n' then plainBreaks t else c :: plainBreaks t

/-! ## Carriage returns -/

section
variable {line : Text}

/-- The carriage return at the end of a line is dropped. -/
@[simp] theorem dropReturn_concat_return (line : Text) : dropReturn (line ++ ['\r']) = line := by
  rw [dropReturn, if_pos List.getLast?_concat, List.dropLast_concat]

/-- A line that does not end in a carriage return is left as it is. -/
theorem dropReturn_of_getLast? (h : line.getLast? ≠ some '\r') : dropReturn line = line := if_neg h

/-- A line is left as it is just if it does not end in a carriage return. -/
theorem dropReturn_eq_self_iff : dropReturn line = line ↔ line.getLast? ≠ some '\r' := by
  refine ⟨fun h hlast => ?_, dropReturn_of_getLast?⟩
  obtain ⟨start, rfl⟩ := List.getLast?_eq_some_iff.mp hlast
  rw [dropReturn_concat_return] at h
  exact List.cons_ne_nil _ _ (List.self_eq_append_right.mp h)

/-- All that can be dropped is one carriage return. -/
theorem eq_dropReturn_or (line : Text) :
    line = dropReturn line ∨ line = dropReturn line ++ ['\r'] := by
  by_cases hlast : line.getLast? = some '\r'
  · obtain ⟨start, rfl⟩ := List.getLast?_eq_some_iff.mp hlast
    exact .inr (by rw [dropReturn_concat_return])
  · exact .inl (dropReturn_of_getLast? hlast).symm

/-- Lines are left as they are just if none of them ends in a carriage return. -/
theorem map_dropReturn_eq_self_iff {ls : List Text} :
    ls.map dropReturn = ls ↔ ∀ line ∈ ls, line.getLast? ≠ some '\r' := by
  have hsame : ls.map dropReturn = ls.map id ↔ ∀ line ∈ ls, dropReturn line = line :=
    List.map_inj_left
  rw [List.map_id] at hsame
  rw [hsame]
  exact forall₂_congr fun _ _ => dropReturn_eq_self_iff

/-- Only the last character can be dropped. -/
theorem dropReturn_cons_cons (c d : Char) (line : Text) :
    dropReturn (c :: d :: line) = c :: dropReturn (d :: line) := by
  simp only [dropReturn, List.getLast?_cons_cons, List.dropLast_cons_cons]
  split <;> rfl

/-- What is left of a line is part of it. -/
theorem mem_of_mem_dropReturn {c : Char} (h : c ∈ dropReturn line) : c ∈ line := by
  rcases eq_dropReturn_or line with heq | heq
  · rwa [heq]
  · rw [heq]
    exact List.mem_append_left _ h

end

/-! ## One line -/

/-- A line has no line feed at its end nor before it. -/
theorem newline_notMem_concat {start : Text} {c : Char} :
    '\n' ∉ start ++ [c] ↔ '\n' ∉ start ∧ c ≠ '\n' := by
  rw [List.mem_append, List.mem_singleton, not_or, ne_comm]

/-- Once a line has a character, the characters before it are put before it, up to a line feed. -/
theorem foldr_lineStep_started {start : Text} (h : '\n' ∉ start) (line : Text)
    (more : List Text) :
    start.foldr lineStep (false, line :: more) = (false, (start ++ line) :: more) := by
  induction start with
  | nil => rfl
  | cons c start ih =>
    obtain ⟨hc, hstart⟩ := List.ne_and_not_mem_of_not_mem_cons h
    rw [List.foldr_cons, ih hstart, lineStep, if_neg (Ne.symm hc), if_neg (by simp)]
    rfl

/-- A line that is not ended is a line as it stands. -/
theorem lines_unfinished {last : Text} (h : '\n' ∉ last) (hne : last ≠ []) :
    lines last = [last] := by
  obtain ⟨start, c, rfl⟩ := (List.eq_nil_or_concat' last).resolve_left hne
  obtain ⟨hstart, hc⟩ := newline_notMem_concat.mp h
  have first : lineStep c (false, []) = (false, [[c]]) := by
    rw [lineStep, if_neg hc, if_neg (by simp)]
  rw [lines, List.foldr_append, List.foldr_cons, List.foldr_nil, first,
    foldr_lineStep_started hstart]

/-- A line that is ended by a line feed loses a carriage return at its end. -/
theorem lines_line {line : Text} (h : '\n' ∉ line) :
    lines (line ++ ['\n']) = [dropReturn line] := by
  have ended : lineStep '\n' (false, []) = (true, [[]]) := rfl
  rw [lines, List.foldr_append, List.foldr_cons, List.foldr_nil, ended]
  rcases List.eq_nil_or_concat' line with rfl | ⟨start, c, rfl⟩
  · rfl
  · obtain ⟨hstart, hc⟩ := newline_notMem_concat.mp h
    rw [List.foldr_append, List.foldr_cons, List.foldr_nil, lineStep, if_neg hc]
    by_cases hreturn : c = '\r'
    · subst hreturn
      rw [if_pos ⟨rfl, rfl⟩, foldr_lineStep_started hstart, dropReturn_concat_return,
        List.append_nil]
    · have hkept : dropReturn (start ++ [c]) = start ++ [c] :=
        dropReturn_of_getLast? (by simpa using hreturn)
      rw [if_neg fun hboth => hreturn hboth.1, hkept]
      exact congrArg Prod.snd (foldr_lineStep_started hstart [c] [])

/-! ## Complete lines and the rest -/

/-- The first of several lines, its line feed, and the others. -/
theorem unlines_cons (line : Text) (ls : List Text) :
    unlines (line :: ls) = line ++ '\n' :: unlines ls := by
  rw [unlines, List.flatMap_cons, List.append_assoc]
  rfl

/-- Several lines and others after them. -/
theorem unlines_append (ls more : List Text) : unlines (ls ++ more) = unlines ls ++ unlines more :=
  List.flatMap_append

/-- Complete lines end where a line starts. -/
theorem atLineStart_unlines (ls : List Text) : atLineStart (unlines ls) = true := by
  by_cases hnil : ls = []
  · subst hnil
    rfl
  · exact atLineStart_iff.mpr (.inr (getLast?_unlines hnil))

/-- Complete lines are cut into themselves, each without a carriage return at its end. -/
theorem lines_unlines {ls : List Text} (h : ∀ line ∈ ls, '\n' ∉ line) :
    lines (unlines ls) = ls.map dropReturn := by
  induction ls with
  | nil => rfl
  | cons line ls ih =>
    obtain ⟨hline, hls⟩ := List.forall_mem_cons.mp h
    rw [unlines_cons, lines_append_newline, lines_line hline, ih hls]
    rfl

/-- Lines without line feeds are told by the text that they make. -/
theorem unlines_inj {ls ls' : List Text} (h : ∀ line ∈ ls, '\n' ∉ line)
    (h' : ∀ line ∈ ls', '\n' ∉ line) (heq : unlines ls = unlines ls') : ls = ls' := by
  induction ls generalizing ls' with
  | nil =>
    cases ls' with
    | nil => rfl
    | cons line' ls' =>
      rw [unlines_cons] at heq
      exact absurd heq.symm (List.append_ne_nil_of_right_ne_nil _ (List.cons_ne_nil _ _))
  | cons line ls ih =>
    obtain ⟨hline, hls⟩ := List.forall_mem_cons.mp h
    cases ls' with
    | nil =>
      rw [unlines_cons] at heq
      exact absurd heq (List.append_ne_nil_of_right_ne_nil _ (List.cons_ne_nil _ _))
    | cons line' ls' =>
      obtain ⟨hline', hls'⟩ := List.forall_mem_cons.mp h'
      have inside : ∀ {line : Text}, '\n' ∉ line → ∀ c ∈ line, (c != '\n') = true :=
        fun hline c hc => bne_iff_ne.mpr fun hnewline => hline (hnewline ▸ hc)
      rw [unlines_cons, unlines_cons] at heq
      obtain ⟨rfl, hrest⟩ :=
        append_inj_of_span (inside hline) (by simp) (inside hline') (by simp) heq
      rw [ih hls hls' (List.cons.inj hrest).2]

/-- What follows complete lines is cut on its own. -/
theorem lines_unlines_append {ls : List Text} (h : ∀ line ∈ ls, '\n' ∉ line) (rest : Text) :
    lines (unlines ls ++ rest) = ls.map dropReturn ++ lines rest := by
  rw [lines_append (atLineStart_unlines ls), lines_unlines h]

/-- Each line feed of complete lines ends one of them. -/
theorem exists_line_of_unlines {ls : List Text} (h : ∀ line ∈ ls, '\n' ∉ line)
    {before after : Text} (hsplit : unlines ls = before ++ '\n' :: after) :
    ∃ start, ∃ line ∈ ls, before = unlines start ++ line := by
  induction ls generalizing before with
  | nil => exact absurd hsplit.symm (List.append_ne_nil_of_right_ne_nil _ (List.cons_ne_nil _ _))
  | cons line ls ih =>
    obtain ⟨hline, hls⟩ := List.forall_mem_cons.mp h
    rw [unlines_cons] at hsplit
    rcases List.append_eq_append_iff.mp hsplit with ⟨gap, hbefore, hrest⟩ | ⟨gap, hgap, hrest⟩
    · cases gap with
      | nil => exact ⟨[], line, List.mem_cons_self, by rw [hbefore, List.append_nil]; rfl⟩
      | cons c gap =>
        obtain ⟨rfl, hmore⟩ := List.cons.inj hrest
        obtain ⟨start, found, hfound, hgap⟩ := ih hls hmore
        refine ⟨line :: start, found, List.mem_cons_of_mem _ hfound, ?_⟩
        rw [hbefore, hgap, unlines_cons, List.append_assoc, List.cons_append]
    · -- The line feed would have to be inside the first line.
      cases gap with
      | nil => exact ⟨[], line, List.mem_cons_self, by rw [hgap, List.append_nil]; rfl⟩
      | cons c gap =>
        obtain ⟨rfl, -⟩ := List.cons.inj hrest
        exact absurd (by rw [hgap]; simp) hline

/-- A text is complete lines and what follows its last line feed. -/
theorem exists_unlines_append (t : Text) : ∃ ls last, t = unlines ls ++ last ∧
    (∀ line ∈ ls, '\n' ∉ line) ∧ '\n' ∉ last := by
  induction t with
  | nil => exact ⟨[], [], rfl, nofun, List.not_mem_nil⟩
  | cons c t ih =>
    obtain ⟨ls, last, rfl, hls, hlast⟩ := ih
    by_cases hc : c = '\n'
    · subst hc
      exact ⟨[] :: ls, last, rfl, List.forall_mem_cons.mpr ⟨List.not_mem_nil, hls⟩, hlast⟩
    · cases ls with
      | nil =>
        refine ⟨[], c :: last, rfl, nofun, ?_⟩
        exact List.not_mem_cons_of_ne_of_not_mem (Ne.symm hc) hlast
      | cons line ls =>
        obtain ⟨hline, hls⟩ := List.forall_mem_cons.mp hls
        refine ⟨(c :: line) :: ls, last, rfl, List.forall_mem_cons.mpr ⟨?_, hls⟩, hlast⟩
        exact List.not_mem_cons_of_ne_of_not_mem (Ne.symm hc) hline

/-- A text that ends where a line starts has complete lines only. -/
theorem exists_unlines {t : Text} (h : atLineStart t = true) :
    ∃ ls, t = unlines ls ∧ ∀ line ∈ ls, '\n' ∉ line := by
  obtain ⟨ls, last, rfl, hls, hlast⟩ := exists_unlines_append t
  rcases List.eq_nil_or_concat' last with rfl | ⟨start, c, rfl⟩
  · exact ⟨ls, List.append_nil _, hls⟩
  · rcases atLineStart_iff.mp h with hnil | hend
    · simp at hnil
    · rw [← List.append_assoc, List.getLast?_concat, Option.some.injEq] at hend
      exact absurd hend (newline_notMem_concat.mp hlast).2

/-- A line of a text was ended in it, and is what is left of a complete line, or it is what follows
the last line feed. -/
theorem cases_of_mem_lines {t line : Text} (h : line ∈ lines t) :
    (∃ before whole after, t = before ++ whole ++ '\n' :: after ∧ '\n' ∉ whole ∧
      line = dropReturn whole) ∨
    (∃ before, t = before ++ line ∧ '\n' ∉ line ∧ line ≠ []) := by
  obtain ⟨ls, last, rfl, hls, hlast⟩ := exists_unlines_append t
  rw [lines_unlines_append hls] at h
  rcases List.mem_append.mp h with hended | hopen
  · obtain ⟨whole, hwhole, rfl⟩ := List.mem_map.mp hended
    have hnewline := hls whole hwhole
    obtain ⟨before, after, rfl⟩ := List.append_of_mem hwhole
    refine .inl ⟨unlines before, whole, unlines after ++ last, ?_, hnewline, rfl⟩
    rw [unlines_append, unlines_cons]
    simp only [List.append_assoc, List.cons_append]
  · have hne : last ≠ [] := by
      rintro rfl
      cases hopen
    rw [lines_unfinished hlast hne, List.mem_singleton] at hopen
    subst hopen
    exact .inr ⟨unlines ls, rfl, hlast, hne⟩

/-- No line has a line feed in it. -/
theorem newline_notMem_of_mem_lines {t line : Text} (h : line ∈ lines t) : '\n' ∉ line := by
  rcases cases_of_mem_lines h with ⟨-, whole, -, -, hwhole, rfl⟩ | ⟨-, -, hline, -⟩
  · exact fun hmem => hwhole (mem_of_mem_dropReturn hmem)
  · exact hline

/-- A line that ends in a carriage return is at the end of the text, or has lost another one there.
-/
theorem return_of_mem_lines {t line : Text} (h : line ∈ lines t)
    (hreturn : line.getLast? = some '\r') :
    t.getLast? = some '\r' ∨ ['\r', '\r', '\n'] <:+: t := by
  rcases cases_of_mem_lines h with ⟨before, whole, after, rfl, -, rfl⟩ | ⟨before, rfl, -, -⟩
  · rcases eq_dropReturn_or whole with hkept | hdropped
    · rw [← hkept] at hreturn
      exact absurd hreturn (dropReturn_eq_self_iff.mp hkept.symm)
    · obtain ⟨start, hstart⟩ := List.getLast?_eq_some_iff.mp hreturn
      refine .inr ⟨before ++ start, after, ?_⟩
      rw [hdropped, hstart]
      simp only [List.append_assoc, List.cons_append, List.nil_append]
  · exact .inl (by rw [List.getLast?_append, hreturn, Option.some_or])

/-! ## Ending the last line -/

/-- A text that does not end in a carriage return keeps its lines when the last of them is ended. -/
theorem lines_endLine {t : Text} (hne : t ≠ []) (h : t.getLast? ≠ some '\r') :
    lines (endLine t) = lines t := by
  rw [endLine]
  split
  · rfl
  · next hopen =>
    obtain ⟨ls, last, rfl, hls, hlast⟩ := exists_unlines_append t
    have hlast' : last ≠ [] := by
      rintro rfl
      rw [List.append_nil] at hne hopen
      exact (atLineStart_iff.mp (atLineStart_unlines ls)).elim hne hopen
    rw [List.getLast?_append_of_ne_nil _ hlast'] at h
    rw [List.append_assoc, lines_unlines_append hls, lines_unlines_append hls, lines_line hlast,
      lines_unfinished hlast hlast', dropReturn_of_getLast? h]

/-- A text that ends in a carriage return loses that, and nothing else, when its last line is ended.
-/
theorem lines_endLine_return (t : Text) : ∃ start last,
    lines (t ++ ['\r']) = start ++ [last ++ ['\r']] ∧
      lines (endLine (t ++ ['\r'])) = start ++ [last] := by
  obtain ⟨ls, last, rfl, hls, hlast⟩ := exists_unlines_append t
  have hreturn : '\n' ∉ last ++ ['\r'] := by simpa using hlast
  have hopen : (unlines ls ++ last ++ ['\r']).getLast? ≠ some '\n' := by simp
  refine ⟨ls.map dropReturn, last, ?_, ?_⟩
  · rw [List.append_assoc, lines_unlines_append hls, lines_unfinished hreturn (by simp)]
  · rw [endLine, if_neg hopen, List.append_assoc, List.append_assoc, ← List.append_assoc last,
      lines_unlines_append hls, lines_line hreturn, dropReturn_concat_return]

/-! ## Putting lines together again -/

/-- The first line of a text and its line feed, without the carriage return between them. -/
theorem plainBreaks_line {line : Text} (h : '\n' ∉ line) (t : Text) :
    plainBreaks (line ++ '\n' :: t) = dropReturn line ++ '\n' :: plainBreaks t := by
  induction line with
  | nil => rfl
  | cons c line ih =>
    obtain ⟨hc, hline⟩ := List.ne_and_not_mem_of_not_mem_cons h
    rw [List.cons_append, plainBreaks]
    cases line with
    | nil =>
      by_cases hreturn : c = '\r'
      · subst hreturn
        rfl
      · rw [if_neg fun hboth => hreturn hboth.1, dropReturn_of_getLast? (by simpa using hreturn)]
        rfl
    | cons d line =>
      have hd : d ≠ '\n' := fun hd => hline (by simp [hd])
      rw [if_neg fun hboth => hd (Option.some.inj hboth.2), ih hline, dropReturn_cons_cons]
      rfl

/-- The lines of a text that ends where a line starts make up the text again, but for the carriage
returns before its line feeds. -/
theorem unlines_lines {t : Text} (h : atLineStart t = true) :
    unlines (lines t) = plainBreaks t := by
  obtain ⟨ls, rfl, hls⟩ := exists_unlines h
  rw [lines_unlines hls]
  induction ls with
  | nil => rfl
  | cons line ls ih =>
    obtain ⟨hline, hls⟩ := List.forall_mem_cons.mp hls
    rw [unlines_cons, plainBreaks_line hline, ← ih hls (atLineStart_unlines ls), List.map_cons,
      unlines_cons]

/-- A text without a carriage return before a line feed has none to lose. -/
theorem plainBreaks_of_not_infix {t : Text} (h : ¬ ['\r', '\n'] <:+: t) : plainBreaks t = t := by
  induction t with
  | nil => rfl
  | cons c t ih =>
    have hc : ¬ (c = '\r' ∧ t.head? = some '\n') := by
      rintro ⟨rfl, hhead⟩
      obtain ⟨rest, rfl⟩ := List.head?_eq_some_iff.mp hhead
      exact h ⟨[], rest, rfl⟩
    rw [plainBreaks, if_neg hc, ih fun hinfix => h (List.infix_cons hinfix)]

/-- There are as many line feeds in a text as it was made of lines. -/
theorem count_newline_unlines {ls : List Text} (h : ∀ line ∈ ls, '\n' ∉ line) :
    (unlines ls).count '\n' = ls.length := by
  induction ls with
  | nil => rfl
  | cons line ls ih =>
    obtain ⟨hline, hls⟩ := List.forall_mem_cons.mp h
    rw [unlines_cons, List.count_append, List.count_eq_zero.mpr hline, List.count_cons_self, ih hls,
      Nat.zero_add, List.length_cons]

/-- A text that ends where a line starts has as many line feeds as lines. -/
theorem count_newline_eq_length_lines {t : Text} (h : atLineStart t = true) :
    t.count '\n' = (lines t).length := by
  obtain ⟨ls, rfl, hls⟩ := exists_unlines h
  rw [count_newline_unlines hls, lines_unlines hls, List.length_map]

end Runbook.Text
