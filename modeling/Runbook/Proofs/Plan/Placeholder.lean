import Mathlib.Data.List.Basic
import Runbook.Plan.Placeholder
import Runbook.Proofs.Text

/-!
# Lines with placeholders

The pieces that `Placeholder.split` cuts a line into, with the placeholder back between them, are
the line again (`Placeholder.intercalate_split`), so that a line which is not cut is its only piece.
A line is cut just if the placeholder occurs in it (`Placeholder.length_split_iff`), and then it
needs a directory (`Placeholder.expand_eq_error_iff`). What a line has become once the directory is
in its place is told by these pieces (`Placeholder.expand_some`, `Placeholder.expand_cases`): it is
blank just if all of them are and the directory is, too (`Placeholder.blank_expand_iff`).
-/

namespace Runbook.Placeholder

/-- A line is cut into one piece at least. -/
theorem splitFrom_ne_nil (skip : Nat) (line : Text) : splitFrom skip line ≠ [] := by
  fun_induction splitFrom skip line with
  | case1 => exact List.cons_ne_nil _ _
  | case2 skip c rest ih => exact ih
  | case3 c rest h ih => exact List.cons_ne_nil _ _
  | case4 c rest h ih => exact fun hnil => ih (List.modifyHead_eq_nil_iff.mp hnil)

/-- The pieces of a line, with the placeholder between them, are what has not been passed over of
it. -/
theorem intercalate_splitFrom (skip : Nat) (line : Text) :
    List.intercalate mark (splitFrom skip line) = line.drop skip := by
  fun_induction splitFrom skip line with
  | case1 => simp
  | case2 skip c rest ih => exact ih
  | case3 c rest h ih =>
    have hmark : mark ++ (c :: rest).drop mark.length = c :: rest :=
      List.prefix_iff_eq_append.mp (List.isPrefixOf_iff_prefix.mp h)
    obtain ⟨piece, more, hpieces⟩ :=
      List.exists_cons_of_ne_nil (splitFrom_ne_nil (mark.length - 1) rest)
    rw [hpieces] at ih ⊢
    rw [List.intercalate_cons_cons, ih, List.nil_append]
    exact hmark
  | case4 c rest h ih =>
    obtain ⟨piece, more, hpieces⟩ := List.exists_cons_of_ne_nil (splitFrom_ne_nil 0 rest)
    rw [hpieces] at ih ⊢
    rw [List.modifyHead_cons, List.intercalate_cons_cons_left, ih]
    rfl

/-- The pieces of a line, with the placeholder between them, are the line. -/
theorem intercalate_split (line : Text) : List.intercalate mark (split line) = line :=
  intercalate_splitFrom 0 line

/-- A line is cut just if the placeholder occurs in it. -/
theorem length_split_iff (line : Text) : 1 < (split line).length ↔ mark <:+: line := by
  rw [split]
  induction line with
  | nil => exact iff_of_false (Nat.lt_irrefl 1) (by decide)
  | cons c rest ih =>
    rw [splitFrom]
    split
    · next h =>
      have hpieces : 0 < (splitFrom (mark.length - 1) rest).length :=
        List.length_pos_of_ne_nil (splitFrom_ne_nil _ _)
      exact iff_of_true (Nat.succ_lt_succ hpieces) (List.isPrefixOf_iff_prefix.mp h).isInfix
    · next h =>
      have hprefix : ¬ mark <+: c :: rest := mt List.isPrefixOf_iff_prefix.mpr h
      rw [List.length_modifyHead, ih, List.infix_cons_iff, or_iff_right hprefix]

/-- A line in which the placeholder does not occur is its only piece. -/
theorem split_of_unmarked {line : Text} (h : ¬ mark <:+: line) : split line = [line] := by
  obtain ⟨piece, more, hsplit : split line = _⟩ :=
    List.exists_cons_of_ne_nil (splitFrom_ne_nil 0 line)
  have hjoined := intercalate_split line
  have hlength := mt (length_split_iff line).mp h
  rw [hsplit] at hjoined hlength ⊢
  cases more with
  | nil => rw [← hjoined, List.intercalate_singleton]
  | cons next more => exact absurd (Nat.succ_lt_succ (Nat.succ_pos more.length)) hlength

/-- A line in which the placeholder occurs has two pieces at least. -/
theorem exists_split_of_marked {line : Text} (h : mark <:+: line) :
    ∃ piece next more, split line = piece :: next :: more := by
  obtain ⟨piece, more, hsplit : split line = _⟩ :=
    List.exists_cons_of_ne_nil (splitFrom_ne_nil 0 line)
  have hlength := (length_split_iff line).mpr h
  rw [hsplit] at hlength
  cases more with
  | nil => exact absurd hlength (Nat.lt_irrefl 1)
  | cons next more => exact ⟨piece, next, more, hsplit⟩

/-! ## Expanding -/

/-- A line without a placeholder stays as it is. -/
theorem expand_of_unmarked {line : Text} (h : ¬ mark <:+: line) (dir : Option Pathname) :
    expand line dir = .ok line := by
  unfold expand
  rw [split_of_unmarked h]

/-- With a directory a line becomes its pieces with the directory between them. -/
theorem expand_some (line : Text) (dir : Pathname) :
    expand line (some dir) = .ok (List.intercalate dir.display (split line)) := by
  by_cases hmark : mark <:+: line
  · obtain ⟨piece, next, more, hsplit⟩ := exists_split_of_marked hmark
    unfold expand
    rw [hsplit]
  · rw [expand_of_unmarked hmark, split_of_unmarked hmark, List.intercalate_singleton]

/-- Without a directory a line with a placeholder is refused. -/
theorem expand_none {line : Text} (h : mark <:+: line) :
    expand line none = .error (.noOutputDir line) := by
  obtain ⟨piece, next, more, hsplit⟩ := exists_split_of_marked h
  unfold expand
  rw [hsplit]

/-- A line is refused just if the placeholder occurs in it and there is no directory, and it is
named. -/
theorem expand_eq_error_iff {line : Text} {dir : Option Pathname} {reason : ConfigError} :
    expand line dir = .error reason ↔
      dir = none ∧ mark <:+: line ∧ reason = .noOutputDir line := by
  by_cases hmark : mark <:+: line
  · cases dir with
    | none =>
      rw [expand_none hmark]
      exact ⟨fun h => ⟨rfl, hmark, (Except.error.inj h).symm⟩, fun h => congrArg _ h.2.2.symm⟩
    | some dir =>
      rw [expand_some]
      exact iff_of_false nofun fun h => absurd h.1 (Option.some_ne_none dir)
  · rw [expand_of_unmarked hmark]
    exact iff_of_false nofun fun h => hmark h.2.1

/-- A line becomes itself if it is not cut, and else its pieces with the directory between them. -/
theorem expand_cases {line expanded : Text} {dir : Option Pathname}
    (h : expand line dir = .ok expanded) :
    (split line = [line] ∧ expanded = line) ∨
      (1 < (split line).length ∧
        ∃ path, dir = some path ∧ expanded = List.intercalate path.display (split line)) := by
  by_cases hmark : mark <:+: line
  · cases dir with
    | none =>
      rw [expand_none hmark] at h
      cases h
    | some path =>
      rw [expand_some] at h
      exact .inr ⟨(length_split_iff line).mpr hmark, path, rfl, (Except.ok.inj h).symm⟩
  · rw [expand_of_unmarked hmark] at h
    exact .inl ⟨split_of_unmarked hmark, (Except.ok.inj h).symm⟩

/-- A line that shows something becomes blank just if there is nothing to it but blanks and
placeholders, and the directory is blank. -/
theorem blank_expand_iff {line expanded : Text} {dir : Option Pathname}
    (hline : Text.blank line = false) (h : expand line dir = .ok expanded) :
    Text.blank expanded = true ↔
      (∃ path, dir = some path ∧ Text.blank path.display = true) ∧
        ∀ piece ∈ split line, Text.blank piece = true := by
  rcases expand_cases h with ⟨hsplit, rfl⟩ | ⟨hlength, path, rfl, rfl⟩
  · rw [hsplit, hline]
    refine iff_of_false Bool.false_ne_true fun ⟨_, hblank⟩ => ?_
    rw [hblank _ (List.mem_singleton_self _)] at hline
    cases hline
  · rw [Text.blank_intercalate_iff]
    constructor
    · exact fun ⟨hpieces, hpath⟩ => ⟨⟨path, rfl, hpath hlength⟩, hpieces⟩
    · rintro ⟨⟨_, ⟨⟩, hpath⟩, hpieces⟩
      exact ⟨hpieces, fun _ => hpath⟩

end Runbook.Placeholder
