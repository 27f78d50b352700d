import Mathlib.Data.List.Basic
import Runbook.Text.Basic

/-!
# Lines of texts put together

Texts that end in a line feed can be put one after another without a line of one running into a
line of the next: the lines of the whole are those of the parts, in order (`Text.lines_append`,
`Text.lines_flatten`). What makes this true of the fold that cuts lines is that a line feed starts a
line afresh, and that from then on the lines after it are only carried along.
-/

namespace Runbook.Text

/-! ## Cutting lines -/

/-- Once there is a line, a step changes at most the first of them, and the others are carried
along. -/
theorem lineStep_append (c : Char) (after : Bool) {found : List Text} (h : found ≠ [])
    (more : List Text) :
    (lineStep c (after, found)).2 ≠ [] ∧
      lineStep c (after, found ++ more) =
        ((lineStep c (after, found)).1, (lineStep c (after, found)).2 ++ more) := by
  obtain ⟨line, rest, rfl⟩ := List.exists_cons_of_ne_nil h
  simp only [lineStep, List.cons_append]
  split
  · exact ⟨List.cons_ne_nil _ _, rfl⟩
  · split
    · exact ⟨h, rfl⟩
    · exact ⟨List.cons_ne_nil _ _, rfl⟩

/-- Once there is a line, the steps over a text change at most the first of them, and the others are
carried along. -/
theorem foldr_lineStep_append (t : Text) (after : Bool) {found : List Text} (h : found ≠ [])
    (more : List Text) :
    (t.foldr lineStep (after, found)).2 ≠ [] ∧
      t.foldr lineStep (after, found ++ more) =
        ((t.foldr lineStep (after, found)).1, (t.foldr lineStep (after, found)).2 ++ more) := by
  induction t with
  | nil => exact ⟨h, rfl⟩
  | cons c t ih =>
    obtain ⟨hne, heq⟩ := ih
    rw [List.foldr_cons, List.foldr_cons, heq]
    exact lineStep_append c _ hne more

/-- A line feed ends a line, and the lines of what follows are cut on their own. -/
theorem lines_append_newline (s t : Text) :
    lines (s ++ '\n' :: t) = lines (s ++ ['\n']) ++ lines t := by
  have afresh : ∀ after : Bool × List Text, lineStep '\n' after = (true, [[]] ++ after.2) :=
    fun _ => rfl
  rw [lines, lines, lines, List.foldr_append, List.foldr_append, List.foldr_cons, List.foldr_cons,
    afresh, afresh, (foldr_lineStep_append s true (List.cons_ne_nil _ _) _).2,
    (foldr_lineStep_append s true (List.cons_ne_nil _ _) _).2, List.foldr_nil, List.append_nil]

/-! ## Complete lines -/

/-- A text that a note may follow on a fresh line is empty or has a line feed at its end. -/
theorem atLineStart_iff {t : Text} : atLineStart t = true ↔ t = [] ∨ t.getLast? = some '\n' := by
  simp [atLineStart]

/-- The lines of two texts, the first of which ends a line, are those of the first and then those of
the second. -/
theorem lines_append {s : Text} (h : atLineStart s = true) (t : Text) :
    lines (s ++ t) = lines s ++ lines t := by
  rcases atLineStart_iff.mp h with rfl | hlast
  · rfl
  · obtain ⟨start, rfl⟩ := List.getLast?_eq_some_iff.mp hlast
    rw [List.append_assoc, List.singleton_append, lines_append_newline]

/-- The lines of texts that all end a line are those of each of them, in order. -/
theorem lines_flatten {texts : List Text} (h : ∀ t ∈ texts, atLineStart t = true) :
    lines texts.flatten = texts.flatMap lines := by
  induction texts with
  | nil => rfl
  | cons t rest ih =>
    rw [List.flatten_cons, List.flatMap_cons, lines_append (h t List.mem_cons_self),
      ih fun u hu => h u (List.mem_cons_of_mem t hu)]

/-! ## How many lines there are -/

/-- A text that holds anything has a line, since one character makes one. -/
theorem lines_ne_nil {t : Text} (h : t ≠ []) : lines t ≠ [] := by
  obtain ⟨start, c, rfl⟩ := (List.eq_nil_or_concat' t).resolve_left h
  have first : (lineStep c (false, [])).2 ≠ [] := by
    simp only [lineStep]
    split
    · exact List.cons_ne_nil _ _
    · split
      · next hc => exact absurd hc.2 Bool.false_ne_true
      · exact List.cons_ne_nil _ _
  rw [lines, List.foldr_append]
  exact (foldr_lineStep_append start _ first []).1

/-- A step adds at most one line. -/
theorem length_lineStep_le (c : Char) (after : Bool × List Text) :
    (lineStep c after).2.length ≤ after.2.length + 1 := by
  obtain ⟨newline, found⟩ := after
  simp only [lineStep]
  split
  · exact Nat.le_refl _
  · split
    · exact Nat.le_succ _
    · cases found with
      | nil => exact Nat.le_refl _
      | cons line more => exact Nat.le_succ _

/-- A text has no more lines than characters. -/
theorem length_lines_le (t : Text) : (lines t).length ≤ t.length := by
  induction t with
  | nil => exact Nat.le_refl 0
  | cons c t ih =>
    have hstep := length_lineStep_le c (t.foldr lineStep (false, []))
    exact Nat.le_trans hstep (Nat.succ_le_succ ih)

/-! ## Ending lines -/

/-- A text that was ended by a line feed has one at its end. -/
theorem getLast?_endLine (t : Text) : (endLine t).getLast? = some '\n' := by
  rw [endLine]
  split
  · assumption
  · exact List.getLast?_concat

/-- A text made of lines ends in a line feed, if there are any. -/
theorem getLast?_unlines {ls : List Text} (h : ls ≠ []) : (unlines ls).getLast? = some '\n' := by
  obtain ⟨start, line, rfl⟩ := (List.eq_nil_or_concat' ls).resolve_left h
  rw [unlines, List.flatMap_append, List.flatMap_singleton, ← List.append_assoc]
  exact List.getLast?_concat

end Runbook.Text
