import Runbook.Proofs.Pathname
import Runbook.Proofs.Plan.Placeholder

/-!
# The one way to cut a line

Two placeholders never overlap, since only the first character of one is an opening brace
(`Placeholder.opening_notMem`). So a placeholder that follows a text without one is the first of its
line (`Placeholder.split_append_mark`), and there is just one way to write a line as pieces that
hold no placeholder with one between each two of them (`Placeholder.Pieces.eq_split`). Every
occurrence of the placeholder is then one of the places between two pieces
(`Placeholder.split_around`), however many braces stand around it.

`Placeholder.expand_exact` tells by these pieces what becomes of a line: the directory takes the
places between them, and nothing else changes.
-/

namespace Runbook.Placeholder

/-- The line is the pieces with a placeholder between each two of them, and none in any of them. -/
structure Pieces (line : Text) (pieces : List Text) : Prop where
  ne_nil : pieces ≠ []
  joined : List.intercalate mark pieces = line
  unmarked : ∀ piece ∈ pieces, ¬ mark <:+: piece

/-! ## Placeholders do not overlap -/

/-- An opening brace is nowhere but at the start of the placeholder. -/
theorem opening_notMem {start rest : Text} (h : mark = start ++ rest) (hne : start ≠ []) :
    '\x7b' ∉ rest := by
  obtain ⟨c, start, rfl⟩ := List.exists_cons_of_ne_nil hne
  have hnone : '\x7b' ∉ mark.tail := by decide
  rw [h, List.cons_append, List.tail_cons] at hnone
  exact fun hmem => hnone (List.mem_append_right start hmem)

section
variable {s line : Text}

/-- Where a text without a placeholder comes before one, none starts inside the text. -/
theorem not_prefix_append_mark {c : Char} (h : ¬ mark <:+: c :: s) (t : Text) :
    ¬ mark <+: c :: s ++ (mark ++ t) := by
  rintro ⟨rest, hsplit⟩
  rcases List.append_eq_append_iff.mp hsplit with ⟨gap, hs, -⟩ | ⟨gap, hmark, hgap⟩
  · exact h ⟨[], gap, hs.symm⟩
  · cases gap with
    | nil => exact h ⟨[], [], by rw [List.nil_append, List.append_nil, hmark, List.append_nil]⟩
    | cons d gap =>
      -- It would go on into the placeholder, and have the opening brace of that one inside.
      obtain ⟨hd, -⟩ : '\x7b' = d ∧ _ := List.cons.inj hgap
      exact opening_notMem hmark (List.cons_ne_nil c s) (hd ▸ List.mem_cons_self)

/-! ## Cutting -/

/-- Characters that are passed over have no influence. -/
theorem splitFrom_eq_split_drop (skip : Nat) (line : Text) :
    splitFrom skip line = split (line.drop skip) := by
  induction skip generalizing line with
  | zero => rfl
  | succ skip ih =>
    cases line with
    | nil => rfl
    | cons c rest => exact ih rest

/-- A placeholder at the start has an empty piece before it. -/
theorem split_mark_append (t : Text) : split (mark ++ t) = [] :: split t := by
  have hprefix : mark.isPrefixOf (mark ++ t) = true :=
    List.isPrefixOf_iff_prefix.mpr (List.prefix_append mark t)
  have hcons : mark ++ t = '\x7b' :: (mark.tail ++ t) := rfl
  rw [hcons] at hprefix ⊢
  rw [split, splitFrom, if_pos hprefix, splitFrom_eq_split_drop,
    List.drop_left' (by rw [List.length_tail])]

/-- A placeholder after a text without one makes that text the first piece. -/
theorem split_append_mark (h : ¬ mark <:+: s) (t : Text) :
    split (s ++ (mark ++ t)) = s :: split t := by
  induction s with
  | nil => exact split_mark_append t
  | cons c s ih =>
    have hs : ¬ mark <:+: s := fun hinfix => h (List.infix_cons hinfix)
    have hprefix : ¬ mark.isPrefixOf (c :: s ++ (mark ++ t)) = true :=
      mt List.isPrefixOf_iff_prefix.mp (not_prefix_append_mark h t)
    rw [List.cons_append] at hprefix ⊢
    rw [split, splitFrom, if_neg hprefix, ← split, ih hs, List.modifyHead_cons]

/-- The first piece is the start of the line. -/
theorem prefix_of_split_eq_cons {piece : Text} {more : List Text} (h : split line = piece :: more) :
    piece <+: line := by
  have hjoined := intercalate_split line
  rw [h] at hjoined
  cases more with
  | nil =>
    rw [List.intercalate_singleton] at hjoined
    exact hjoined ▸ List.prefix_refl piece
  | cons next more =>
    rw [← hjoined, List.intercalate_cons_cons, List.append_assoc]
    exact List.prefix_append piece _

/-- No piece has a placeholder in it. -/
theorem not_infix_of_mem_splitFrom (skip : Nat) (line : Text) :
    ∀ piece ∈ splitFrom skip line, ¬ mark <:+: piece := by
  fun_induction splitFrom skip line with
  | case1 => exact List.forall_mem_singleton.mpr (by decide)
  | case2 skip c rest ih => exact ih
  | case3 c rest h ih => exact List.forall_mem_cons.mpr ⟨by decide, ih⟩
  | case4 c rest h ih =>
    obtain ⟨first, more, hsplit⟩ := List.exists_cons_of_ne_nil (splitFrom_ne_nil 0 rest)
    rw [hsplit] at ih ⊢
    obtain ⟨hfirst, hmore⟩ := List.forall_mem_cons.mp ih
    refine List.forall_mem_cons.mpr ⟨fun hinfix => ?_, hmore⟩
    rcases List.infix_cons_iff.mp hinfix with hstart | hinfix
    · have hpiece : c :: first <+: c :: rest :=
        (List.prefix_cons_inj c).mpr (prefix_of_split_eq_cons hsplit)
      exact h (List.isPrefixOf_iff_prefix.mpr (hstart.trans hpiece))
    · exact hfirst hinfix

/-- A line can be cut into pieces. -/
theorem pieces_split (line : Text) : Pieces line (split line) :=
  ⟨splitFrom_ne_nil 0 line, intercalate_split line, not_infix_of_mem_splitFrom 0 line⟩

/-- A line can be cut into pieces in one way only. -/
theorem Pieces.eq_split {pieces : List Text} (h : Pieces line pieces) : pieces = split line := by
  induction pieces generalizing line with
  | nil => exact absurd rfl h.ne_nil
  | cons piece more ih =>
    obtain ⟨hpiece, hmore⟩ := List.forall_mem_cons.mp h.unmarked
    rw [← h.joined]
    cases more with
    | nil => rw [List.intercalate_singleton, split_of_unmarked hpiece]
    | cons next more =>
      rw [List.intercalate_cons_cons, List.append_assoc, split_append_mark hpiece]
      exact congrArg _ (ih ⟨List.cons_ne_nil next more, rfl, hmore⟩)

end

/-! ## Occurrences -/

/-- Pieces before and after a text are joined by it as all of them are. -/
theorem intercalate_append (between : Text) {left right : List Text} (hleft : left ≠ [])
    (hright : right ≠ []) :
    List.intercalate between (left ++ right) =
      List.intercalate between left ++ between ++ List.intercalate between right := by
  induction left with
  | nil => exact absurd rfl hleft
  | cons piece left ih =>
    cases left with
    | nil =>
      rw [List.singleton_append, List.intercalate_cons_of_ne_nil hright,
        List.intercalate_singleton]
    | cons next left =>
      have hmore := ih (List.cons_ne_nil next left)
      rw [List.cons_append, List.cons_append, List.intercalate_cons_cons,
        List.intercalate_cons_cons, ← List.cons_append, hmore]
      simp only [List.append_assoc]

/-- Each occurrence of the placeholder is a place between two pieces: those of what is before it and
those of what is after it are the pieces of the line. -/
theorem split_around (before after : Text) :
    split (before ++ mark ++ after) = split before ++ split after := by
  have hbefore := pieces_split before
  have hafter := pieces_split after
  refine (Pieces.eq_split ⟨?nonempty, ?joined, ?unmarked⟩).symm
  case nonempty => exact List.append_ne_nil_of_left_ne_nil hbefore.ne_nil _
  case joined => rw [intercalate_append mark hbefore.ne_nil hafter.ne_nil, hbefore.joined,
    hafter.joined]
  case unmarked => exact List.forall_mem_append.mpr ⟨hbefore.unmarked, hafter.unmarked⟩

/-! ## Expanding -/

/-- There is exactly one way to write a line as pieces that hold no placeholder, with one between
each two of them, and each occurrence of the placeholder is between two of these pieces. With a
directory, whatever it is, the line becomes the pieces with the directory between them, as it is
shown; a directory named by a text is shown as that text. Without one the line stays as it is if it
is one piece, and else it is refused. -/
theorem expand_exact (line : Text) :
    ∃ pieces, Pieces line pieces ∧ (∀ other, Pieces line other → other = pieces) ∧
      (∀ before after, line = before ++ mark ++ after →
        ∃ left right, pieces = left ++ right ∧ Pieces before left ∧ Pieces after right) ∧
      (∀ dir : Pathname, expand line (some dir) = .ok (List.intercalate dir.display pieces)) ∧
      (∀ text, expand line (some (.ofText text)) = .ok (List.intercalate text pieces)) ∧
      (expand line none = .ok line ↔ pieces.length = 1) ∧
      (pieces.length ≠ 1 → expand line none = .error (.noOutputDir line)) := by
  have hpos : 0 < (split line).length := List.length_pos_of_ne_nil (splitFrom_ne_nil 0 line)
  have hlength := length_split_iff line
  refine ⟨split line, pieces_split line, fun other h => h.eq_split, ?occurrences,
    expand_some line, fun text => ?text, ⟨fun hkept => ?single, fun hsingle => ?kept⟩,
    fun hcut => ?refused⟩
  case occurrences =>
    rintro before after rfl
    exact ⟨split before, split after, split_around before after, pieces_split before,
      pieces_split after⟩
  case text => rw [expand_some, Pathname.display_ofText]
  case single =>
    have hmark : ¬ mark <:+: line := by
      intro hmark
      rw [expand_none hmark] at hkept
      cases hkept
    rw [split_of_unmarked hmark, List.length_singleton]
  case kept =>
    have hmark : ¬ mark <:+: line := fun hmark => absurd (hlength.mpr hmark) (by omega)
    exact expand_of_unmarked hmark none
  case refused => exact expand_none (hlength.mp (by omega))

/-- Braces around a placeholder stay, and so does a placeholder in the directory. -/
example : expand "\x7b\x7boutput_dir\x7d\x7d".toList (some (.ofText "a\x7boutput_dir\x7d")) =
    .ok "\x7ba\x7boutput_dir\x7d\x7d".toList := by decide +kernel

end Runbook.Placeholder
