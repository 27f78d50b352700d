import Mathlib.Data.List.DropRight
import Runbook.Proofs.Text

/-!
# Trimmed texts

Trimming takes blank characters away from both ends of a text and nothing else
(`Text.exists_trim`), and it takes all of them away: whatever stands between blank texts and is
itself not blank at either end (`Text.Tight`) is what trimming leaves (`Text.trim_of_tight`).
-/

namespace Runbook.Text

/-- The text is not blank at either end. -/
structure Tight (t : Text) : Prop where
  start : ∀ c ∈ t.head?, isBlank c = false
  finish : ∀ c ∈ t.getLast?, isBlank c = false

/-- Trimming does not make a text longer. -/
theorem length_trim_le (t : Text) : (trim t).length ≤ t.length := by
  have hstart : (trimStart t).length ≤ t.length := (List.dropWhile_sublist _).length_le
  have hfinish : (trim t).length ≤ (trimStart t).length :=
    (List.rdropWhile_prefix isBlank (trimStart t)).length_le
  exact Nat.le_trans hfinish hstart

/-- What trimming takes away from a text is blank. -/
theorem exists_trim (t : Text) :
    ∃ before after, blank before = true ∧ blank after = true ∧ t = before ++ trim t ++ after := by
  refine ⟨t.takeWhile isBlank, (trimStart t).rtakeWhile isBlank, List.all_takeWhile, ?_, ?_⟩
  · exact List.all_eq_true.mpr fun c hc => List.mem_rtakeWhile_imp hc
  · calc t
      _ = t.takeWhile isBlank ++ trimStart t := List.takeWhile_append_dropWhile.symm
      _ = t.takeWhile isBlank ++ (trim t ++ (trimStart t).rtakeWhile isBlank) := by
          rw [show trim t = (trimStart t).rdropWhile isBlank from rfl,
            List.rdropWhile_append_rtakeWhile]
      _ = _ := (List.append_assoc _ _ _).symm

/-- Neither end of a trimmed text is blank. -/
theorem tight_trim (t : Text) : Tight (trim t) where
  start c hc := by
    obtain ⟨rest, hrest⟩ := List.rdropWhile_prefix isBlank (trimStart t)
    have hhead : (t.dropWhile isBlank).head? = some c := by
      have hsplit : t.dropWhile isBlank = trim t ++ rest := hrest.symm
      rw [hsplit, List.head?_append, Option.mem_def.mp hc, Option.some_or]
    have hdropped := List.head?_dropWhile_not isBlank t
    rw [hhead] at hdropped
    simpa using hdropped
  finish c hc := by
    have hne : trim t ≠ [] := by
      intro hnil
      rw [hnil] at hc
      cases hc
    have hlast : ¬ isBlank ((trim t).getLast hne) = true :=
      List.rdropWhile_last_not isBlank (trimStart t) hne
    rw [List.getLast?_eq_some_getLast hne, Option.mem_some_iff] at hc
    rw [← hc]
    exact Bool.eq_false_iff.mpr hlast

/-- Blanks before a text are not there once its start is trimmed. -/
theorem trimStart_append {before : Text} (h : blank before = true) (t : Text) :
    trimStart (before ++ t) = trimStart t :=
  List.dropWhile_append_of_pos (List.all_eq_true.mp h)

/-- Blanks after a text are not there once its end is trimmed. -/
theorem trimEnd_append {after : Text} (h : blank after = true) (t : Text) :
    trimEnd (t ++ after) = trimEnd t := by
  rw [trimEnd, List.reverse_append, List.dropWhile_append_of_pos]
  · rfl
  · exact fun c hc => List.all_eq_true.mp h c (List.mem_reverse.mp hc)

/-- A text at the end that is not blank at either end of its own is left as it is. -/
theorem trim_append_of_tight {t : Text} (ht : Tight t) (hne : t ≠ []) (start : Text) :
    trim (start ++ t) = trimStart start ++ t := by
  have hkept : t.dropWhile isBlank = t := by
    obtain ⟨c, rest, rfl⟩ := List.exists_cons_of_ne_nil hne
    exact List.dropWhile_cons_of_neg (Bool.eq_false_iff.mp (ht.start c rfl))
  have hstart : trimStart (start ++ t) = trimStart start ++ t := by
    rw [trimStart, List.dropWhile_append, hkept]
    split
    · next hnil => rw [trimStart, List.isEmpty_iff.mp hnil, List.nil_append]
    · rfl
  refine (congrArg trimEnd hstart).trans (List.rdropWhile_eq_self_iff.mpr fun hne' hlast => ?_)
  rw [List.getLast_append_of_ne_nil hne' hne,
    ht.finish _ (List.getLast_mem_getLast? hne)] at hlast
  cases hlast

/-- A text that is not blank at either end is what trimming leaves of it between blanks. -/
theorem trim_of_tight {before t after : Text} (hbefore : blank before = true) (ht : Tight t)
    (hafter : blank after = true) : trim (before ++ t ++ after) = t := by
  have hend : trimEnd t = t := by
    refine List.rdropWhile_eq_self_iff.mpr fun hne hlast => ?_
    rw [ht.finish _ (List.getLast_mem_getLast? hne)] at hlast
    cases hlast
  rw [trim, List.append_assoc, trimStart_append hbefore]
  cases t with
  | nil =>
    have hnone : trimStart after = [] := List.dropWhile_eq_nil_iff.mpr (List.all_eq_true.mp hafter)
    rw [List.nil_append, hnone]
    rfl
  | cons c t =>
    have hc : ¬ isBlank c = true := Bool.eq_false_iff.mp (ht.start c rfl)
    rw [trimStart, List.cons_append, List.dropWhile_cons_of_neg hc, ← List.cons_append,
      trimEnd_append hafter, hend]

end Runbook.Text
