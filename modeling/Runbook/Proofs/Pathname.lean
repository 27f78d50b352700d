import Runbook.Pathname
import Runbook.Proofs.Text.Utf8

/-!
# How names of paths are shown

The name that a text gives is shown as this text (`Pathname.display_ofText`), so names of texts can
be told apart where they are shown (`Pathname.IsText.eq_of_display`). A name that is no text may be
shown like another one. In any case it is shown on one line if it has no line feed.
-/

namespace Runbook.Pathname

/-- The name is that of a text. -/
def IsText (path : Pathname) : Prop := ∃ text, path = ofText text

/-- The name of a text is shown as this text. -/
@[simp] theorem display_ofText (text : Text) : (ofText text).display = text :=
  Utf8.decodeLossy_utf8 text

/-- Names of texts are told by how they are shown. -/
theorem IsText.eq_of_display {path path' : Pathname} (h : path.IsText) (h' : path'.IsText)
    (hdisplay : path.display = path'.display) : path = path' := by
  obtain ⟨text, rfl⟩ := h
  obtain ⟨text', rfl⟩ := h'
  rw [display_ofText, display_ofText] at hdisplay
  rw [hdisplay]

/-- Names of texts that may be missing are told by how they are shown, if they are shown. -/
theorem eq_of_map_display {dir dir' : Option Pathname} (h : ∀ path ∈ dir, path.IsText)
    (h' : ∀ path ∈ dir', path.IsText) (hdisplay : dir.map display = dir'.map display) :
    dir = dir' := by
  cases dir with
  | none => exact (Option.map_eq_none_iff.mp hdisplay.symm).symm
  | some path =>
    obtain ⟨path', rfl, hpath⟩ := Option.map_eq_some_iff.mp hdisplay.symm
    rw [(h path rfl).eq_of_display (h' path' rfl) hpath.symm]

/-- A name without a line feed is shown on one line. -/
theorem newline_notMem_display {path : Pathname} (h : 10 ∉ path.bytes) : '\n' ∉ path.display :=
  Utf8.newline_notMem_decodeLossy h

/-- A byte that is no text is shown as the character that stands for such bytes. -/
example : (⟨[0xFF]⟩ : Pathname).display = (ofText "\uFFFD").display := by decide +kernel

end Runbook.Pathname
