import Runbook.Proofs.Duration.Described
import Runbook.Proofs.Excerpt.Printed
import Runbook.Proofs.Rendering

/-!
# The last word on a killed command

A command that is killed, by a signal or when its time limit expires, leaves what it had written to
its standard error, and a note after it that says what killed it (`Result.Killed`). The note is a
line of its own, whatever was written before it, and the last one
(`Text.getLast?_lines_appendNote`). It also is the last line in print, since neither trimming a text
nor cutting it into lines takes anything from a note (`Text.IsNote`): the trimmed text ends in the
same line (`Text.getLast?_lines_trim`), and so does a window that shows any line of the end
(`Excerpt.getLast?_lines_window`).

`Result.Killed.note_last` says so of every killed command.
-/

namespace Runbook

/-! ## Notes -/

namespace Text

/-- The text is one line that is not blank at either end. -/
structure IsNote (note : Text) : Prop where
  newline : '\n' ∉ note
  tight : Tight note
  ne_nil : note ≠ []

variable {s note : Text}

/-- Two parts of a line make a note if the first starts and the second ends with a character that is
not blank. -/
theorem isNote_append {t : Text} (hs : '\n' ∉ s) (ht : '\n' ∉ t)
    (hstart : ∃ c, s.head? = some c ∧ isBlank c = false)
    (hfinish : ∃ c, t.getLast? = some c ∧ isBlank c = false) : IsNote (s ++ t) := by
  obtain ⟨first, hfirst, hvisible⟩ := hstart
  obtain ⟨last, hlast, hvisible'⟩ := hfinish
  refine ⟨?newline, ⟨fun c hc => ?start, fun c hc => ?finish⟩, ?nonempty⟩
  case newline => exact fun h => (List.mem_append.mp h).elim hs ht
  case start =>
    rw [List.head?_append, hfirst] at hc
    exact Option.some.inj hc ▸ hvisible
  case finish =>
    rw [List.getLast?_append, hlast] at hc
    exact Option.some.inj hc ▸ hvisible'
  case nonempty =>
    rintro hnil
    rw [(List.append_eq_nil_iff.mp hnil).1] at hfirst
    cases hfirst

/-- A note does not end in a carriage return. -/
theorem IsNote.getLast?_ne_return (h : IsNote note) : note.getLast? ≠ some '\r' :=
  fun hreturn => absurd (h.tight.finish '\r' hreturn) (by decide)

/-- What stands before the note in a text with a note: the text, up to the start of a line. -/
def noteStart (s : Text) : Text := if atLineStart s then s else s ++ ['\n']

/-- A text with a note is the text up to the start of a line, and the note. -/
theorem appendNote_eq (s note : Text) : appendNote s note = noteStart s ++ note := rfl

/-- The note stands where a line starts. -/
theorem atLineStart_noteStart (s : Text) : atLineStart (noteStart s) = true := by
  rw [noteStart]
  split
  · assumption
  · exact atLineStart_iff.mpr (.inr List.getLast?_concat)

/-- A note where a line starts is one more line. -/
theorem lines_append_note (hstart : atLineStart s = true) (hnote : IsNote note) :
    lines (s ++ note) = lines s ++ [note] := by
  rw [lines_append hstart, lines_unfinished hnote.newline hnote.ne_nil]

/-- The last line of a text with a note is the note. -/
theorem getLast?_lines_appendNote (hnote : IsNote note) (s : Text) :
    (lines (appendNote s note)).getLast? = some note := by
  rw [appendNote_eq, lines_append_note (atLineStart_noteStart s) hnote, List.getLast?_concat]

/-- The last line of a text with a note is the note, also when that line is ended. -/
theorem getLast?_lines_endLine_appendNote (hnote : IsNote note) (s : Text) :
    (lines (endLine (appendNote s note))).getLast? = some note := by
  have hne : appendNote s note ≠ [] := List.append_ne_nil_of_right_ne_nil _ hnote.ne_nil
  have hlast : (appendNote s note).getLast? ≠ some '\r' := by
    rw [appendNote, List.getLast?_append_of_ne_nil _ hnote.ne_nil]
    exact hnote.getLast?_ne_return
  rw [lines_endLine hne hlast, getLast?_lines_appendNote hnote]

/-- A text up to the start of a line is one without the blanks at its start as well. -/
theorem atLineStart_trimStart (h : atLineStart s = true) : atLineStart (trimStart s) = true := by
  by_cases hnil : trimStart s = []
  · rw [hnil]
    rfl
  · have hsplit : s.takeWhile isBlank ++ trimStart s = s := List.takeWhile_append_dropWhile
    rw [atLineStart_iff] at h ⊢
    rcases h with rfl | hlast
    · exact .inl rfl
    · rw [← hsplit, List.getLast?_append_of_ne_nil _ hnil] at hlast
      exact .inr hlast

/-- The last line of a trimmed text with a note is the note. -/
theorem getLast?_lines_trim (hnote : IsNote note) (s : Text) :
    (lines (trim (appendNote s note))).getLast? = some note := by
  have hstart := atLineStart_trimStart (atLineStart_noteStart s)
  rw [appendNote_eq, trim_append_of_tight hnote.tight hnote.ne_nil,
    lines_append_note hstart hnote, List.getLast?_concat]

end Text

/-! ## Notes in print -/

namespace Excerpt

variable {policy : Policy} {note : Text}

/-- A window that shows any line of the end is printed up to the last line. -/
theorem getLast?_lines_window {lines head middle tail : List Text}
    (hcut : Cut policy lines head middle tail) (hshown : 1 ≤ policy.tail.toNat)
    (hlines : ∀ line ∈ lines, '\n' ∉ line) (hlast : lines.getLast? = some note)
    (hnote : note.getLast? ≠ some '\r') (omitted : Nat) :
    (Text.lines (window head tail omitted).render).getLast? = some note := by
  have hne : tail ≠ [] := by
    rintro rfl
    exact absurd (hcut.tail_length ▸ hshown) (by decide)
  have htail : tail.getLast? = some note := by
    rwa [hcut.lines_eq, List.getLast?_append_of_ne_nil _ hne] at hlast
  have hshow : (window head tail omitted).lines = (head ++ [separator]) ++ tail :=
    List.append_cons _ _ _
  rw [lines_render_window (fun line hline => hlines line (hcut.mem_lines hline)) omitted, hshow,
    List.getLast?_map, List.getLast?_append_of_ne_nil _ hne, htail, Option.map_some,
    Text.dropReturn_of_getLast? hnote]

/-- The last line in print of a text with a note is the note, if any line of the end is shown or
nothing is left out. -/
theorem getLast?_lines_render (hnote : Text.IsNote note) (s : Text)
    (window : policy.head.toNat + policy.tail.toNat ≤ policy.maxLines.toNat)
    (hshown : 1 ≤ policy.tail.toNat ∨
      (Text.lines (Text.trim (Text.appendNote s note))).length ≤ policy.maxLines.toNat) :
    (Text.lines (ofText policy (Text.appendNote s note)).render).getLast? = some note := by
  let text := Text.appendNote s note
  by_cases hlong : policy.maxLines.toNat < (Text.lines (Text.trim text)).length
  · obtain ⟨head, middle, tail, htext, -, hcut⟩ := ofText_of_long window hlong
    have hend : 1 ≤ policy.tail.toNat := hshown.resolve_right (Nat.not_le.mpr hlong)
    rw [show ofText policy (Text.appendNote s note) = _ from htext]
    exact getLast?_lines_window hcut hend (fun _ => Text.newline_notMem_of_mem_lines)
      (Text.getLast?_lines_trim hnote s) hnote.getLast?_ne_return middle.length
  · have hne : text ≠ [] := List.append_ne_nil_of_right_ne_nil _ hnote.ne_nil
    have hrender : (ofText policy text).render = Text.endLine text :=
      render_ofText_of_short hne (Nat.not_lt.mp hlong)
    rw [hrender]
    exact Text.getLast?_lines_endLine_appendNote hnote s

end Excerpt

/-! ## Killed commands -/

namespace Result

/-- The result of a command that was killed, what it had written to its standard error by then, and
the note that says what killed it. -/
inductive Killed : Result → Text → Text → Prop
  | byLimit (limit : Duration) (written : Text) :
    Killed (.ofTimeout limit written) written
      ("command timed out after ".toList ++ limit.describe ++ " and was killed".toList)
  | bySignal (command : Command) (signal : Nat) (stdout written : Text) :
    Killed (.ofEnding command (.signalled signal) stdout written) written
      ("command terminated by signal ".toList ++ Text.ofNat signal)

/-- A command that outlived its time limit was killed. -/
theorem killed_of_timedOut {command : Command} {limit : Duration} (h : command.timeout = some limit)
    (stdout written : Text) :
    Killed (.ofEnding command .timedOut stdout written) written
      ("command timed out after ".toList ++ limit.describe ++ " and was killed".toList) := by
  rw [ofEnding, h]
  exact .byLimit limit written

variable {result : Result} {written note : Text}

/-- What is said about a killed command is a note. -/
theorem Killed.isNote (h : result.Killed written note) : Text.IsNote note := by
  cases h with
  | byLimit limit written =>
    refine Text.isNote_append (fun hmem => ?_) (by decide +kernel) ⟨'c', rfl, by decide⟩
      ⟨'d', rfl, by decide⟩
    rcases List.mem_append.mp hmem with hword | hlimit
    · exact absurd hword (by decide +kernel)
    · exact Duration.newline_notMem_describe limit hlimit
  | bySignal command signal stdout written =>
    refine Text.isNote_append (by decide +kernel) (Text.newline_notMem_ofNat signal)
      ⟨'c', rfl, by decide⟩ ?_
    have hlast := List.getLast?_eq_some_getLast (Text.ofNat_ne_nil signal)
    have hdigit := Text.isDigit_of_mem_ofNat (List.mem_of_getLast? hlast)
    exact ⟨_, hlast, Duration.isBlank_of_isDigit hdigit⟩

/-- A killed command is a failure that shows what it had written, and the note. -/
theorem Killed.exists_eq (h : result.Killed written note) :
    ∃ cause, result = .failure cause (Text.appendNote written note) := by
  cases h with
  | byLimit limit written => exact ⟨_, rfl⟩
  | bySignal command signal stdout written =>
    have hnote : Text.blank ("command terminated by signal ".toList ++ Text.ofNat signal) = false :=
      Text.blank_append_of_left (by decide +kernel) _
    have hvisible := Text.blank_appendNote written hnote
    refine ⟨.exited Failure.unknownStatus, ?_⟩
    simp only [ofEnding, ofStatus, hvisible]
    rfl

/-- The standard error of a killed command is what it had written, a line feed unless that was
nothing or ended in one, and the note that says what killed it. The note is the last line of it, and
also the last line in print, under every policy whose window is no longer than a text shown in full,
if the window shows any line of the end or the text is short enough not to be cut. -/
theorem Killed.note_last (h : result.Killed written note) :
    result.stderr =
      written ++ (if written = [] ∨ written.getLast? = some '\n' then [] else ['\n']) ++ note ∧
    written <+: result.stderr ∧
    (Text.lines result.stderr).getLast? = some note ∧
    ∀ policy : Policy, policy.head.toNat + policy.tail.toNat ≤ policy.maxLines.toNat →
      ∃ printed, result.Prints ⟨policy, false⟩ printed ∧
        (1 ≤ policy.tail.toNat ∨
          (Text.lines (Text.trim result.stderr)).length ≤ policy.maxLines.toNat →
            (Text.lines printed).getLast? = some note) := by
  have hnote := h.isNote
  obtain ⟨cause, rfl⟩ := h.exists_eq
  have hstderr : Text.appendNote written note =
      written ++ (if written = [] ∨ written.getLast? = some '\n' then [] else ['\n']) ++ note := by
    rw [Text.appendNote]
    simp only [Text.atLineStart_iff]
    split
    · rw [List.append_nil]
    · rfl
  refine ⟨hstderr, ?kept, Text.getLast?_lines_appendNote hnote written, fun policy window =>
    ⟨_, prints_failure (Policy.fits_of_le window) cause _,
      Excerpt.getLast?_lines_render hnote written window⟩⟩
  case kept =>
    show written <+: Text.appendNote written note
    rw [hstderr, List.append_assoc]
    exact List.prefix_append _ _

/-- A command that had written two lines, the second of them up to a carriage return, when its time
limit expired, under a policy that shows only one line of the end. -/
theorem Killed.note_last_limit :
    let command : Command := ⟨"make".toList, none, some ⟨1500000000⟩⟩
    let written := "a\nb\r".toList
    let note := "command timed out after 1.5s and was killed".toList
    let result := Result.ofEnding command .timedOut [] written
    let policy : Policy := ⟨1, 0, 1⟩
    result.Killed written note ∧
    policy.head.toNat + policy.tail.toNat ≤ policy.maxLines.toNat ∧
    1 ≤ policy.tail.toNat ∧ result.stderr = written ++ ['\n'] ++ note ∧
    ∃ printed, result.Prints ⟨policy, false⟩ printed ∧
      (Text.lines printed).getLast? = some note := by
  intro command written note result policy
  have hkilled : result.Killed written note := by
    have hnote : "command timed out after ".toList ++ Duration.describe ⟨1500000000⟩ ++
        " and was killed".toList = note := by decide +kernel
    rw [← hnote]
    exact killed_of_timedOut rfl [] written
  have window : policy.head.toNat + policy.tail.toNat ≤ policy.maxLines.toNat := by decide
  have hshown : 1 ≤ policy.tail.toNat := by decide
  obtain ⟨hstderr, -, -, hprinted⟩ := Killed.note_last hkilled
  obtain ⟨printed, hprints, hlast⟩ := hprinted policy window
  exact ⟨hkilled, window, hshown, hstderr, printed, hprints, hlast (.inl hshown)⟩

end Result

end Runbook
