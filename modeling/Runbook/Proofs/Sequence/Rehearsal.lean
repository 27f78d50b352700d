import Mathlib.Data.List.Induction
import Runbook.Proofs.Sequence.FailFast
import Runbook.Proofs.Sequence.FullConsole
import Runbook.Proofs.Text.Utf8
import Runbook.Sequence.Rehearsal

/-!
# Rehearsals stand in for runs

`Rehearsal.perform_faithful`: a rehearsal shows what a run shows whose executor gives every line the
result that was scripted last for it (`lastResult`), and its sheet tells which lines were run: those
up to the first failure, after what the sheet held before. Nothing else about the script matters, so
that entries in another order, with the same last results, make no difference.

The comparison is by a relation between the states of two executors. If they answer alike in related
states, and each call leaves related states, then two runs take the same course (`run_alike`). What
the executor is left in needs no comparison: its calls only ever add to the sheet
(`Rehearsal.stateAfter_execute`).
-/

namespace Runbook.Sequence

variable {σ τ : Type}

/-! ## Executors that answer alike -/

/-- In related states the two executors give the same results, and are left in related states. -/
def Alike (related : σ → τ → Prop) (execute : Executor σ) (execute' : Executor τ) : Prop :=
  ∀ state state', related state state' → ∀ command,
    (execute state command).1 = (execute' state' command).1 ∧
      related (execute state command).2 (execute' state' command).2

section
variable {related : σ → τ → Prop} {execute : Executor σ} {execute' : Executor τ}
  (alike : Alike related execute execute') (display : Display) (commands : List Command)
  {state : σ} {state' : τ} (console : Sink)
include alike

/-- From related states executors that are alike take the same course. -/
theorem follow_alike (h : related state state') :
    let course := follow execute display commands state console
    let course' := follow execute' display commands state' console
    course.steps = course'.steps ∧ course.console = course'.console ∧ course.stop = course'.stop ∧
      related course.executor course'.executor := by
  induction commands generalizing state state' console with
  | nil => exact ⟨rfl, rfl, rfl, h⟩
  | cons command rest ih =>
    obtain ⟨hresult, hnext⟩ := alike state state' h command
    rcases he : execute state command with ⟨result, next⟩
    rw [he] at hresult hnext
    -- The results agree, so that showing them does too, and both go on or both stop.
    have he' : execute' state' command = (result, _) := Prod.ext hresult.symm rfl
    rcases hr : (result.report display).run console with ⟨fault | ⟨⟩, console'⟩
    · rw [follow_broken he hr, follow_broken he' hr]
      exact ⟨rfl, rfl, rfl, hnext⟩
    · cases hf : result.failure? with
      | some failure =>
        rw [follow_failed he hr hf, follow_failed he' hr hf]
        exact ⟨rfl, rfl, rfl, hnext⟩
      | none =>
        obtain ⟨hsteps, hrest⟩ := ih console' hnext
        rw [follow_succeeded he hr hf, follow_succeeded he' hr hf]
        exact ⟨congrArg (_ :: ·) hsteps, hrest⟩

/-- The runs of executors that are alike cannot be told apart. -/
theorem run_alike (h : related state state') :
    let run := run execute display commands state console
    let run' := Sequence.run execute' display commands state' console
    run.steps = run'.steps ∧ run.shown? = run'.shown? ∧ related run.executor run'.executor := by
  obtain ⟨hsteps, hconsole, hstop, hrelated⟩ := follow_alike alike display commands console h
  simp only [run_eq_follow, Course.toRun, Run.shown?, hsteps, hconsole, hstop]
  exact ⟨trivial, trivial, hrelated⟩

end

/-! ## What is shown -/

/-- What results put on the console is a text. -/
theorem exists_printed_eq_utf8 (display : Display) (steps : List Step) :
    ∃ text, printed display steps = Text.utf8 text := by
  induction steps with
  | nil => exact ⟨[], rfl⟩
  | cons step rest ih =>
    obtain ⟨text, htext⟩ := ih
    have hbytes : ∃ first, step.result.bytes display = Text.utf8 first := by
      rw [Result.bytes]
      cases step.result.render display with
      | ok first => exact ⟨first, rfl⟩
      | error operation => exact ⟨[], rfl⟩
    obtain ⟨first, hfirst⟩ := hbytes
    refine ⟨first ++ text, ?_⟩
    rw [Text.utf8, List.flatMap_append, printed, List.flatMap_cons, hfirst]
    exact congrArg (Text.utf8 first ++ ·) htext

/-- A run over a console without a limit shows a summary and a text. -/
theorem exists_shown?_eq_some (execute : Executor σ) {display : Display} (commands : List Command)
    (state : σ) (fits : display.policy.Fits) :
    ∃ shown, (run execute display commands state (.empty none)).shown? = some shown := by
  obtain ⟨summary, hok, -⟩ := run_summary execute commands state fits
    (rfl : (Sink.empty none).capacity = none)
  obtain ⟨hreceived, -⟩ := run_full execute display commands state 0
  obtain ⟨text, htext⟩ := exists_printed_eq_utf8 display
    (run execute display commands state (.empty none)).steps
  refine ⟨(summary, text), ?_⟩
  rw [Run.shown?, hok, hreceived, htext, Utf8.decode?_utf8]
  rfl

/-! ## Scripts -/

/-- The result that was scripted last for a line, or else a success without output. -/
def lastResult (entries : List (Text × Result)) (line : Text) : Result :=
  ((entries.filter (·.1 = line)).getLast?.map (·.2)).getD (.success [])

/-- One more entry counts for its own line and for no other. -/
theorem lastResult_concat (entries : List (Text × Result)) (entry : Text × Result) (line : Text) :
    lastResult (entries ++ [entry]) line =
      if entry.1 = line then entry.2 else lastResult entries line := by
  by_cases h : entry.1 = line <;> simp [lastResult, List.filter_append, h]

namespace Script

/-- A line keeps what it has when the entries of another are left out. -/
theorem lookup_filter_ne {line other : Text} (h : other ≠ line) (entries : List (Text × Result)) :
    (entries.filter (·.1 ≠ line)).lookup other = entries.lookup other := by
  induction entries with
  | nil => rfl
  | cons entry rest ih =>
    obtain ⟨key, result⟩ := entry
    by_cases hkey : key = line
    · have hother : (other == key) = false := by rw [hkey]; exact beq_false_of_ne h
      rw [List.filter_cons_of_neg (by simpa using hkey), ih, List.lookup_cons, hother]
    · rw [List.filter_cons_of_pos (by simpa using hkey), List.lookup_cons, List.lookup_cons, ih]

/-- A result that is put into a script is that of its line, and no other line is concerned. -/
theorem resultOf_put (script : Script) (line : Text) (result : Result) (other : Text) :
    (script.put line result).resultOf other =
      if line = other then result else script.resultOf other := by
  rw [resultOf, put, List.lookup_cons]
  by_cases h : line = other
  · rw [if_pos h, h, beq_self_eq_true]
    rfl
  · rw [if_neg h, beq_false_of_ne (Ne.symm h), lookup_filter_ne (Ne.symm h)]
    rfl

end Script

namespace Rehearsal

/-- The policy that results are shown under fits. -/
theorem fits_default (color : Bool) : (Display.mk .default color).policy.Fits :=
  (by decide : Policy.default.Fits)

/-- The entries go into the script; everything else stays. -/
theorem addAll_eq (rehearsal : Rehearsal) (entries : List (Text × Result)) :
    rehearsal.addAll entries =
      let put (script : Script) (entry : Text × Result) := script.put entry.1 entry.2
      { rehearsal with script := entries.foldl put rehearsal.script } := by
  induction entries generalizing rehearsal with
  | nil => rfl
  | cons entry rest ih => exact ih (rehearsal.add entry.1 entry.2)

/-- Of the entries for a line the last one counts. -/
theorem resultOf_addAll (sheets : List (List Text)) (own : Fin sheets.length)
    (entries : List (Text × Result)) (line : Text) :
    ((on sheets own).addAll entries).script.resultOf line = lastResult entries line := by
  induction entries using List.reverseRecOn with
  | nil => rfl
  | append_singleton entries entry ih =>
    rw [addAll, List.foldl_append, lastResult_concat, ← ih]
    exact Script.resultOf_put _ entry.1 entry.2 line

/-! ## Sheets -/

theorem sheets_note (rehearsal : Rehearsal) (lines : List Text) :
    (rehearsal.note lines).sheets = rehearsal.sheets.set rehearsal.own (rehearsal.ran ++ lines) :=
  rfl

@[simp] theorem ran_note (rehearsal : Rehearsal) (lines : List Text) :
    (rehearsal.note lines).ran = rehearsal.ran ++ lines := by
  simp [ran, note]

/-- Nothing is changed by noting nothing. -/
theorem note_nil (rehearsal : Rehearsal) : rehearsal.note [] = rehearsal := by
  simp [note, ran]

/-- Lines are noted after those that were noted before. -/
theorem note_note (rehearsal : Rehearsal) (lines later : List Text) :
    (rehearsal.note lines).note later = rehearsal.note (lines ++ later) := by
  simp [note, ran]

/-- All that commands do to a rehearsal is to leave their lines on its sheet. -/
theorem stateAfter_execute (rehearsal : Rehearsal) (commands : List Command) :
    stateAfter execute rehearsal commands = rehearsal.note (commands.map (·.line)) := by
  induction commands generalizing rehearsal with
  | nil => exact (note_nil rehearsal).symm
  | cons command rest ih => exact (ih _).trans (note_note rehearsal [command.line] _)

/-- The results that commands get are those of the script. -/
theorem answers_execute (rehearsal : Rehearsal) (commands : List Command) :
    answers execute rehearsal commands =
      commands.map fun command => rehearsal.script.resultOf command.line := by
  induction commands generalizing rehearsal with
  | nil => rfl
  | cons command rest ih => exact congrArg (_ :: ·) (ih _)

/-- A performance notes the lines of the commands up to the first failure, and no others. -/
theorem executor_perform (rehearsal : Rehearsal) (color : Bool) (commands : List Command) :
    let results := commands.map fun command => rehearsal.script.resultOf command.line
    (rehearsal.perform color commands).executor =
      rehearsal.note ((commands.take (started results)).map (·.line)) := by
  obtain ⟨-, -, hexecutor⟩ := run_calls execute commands rehearsal (fits_default color)
    (rfl : (Sink.empty none).capacity = none)
  rw [answers_execute, stateAfter_execute] at hexecutor
  exact hexecutor

/-- After a performance the sheet of a rehearsal holds the lines of the commands up to the first
failure, after the ones that it held before, and the other sheets are as they were. -/
theorem sheets_perform (sheets : List (List Text)) (own : Fin sheets.length)
    (entries : List (Text × Result)) (color : Bool) (commands : List Command) :
    let run := ((on sheets own).addAll entries).perform color commands
    let results := commands.map fun command => lastResult entries command.line
    let lines := sheets.get own ++ (commands.take (started results)).map (·.line)
    run.executor.ran = lines ∧ run.executor.sheets = sheets.set own lines := by
  intro run results lines
  have hexecutor := executor_perform ((on sheets own).addAll entries) color commands
  simp only [resultOf_addAll] at hexecutor
  have hbefore : ((on sheets own).addAll entries).ran = sheets.get own := by
    rw [addAll_eq]
    rfl
  have hran : run.executor.ran = lines := by
    rw [hexecutor, ran_note, hbefore]
  refine ⟨hran, ?_⟩
  rw [hexecutor, sheets_note, hbefore, addAll_eq]
  rfl

/-- A rehearsal answers like any executor that gives every line its result under the script. -/
theorem alike_of_answers {execute' : Executor τ} {script : Script}
    (h : ∀ state command, (execute' state command).1 = script.resultOf command.line) :
    Alike (fun rehearsal _ => rehearsal.script = script) execute execute' := by
  rintro rehearsal state rfl command
  exact ⟨(h state command).symm, rfl⟩

/-- Two rehearsals answer alike if every line has the same result under their scripts. -/
theorem alike_of_resultOf_eq {script script' : Script}
    (h : ∀ line, script'.resultOf line = script.resultOf line) :
    Alike (fun rehearsal rehearsal' => rehearsal.script = script ∧ rehearsal'.script = script')
      execute execute := by
  rintro rehearsal rehearsal' ⟨rfl, rfl⟩ command
  exact ⟨(h command.line).symm, rfl, rfl⟩

/-- A rehearsal is a faithful stand-in. It shows a summary and a text, and these are what a run
shows under any executor that gives each line the result that was scripted last for it. What it has
noted is found on its sheet by whoever holds it: after what the sheet held before, the lines of the
commands up to the first one whose last result is a failure, in their order, and of all commands if
there is none; the other sheets are left as they were. So rehearsals of any entries that come to the
same last results are not told apart. -/
theorem perform_faithful (sheets : List (List Text)) (own : Fin sheets.length)
    (entries : List (Text × Result)) (color : Bool) (commands : List Command) :
    let run := ((on sheets own).addAll entries).perform color commands
    let results := commands.map fun command => lastResult entries command.line
    let lines := sheets.get own ++ (commands.take (started results)).map (·.line)
    (∃ summary text, run.shown? = some (summary, text) ∧
      ∀ (σ : Type) (execute : Executor σ) (initial : σ),
        (∀ state command, (execute state command).1 = lastResult entries command.line) →
        (Sequence.run execute ⟨.default, color⟩ commands initial (.empty none)).shown? =
          some (summary, text)) ∧
    (run.executor.ran = lines ∧ run.executor.sheets[own.val]? = some lines ∧
      run.executor.sheets = sheets.set own lines) ∧
    ∀ entries', (∀ line, lastResult entries' line = lastResult entries line) →
      let run' := ((on sheets own).addAll entries').perform color commands
      run'.steps = run.steps ∧ run'.shown? = run.shown? ∧
        run'.executor.ran = run.executor.ran ∧ run'.executor.sheets = run.executor.sheets := by
  intro run results lines
  obtain ⟨hran, hsheets⟩ := sheets_perform sheets own entries color commands
  refine ⟨?shown, ⟨hran, ?held, hsheets⟩, fun entries' hsame => ?alike⟩
  case shown =>
    obtain ⟨⟨summary, text⟩, hshown⟩ := exists_shown?_eq_some execute commands
      ((on sheets own).addAll entries) (fits_default color)
    refine ⟨summary, text, hshown, fun σ execute' initial hanswers => ?_⟩
    have alike : Alike _ execute execute' := alike_of_answers fun state command =>
      (hanswers state command).trans (resultOf_addAll sheets own entries command.line).symm
    rw [← (run_alike alike _ commands _ rfl).2.1]
    exact hshown
  case held =>
    rw [hsheets, List.getElem?_set_self own.isLt]
  case alike =>
    have hresults : ∀ line, ((on sheets own).addAll entries').script.resultOf line =
        ((on sheets own).addAll entries).script.resultOf line := fun line => by
      rw [resultOf_addAll, resultOf_addAll, hsame]
    obtain ⟨hsteps, hshown, -⟩ := run_alike (alike_of_resultOf_eq hresults) ⟨.default, color⟩
      commands (.empty none) ⟨rfl, rfl⟩
    obtain ⟨hran', hsheets'⟩ := sheets_perform sheets own entries' color commands
    simp only [hsame] at hran' hsheets'
    exact ⟨hsteps.symm, hshown.symm, hran'.trans hran.symm, hsheets'.trans hsheets.symm⟩

/-- Of two sheets the second is noted on. Of three lines `a` is scripted twice and is run twice, the
second time under a name, `b` fails, and `c`, which is not scripted, is not run. The other entries
are in another order and come to the same results. -/
theorem perform_faithful_twice :
    let sheets : List (List Text) := [[['z']], []]
    let own : Fin sheets.length := ⟨1, Nat.one_lt_two⟩
    let failed : Result := .ofStatus 3 ['n', 'o']
    let entries := [(['a'], .ofStatus 1 []), (['b'], failed), (['a'], .success ['o', 'k'])]
    let entries' := [(['a'], .success ['o', 'k']), (['c'], .success []), (['b'], failed)]
    let commands : List Command := [⟨['a'], none, none⟩, ⟨['a'], some ['n'], none⟩,
      ⟨['b'], some ['n'], none⟩, ⟨['c'], none, none⟩]
    let answering : Executor Nat := fun calls command =>
      (lastResult entries command.line, calls + 1)
    let run := ((on sheets own).addAll entries).perform false commands
    let run' := ((on sheets own).addAll entries').perform false commands
    let shown : Summary × Text := (⟨3, 4, .aborted 2 ['n'] (.exited 3)⟩, "ok\nok\nno\n".toList)
    run.shown? = some shown ∧
      (Sequence.run answering ⟨.default, false⟩ commands 0 (.empty none)).shown? = some shown ∧
      run.executor.ran = [['a'], ['a'], ['b']] ∧
      run.executor.sheets = [[['z']], [['a'], ['a'], ['b']]] ∧
      (∀ line, lastResult entries' line = lastResult entries line) ∧
      run'.shown? = run.shown? ∧ run'.executor.sheets = run.executor.sheets := by
  intro sheets own failed entries entries' commands answering run run' shown
  obtain ⟨⟨summary, text, hshown, hanswering⟩, ⟨hran, -, hsheets⟩, halike⟩ :=
    perform_faithful sheets own entries false commands
  have hvalue : run.shown? = some shown := by
    have hcourse : run = _ := run_eq_follow execute ⟨.default, false⟩ commands
      ((on sheets own).addAll entries) (.empty none)
    rw [hcourse]
    decide +kernel
  have hsame : ∀ line, lastResult entries' line = lastResult entries line := by
    intro line
    by_cases ha : ['a'] = line
    · rw [← ha]
      rfl
    by_cases hb : ['b'] = line
    · rw [← hb]
      rfl
    by_cases hc : ['c'] = line
    · rw [← hc]
      rfl
    simp [lastResult, entries, entries', ha, hb, hc]
  obtain ⟨-, hshown', -, hsheets'⟩ := halike entries' hsame
  rw [Option.some.inj (hshown.symm.trans hvalue)] at hanswering
  exact ⟨hvalue, hanswering Nat answering 0 fun _ _ => rfl, hran, hsheets, hsame, hshown', hsheets'⟩

end Rehearsal

end Runbook.Sequence
