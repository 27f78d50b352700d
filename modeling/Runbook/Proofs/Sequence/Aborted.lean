import Runbook.Proofs.Excerpt.Ends
import Runbook.Proofs.Highlight
import Runbook.Proofs.Sequence.FailFast
import Runbook.Proofs.Sequence.Order

/-!
# No abort is silent

A failure always has something to read on its standard error (`Result.FailureShape`), and the
excerpt of a text that is not blank shows a line that is not, with and without colour. So a failure
puts the excerpt on the console, and a reader finds in it a line of what the command wrote
(`Result.Tells`, `Result.exists_tells`); only a policy that shows no line of a long text may leave
nothing but the separator.

A run is aborted by its last command (`Sequence.steps_of_aborted`), and what that tells is the last
part of what the run has printed (`Sequence.aborted_tells`).
-/

namespace Runbook

/-! ## Failures -/

namespace Result

/-- What a failure prints is `text`: the excerpt of its standard error, in red if colour is wanted.
That is something, and if the policy shows any line of a text at all, then one of the printed lines
is not blank and is a line of the standard error but for blanks at its ends. -/
structure Tells (display : Display) (result : Result) (text : Text) : Prop where
  prints : result.Prints display text
  excerpt : ∃ excerpt, Excerpt.abridge display.policy result.stderr = .ok excerpt ∧
    text = if display.color then highlight excerpt.render else excerpt.render
  ne_nil : text ≠ []
  visible : 1 ≤ display.policy.head.toNat + display.policy.tail.toNat →
    ∃ whole ∈ Text.lines result.stderr, ∃ line, Text.LosesBlanks whole line ∧
      (∃ c ∈ line, Text.isBlank c = false) ∧
      (if display.color then inRed line else line) ∈ Text.lines text

/-- Every failure that there is tells something. -/
theorem exists_tells {display : Display}
    (window : display.policy.head.toNat + display.policy.tail.toNat ≤
      display.policy.maxLines.toNat)
    {result : Result} (built : result.Built) (failed : result.isSuccess = false) :
    ∃ text, result.Tells display text := by
  obtain ⟨policy, color⟩ := display
  rcases built.cases with ⟨stdout, rfl⟩ | hshape
  · cases failed
  cases result with
  | success stdout => cases failed
  | failure cause stderr =>
    have fits := Policy.fits_of_le window
    have hvisible : Text.blank stderr = false := Text.blank_eq_false_iff.mpr hshape.stderr
    have hne : stderr ≠ [] := by
      rintro rfl
      cases hvisible
    let plain := (Excerpt.ofText policy stderr).render
    have hplain : plain ≠ [] := by
      intro hnil
      have hlast : plain.getLast? = some '\n' := Excerpt.getLast?_render_ofText policy hne
      rw [hnil] at hlast
      cases hlast
    have hline := fun hshown : 1 ≤ policy.head.toNat + policy.tail.toNat =>
      Excerpt.exists_visible_printed window hshown hvisible
    have hexcerpt := Excerpt.abridge_of_fits fits stderr
    cases color with
    | false =>
      refine ⟨plain, prints_failure fits cause stderr, ⟨_, hexcerpt, rfl⟩, hplain,
        fun hshown => ?_⟩
      obtain ⟨whole, hwhole, line, hmem, hleft, hblank⟩ := hline hshown
      exact ⟨whole, hwhole, line, hleft, Text.blank_eq_false_iff.mp hblank, hmem⟩
    | true =>
      refine ⟨highlight plain, prints_failure_colored fits cause stderr, ⟨_, hexcerpt, rfl⟩, ?_,
        fun hshown => ?_⟩
      · intro hnil
        have hlast := getLast?_highlight hplain
        rw [hnil] at hlast
        cases hlast
      · obtain ⟨whole, hwhole, line, hmem, hleft, hblank⟩ := hline hshown
        refine ⟨whole, hwhole, line, hleft, Text.blank_eq_false_iff.mp hblank, ?_⟩
        rw [lines_highlight]
        exact List.mem_map_of_mem hmem

/-- What a failure tells is what it puts on the console. -/
theorem Tells.bytes_eq {display : Display} {result : Result} {text : Text}
    (h : result.Tells display text) : result.bytes display = Text.utf8 text := by
  rw [bytes, h.prints.render]

end Result

/-- A text that holds anything has bytes. -/
theorem Text.utf8_ne_nil {t : Text} (h : t ≠ []) : utf8 t ≠ [] := by
  obtain ⟨c, t, rfl⟩ := List.exists_cons_of_ne_nil h
  rw [utf8, List.flatMap_cons]
  refine List.append_ne_nil_of_left_ne_nil (fun hnil => ?_) _
  have hpos := Char.utf8Size_pos c
  rw [← String.length_utf8EncodeChar, hnil] at hpos
  exact absurd hpos (Nat.lt_irrefl 0)

namespace Sequence

/-! ## Runs -/

section
variable {σ : Type} (execute : Executor σ) (display : Display) (commands : List Command)
  (initial : σ) (opening : Sink)

/-- A run is aborted by the last command that it starts. -/
theorem steps_of_aborted {summary : Summary} {index : Nat} {label : Text} {failure : Failure}
    (hok : (run execute display commands initial opening).ending = .ok summary)
    (haborted : summary.outcome = .aborted index label failure) :
    ∃ earlier step, (run execute display commands initial opening).steps = earlier ++ [step] ∧
      earlier.length = index ∧ step.command.label = label ∧
      step.result.failure? = some failure := by
  rw [run_eq_follow, Course.toRun] at hok ⊢
  rcases stop_cases execute commands initial display opening with
    ⟨hstop, -⟩ | ⟨step, cause, hstop, -, hlast, hcause⟩ | ⟨fault, hstop, -⟩
  · rw [hstop] at hok
    cases hok
    cases haborted
  · obtain ⟨earlier, hsteps⟩ := List.getLast?_eq_some_iff.mp hlast
    rw [hstop] at hok
    cases hok
    cases haborted
    refine ⟨earlier, step, hsteps, ?_, rfl, hcause⟩
    rw [hsteps, List.length_append, List.length_singleton, Nat.add_sub_cancel]
  · rw [hstop] at hok
    cases hok

/-- The results of a run come from the executor. -/
theorem forall_mem_steps {p : Result → Prop}
    (hexecute : ∀ state command, p (execute state command).1) :
    ∀ step ∈ (run execute display commands initial opening).steps, p step.result := by
  intro step hstep
  obtain ⟨k, hk⟩ := List.mem_iff_getElem?.mp hstep
  obtain ⟨-, -, state, -, -, -, -, hresult⟩ :=
    run_turn execute display commands initial opening hk
  rw [← hresult]
  exact hexecute state step.command

end

/-- No abort is silent, under a policy whose window is no longer than a text shown in full. Every
failure that there is tells something, in colour and without. And a run that ends aborted, by a
command of the number and label that its summary gives, has printed what its results come to, and
the last part of that is what the failure of this command tells, which is not empty. -/
theorem aborted_tells {display : Display}
    (window : display.policy.head.toNat + display.policy.tail.toNat ≤
      display.policy.maxLines.toNat) :
    (∀ result : Result, result.Built → result.isSuccess = false →
      ∃ text, result.Tells display text) ∧
    ∀ (σ : Type) (execute : Executor σ) (commands : List Command) (initial : σ) (opening : Sink),
      (∀ state command, (execute state command).1.Built) →
      let run := run execute display commands initial opening
      ∀ summary index label failure, run.ending = .ok summary →
        summary.outcome = .aborted index label failure →
        ∃ earlier step text, run.steps = earlier ++ [step] ∧ earlier.length = index ∧
          step.command.label = label ∧ step.result.failure? = some failure ∧
          step.result.Tells display text ∧ Text.utf8 text ≠ [] ∧
          run.console.received =
            opening.received ++ (printed display earlier ++ Text.utf8 text) := by
  refine ⟨fun result built failed => Result.exists_tells window built failed, ?runs⟩
  intro σ execute commands initial opening hbuilt run summary index label failure hok haborted
  obtain ⟨earlier, step, hsteps, hindex, hlabel, hfailure⟩ :=
    steps_of_aborted execute display commands initial opening hok haborted
  have hstep : step ∈ run.steps := by
    rw [hsteps]
    exact List.mem_append_right _ (List.mem_singleton_self step)
  have built := forall_mem_steps execute display commands initial opening hbuilt step hstep
  have failed : step.result.isSuccess = false := by
    rw [Result.isSuccess, hfailure]
    rfl
  obtain ⟨text, htext⟩ := Result.exists_tells window built failed
  obtain ⟨last, hsettled⟩ := settled_of_ok execute display commands initial opening hok
  refine ⟨earlier, step, text, hsteps, hindex, hlabel, hfailure, htext,
    Text.utf8_ne_nil htext.ne_nil, ?_⟩
  rw [hsettled.received, hsteps, printed, List.flatMap_append, List.flatMap_singleton,
    htext.bytes_eq]
  rfl

/-- A failure whose lines are blank between the first and the last, of which the policy shows the
last, and a run over three commands of which the second fails without a word of its own. -/
theorem aborted_tells_second :
    let display : Display := ⟨⟨1, 0, 1⟩, true⟩
    let result : Result := .ofStatus 2 "\n  a\n\nb \r\n".toList
    let commands : List Command :=
      [⟨['a'], none, none⟩, ⟨['b'], some ['n'], none⟩, ⟨['c'], none, none⟩]
    let run := run (failingAt ['b']) display commands 0 (.empty none)
    display.policy.head.toNat + display.policy.tail.toNat ≤ display.policy.maxLines.toNat ∧
    (result.Built ∧ result.isSuccess = false ∧
      result.Tells display "\u001b[31m...\u001b[39m\n\u001b[31mb\u001b[39m\n".toList) ∧
    (∀ state command, (failingAt ['b'] state command).1.Built) ∧
    run.ending = .ok ⟨2, 3, .aborted 1 ['n'] (.exited 3)⟩ ∧
    ∃ earlier step text, run.steps = earlier ++ [step] ∧ earlier.length = 1 ∧
      step.result.Tells display text ∧
      run.console.received = printed display earlier ++ Text.utf8 text := by
  intro display result commands run
  have window : display.policy.head.toNat + display.policy.tail.toNat ≤
      display.policy.maxLines.toNat := by decide
  have built : result.Built := .ofStatus 2 _
  have failed : result.isSuccess = false := rfl
  have hexecute : ∀ state command, (failingAt ['b'] state command).1.Built := by
    intro state command
    rw [failingAt]
    split
    · exact .ofStatus 3 []
    · exact .success command.line
  have hok : run.ending = .ok ⟨2, 3, .aborted 1 ['n'] (.exited 3)⟩ := by
    have hcourse : run = _ := run_eq_follow (failingAt ['b']) display commands 0 (.empty none)
    rw [hcourse]
    decide +kernel
  obtain ⟨hresults, hruns⟩ := aborted_tells window
  obtain ⟨text, htext⟩ := hresults result built failed
  have hvalue : result.render display =
      .ok "\u001b[31m...\u001b[39m\n\u001b[31mb\u001b[39m\n".toList := by decide +kernel
  obtain rfl := Except.ok.inj (htext.prints.render.symm.trans hvalue)
  obtain ⟨earlier, step, shown, hsteps, hindex, -, -, htells, -, hreceived⟩ :=
    hruns Nat (failingAt ['b']) commands 0 (.empty none) hexecute _ _ _ _ hok rfl
  exact ⟨window, ⟨built, failed, htext⟩, hexecute, hok, earlier, step, shown, hsteps, hindex,
    htells, hreceived⟩

end Sequence

end Runbook
