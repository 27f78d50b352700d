import Runbook.Proofs.Sequence.Loop

/-!
# Stopping at the first failure

`run_failFast` says all that a run over a console without a limit does. The commands that it starts
are found by looking at the results that the executor would give to the whole list (`answers`): they
are those up to the first failure (`started`). The executor is called with them and with nothing
else, and the summary names the command that failed, if there is one. No turn of the loop is given
an index outside of the list, and the loop ends with all commands completed or one of them aborted.

The window of the policy has to fit in a machine word, as it does in every plan
(`Plan.fits_of_resolve`).
-/

namespace Runbook.Sequence

variable {σ : Type}

/-- How many commands are started when these are the results: those up to the first failure, or all
of them if there is none. -/
def started (results : List Result) : Nat :=
  match results.findIdx? (fun result => result.failure?.isSome) with
  | some index => index + 1
  | none => results.length

/-- A failure is the last result that is asked for. -/
theorem started_cons_of_some {result : Result} {failure : Failure}
    (h : result.failure? = some failure) (rest : List Result) : started (result :: rest) = 1 := by
  simp [started, List.findIdx?_cons, h]

/-- A success is followed by what the rest comes to. -/
theorem started_cons_of_none {result : Result} (h : result.failure? = none)
    (rest : List Result) : started (result :: rest) = started rest + 1 := by
  simp only [started, List.findIdx?_cons, h, Option.isSome_none, Bool.false_eq_true, if_false,
    List.length_cons]
  cases rest.findIdx? (fun result => result.failure?.isSome) <;> rfl

/-- At least one command is started if there is one. -/
theorem started_cons_pos (result : Result) (rest : List Result) : 1 ≤ started (result :: rest) := by
  cases h : result.failure? with
  | some failure => exact Nat.le_of_eq (started_cons_of_some h rest).symm
  | none =>
    rw [started_cons_of_none h]
    exact Nat.le_add_left 1 _

section
variable (execute : Executor σ) {display : Display} (commands : List Command) (state : σ)
  {console : Sink}

/-- A course ends after the last command, all having succeeded, or with the one that failed, or
earlier, with a result that the console has no room for. -/
theorem stop_cases (display : Display) (console : Sink) :
    let course := follow execute display commands state console
    let m := started (answers execute state commands)
    (course.stop = .exhausted ∧ course.steps.length = m ∧
      course.steps.length = commands.length ∧ ∀ step ∈ course.steps, step.result.failure? = none) ∨
    (∃ step failure, course.stop = .failed step.command failure ∧ course.steps.length = m ∧
      course.steps.getLast? = some step ∧ step.result.failure? = some failure) ∨
    ∃ fault, course.stop = .broken fault ∧ course.steps.length ≤ m ∧
      (display.policy.Fits → fault = .refused .sinkFull ∧ console.capacity ≠ none) := by
  fun_induction follow execute display commands state console with
  | case1 => exact .inl ⟨rfl, rfl, rfl, fun _ h => absurd h List.not_mem_nil⟩
  | case2 command rest state console result state' he step fault console' hr =>
    refine .inr (.inr ⟨fault, rfl, started_cons_pos _ _, fun fits => ?_⟩)
    exact Result.fault_of_fits fits hr
  | case3 command rest state console result state' he step console' hr failure hf =>
    exact .inr (.inl ⟨step, failure, rfl, by simp [answers, he, started_cons_of_some hf], rfl, hf⟩)
  | case4 command rest state console result state' he step console' hr hf ih =>
    have hm : started (answers execute state (command :: rest)) =
        started (answers execute state' rest) + 1 := by
      simp [answers, he, started_cons_of_none hf]
    rw [hm]
    rcases ih with ⟨hstop, hlength, hcommands, hall⟩ |
      ⟨last, failure, hstop, hlength, hlast, hfailure⟩ | ⟨fault, hstop, hlength, hfault⟩
    · refine .inl ⟨hstop, by simp [Course.cons, hlength], by simp [Course.cons, hcommands], ?_⟩
      rintro s (_ | ⟨_, hs⟩)
      · exact hf
      · exact hall s hs
    · refine .inr (.inl ⟨last, failure, hstop, by simp [Course.cons, hlength], ?_, hfailure⟩)
      rw [Course.cons, List.getLast?_cons, hlast]
      rfl
    · rw [Result.capacity_report hr] at hfault
      exact .inr (.inr ⟨fault, hstop, by simpa [Course.cons] using hlength, hfault⟩)

/-- A run starts the commands up to the first failure, and its summary says whether there is one;
or it has started no more than those when the console has no room for a result. -/
theorem run_ending (display : Display) (fits : display.policy.Fits) (console : Sink) :
    let run := run execute display commands state console
    let results := answers execute state commands
    (run.steps.length = started results ∧ ∃ summary, run.ending = .ok summary ∧
      (summary.isAborted = true ↔
        ∃ result ∈ results.take run.steps.length, result.failure?.isSome = true)) ∨
    (run.steps.length ≤ started results ∧ run.ending = .error (.refused .sinkFull)) := by
  have hresults := (follow_calls execute display commands state console).2.1
  simp only [run_eq_follow, Course.toRun, ← hresults]
  rcases stop_cases execute commands state display console with
    ⟨hstop, hlength, -, hall⟩ | ⟨step, failure, hstop, hlength, hlast, hfailure⟩ |
    ⟨fault, hstop, hlength, hfault⟩
  · refine .inl ⟨hlength, ⟨_, _, .completed⟩, by rw [hstop]; rfl,
      fun h => absurd h Bool.false_ne_true, ?_⟩
    rintro ⟨result, hresult, hfailed⟩
    obtain ⟨step, hstep, rfl⟩ := List.mem_map.mp hresult
    rw [hall step hstep] at hfailed
    cases hfailed
  · refine .inl ⟨hlength, _, by rw [hstop]; rfl, fun _ => ?_, fun _ => rfl⟩
    exact ⟨step.result, List.mem_map_of_mem (List.mem_of_getLast? hlast), by rw [hfailure]; rfl⟩
  · obtain ⟨rfl, -⟩ := hfault fits
    exact .inr ⟨hlength, by rw [hstop]; rfl⟩

/-- Over a console without a limit nothing ends a course early. -/
theorem stop_follow (fits : display.policy.Fits) (unlimited : console.capacity = none) :
    let course := follow execute display commands state console
    course.steps.length = started (answers execute state commands) ∧
    ((course.stop = .exhausted ∧ course.steps.length = commands.length ∧
      ∀ step ∈ course.steps, step.result.failure? = none) ∨
    ∃ step failure, course.steps.getLast? = some step ∧ step.result.failure? = some failure ∧
      course.stop = .failed step.command failure) := by
  rcases stop_cases execute commands state display console with
    ⟨hstop, hlength, hcommands, hall⟩ | ⟨step, failure, hstop, hlength, hlast, hfailure⟩ |
    ⟨fault, -, -, hfault⟩
  · exact ⟨hlength, .inl ⟨hstop, hcommands, hall⟩⟩
  · exact ⟨hlength, .inr ⟨step, failure, hlast, hfailure, hstop⟩⟩
  · exact absurd unlimited (hfault fits).2

/-- The executor is called with the commands up to the first one that fails, and no others. -/
theorem run_calls (fits : display.policy.Fits) (unlimited : console.capacity = none) :
    let run := run execute display commands state console
    let m := started (answers execute state commands)
    run.steps.map (·.command) = commands.take m ∧
      run.steps.map (·.result) = (answers execute state commands).take m ∧
      run.executor = stateAfter execute state (commands.take m) := by
  rw [run_eq_follow, ← (stop_follow execute commands state fits unlimited).1]
  exact follow_calls execute display commands state console

/-- The summary counts the commands up to the first failure and names the one that failed. -/
theorem run_summary (fits : display.policy.Fits) (unlimited : console.capacity = none) :
    let run := run execute display commands state console
    ∃ summary, run.ending = .ok summary ∧ summary.total = commands.length ∧
      summary.executed = started (answers execute state commands) ∧
      (summary.outcome = .completed ↔ ∀ step ∈ run.steps, step.result.failure? = none) ∧
      (summary.outcome = .completed → summary.executed = summary.total) ∧
      ∀ index label failure, summary.outcome = .aborted index label failure →
        index + 1 = summary.executed ∧ ∃ step, run.steps[index]? = some step ∧
          label = step.command.name.getD step.command.line ∧
          step.result.failure? = some failure := by
  rw [run_eq_follow, ← (stop_follow execute commands state fits unlimited).1]
  rcases (stop_follow execute commands state fits unlimited).2 with
    ⟨hstop, hlength, hall⟩ | ⟨step, failure, hlast, hfailure, hstop⟩
  · refine ⟨⟨_, _, .completed⟩, by rw [Course.toRun, hstop]; rfl, rfl, rfl,
      ⟨fun _ => hall, fun _ => rfl⟩, fun _ => hlength, ?_⟩
    rintro index label failure ⟨⟩
  · refine ⟨⟨_, _, .aborted _ step.command.label failure⟩, by rw [Course.toRun, hstop]; rfl, rfl,
      rfl, ⟨fun h => Outcome.noConfusion h, fun hall => ?_⟩, fun h => Outcome.noConfusion h, ?_⟩
    · rw [hall step (List.mem_of_getLast? hlast)] at hfailure
      cases hfailure
    · rintro index label failure' ⟨⟩
      rw [List.getLast?_eq_getElem?] at hlast
      obtain ⟨hpos, -⟩ := List.getElem?_eq_some_iff.mp hlast
      exact ⟨Nat.sub_add_cancel (by omega), step, hlast, rfl, hfailure⟩

end

/-- A run over a console that never fails calls the executor with exactly the commands up to the
first one that fails, in their order, and says in its summary how many there were and which one
failed. Its loop never leaves the list of commands. -/
theorem run_failFast (execute : Executor σ) (display : Display) (commands : List Command)
    (state : σ) (console : Sink) (fits : display.policy.Fits)
    (unlimited : console.capacity = none) :
    let run := run execute display commands state console
    let results := answers execute state commands
    let m := started results
    (run.steps.map (·.command) = commands.take m ∧ run.steps.map (·.result) = results.take m ∧
      run.executor = stateAfter execute state (commands.take m)) ∧
    (∃ summary, run.ending = .ok summary ∧ summary.total = commands.length ∧
      summary.executed = m ∧
      (summary.outcome = .completed ↔ ∀ step ∈ run.steps, step.result.failure? = none) ∧
      (summary.outcome = .completed → summary.executed = summary.total) ∧
      ∀ index label failure, summary.outcome = .aborted index label failure → index + 1 = m ∧
        ∃ step, run.steps[index]? = some step ∧
          label = step.command.name.getD step.command.line ∧ step.result.failure? = some failure) ∧
    (∀ past machine state' console',
      Visits execute display commands state console past machine state' console' →
      (∀ index running, machine.next = (some index, running) → index < commands.length) ∧
      ∀ final, machine.next = (none, final) → final.state = .completed commands.length ∨
        ∃ index failure, final.state = .aborted index failure ∧ index + 1 ≤ commands.length) ∧
    ∃ last final, Visits execute display commands state console run.steps last run.executor
        run.console ∧ last.next = (none, final) ∧
      run.ending = .ok (.ofState commands final.state) := by
  intro run results m
  obtain ⟨summary, hok, htotal, hexecuted, hcompleted, hall, haborted⟩ :=
    run_summary execute commands state fits unlimited
  refine ⟨run_calls execute commands state fits unlimited,
    ⟨summary, hok, htotal, hexecuted, hcompleted, hall, ?_⟩,
    fun past machine state' console' h => ⟨fun _ _ => h.index_lt, fun _ => h.final_state⟩, ?_⟩
  · rw [hexecuted] at haborted
    exact haborted
  · obtain ⟨last, final, hlast, hover, rfl⟩ := Visits.exists_final .start hok
    exact ⟨last, final, hlast, hover, hok⟩

/-- An executor that counts its calls, and whose calls with one line fail. -/
def failingAt (line : Text) : Executor Nat := fun calls command =>
  (if command.line = line then .ofStatus 3 [] else .success command.line, calls + 1)

/-- Of three commands the second, which has a name, fails. -/
theorem run_failFast_second :
    let commands : List Command :=
      [⟨['a'], none, none⟩, ⟨['b'], some ['n'], none⟩, ⟨['c'], none, none⟩]
    let run := run (failingAt ['b']) ⟨.default, true⟩ commands 0 (.empty none)
    Policy.default.Fits ∧ (Sink.empty none).capacity = none ∧
      run.steps.map (·.command) = commands.take 2 ∧ run.executor = 2 ∧
      run.ending = .ok ⟨2, 3, .aborted 1 ['n'] (.exited 3)⟩ := by
  intro commands run
  have fits : Policy.default.Fits := by decide
  obtain ⟨⟨hcommands, hresults, hexecutor⟩,
      ⟨⟨executed, total, outcome⟩, hok, htotal, hexecuted, -, hall, haborted⟩, -⟩ :=
    run_failFast (failingAt ['b']) ⟨.default, true⟩ commands 0 (.empty none) fits rfl
  refine ⟨fits, rfl, hcommands, hexecutor, hok.trans ?_⟩
  obtain rfl : total = 3 := htotal
  obtain rfl : executed = 2 := hexecuted
  cases outcome with
  | completed => exact absurd (hall rfl) (by decide)
  | aborted index label failure =>
    obtain ⟨hindex, step, hstep, hlabel, hfailure⟩ := haborted index label failure rfl
    obtain rfl : index = 1 := Nat.succ.inj hindex
    have hcommand : some step.command = some ⟨['b'], some ['n'], none⟩ := by
      rw [← Option.map_some, ← hstep, ← List.getElem?_map, hcommands]
      rfl
    have hresult : some step.result = some (.ofStatus 3 []) := by
      rw [← Option.map_some, ← hstep, ← List.getElem?_map, hresults]
      rfl
    rw [Option.some.inj hcommand] at hlabel
    rw [Option.some.inj hresult] at hfailure
    cases hlabel
    cases hfailure
    rfl

end Runbook.Sequence
