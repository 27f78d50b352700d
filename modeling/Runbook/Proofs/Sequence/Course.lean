import Runbook.Proofs.Console
import Runbook.Proofs.Sequence.Machine
import Runbook.Sequence.Run

/-!
# The course of a run

`follow` tells a run without a machine and without indices, by recursion on the commands: each is
run and shown, and the next one follows unless it failed or the console did. `run_eq_follow` is the
agreement of the two: the loop over the machine takes the same steps, leaves the same console and
the same executor, and its summary says what the course says.
-/

namespace Runbook.Sequence

variable {σ : Type}

/-- Why a run goes no further. -/
inductive Stop where
  /-- There is no command left. -/
  | exhausted
  /-- The last command that was run failed. -/
  | failed (command : Command) (failure : Failure)
  /-- The result of the last command could not be shown. -/
  | broken (fault : Fault SystemError)
  deriving Repr, DecidableEq

/-- The ending of a run over `total` commands that stops after it has started some of them. -/
def Stop.ending (started total : Nat) : Stop → Checked SystemError Summary
  | .exhausted => .ok ⟨started, total, .completed⟩
  | .failed command failure =>
    .ok ⟨started, total, .aborted (started - 1) command.label failure⟩
  | .broken fault => .error fault

/-- What a run does. -/
structure Course (σ : Type) where
  steps : List Step
  console : Sink
  executor : σ
  stop : Stop

/-- A course with one more step before it. -/
def Course.cons (step : Step) (course : Course σ) : Course σ :=
  { course with steps := step :: course.steps }

/-- The run over a list of `total` commands that takes the course. -/
def Course.toRun (total : Nat) (course : Course σ) : Run σ :=
  ⟨course.steps, course.console, course.executor, course.stop.ending course.steps.length total⟩

/-- Runs commands one after another until one fails or the console does. -/
def follow (execute : Executor σ) (display : Display) : List Command → σ → Sink → Course σ
  | [], state, console => ⟨[], console, state, .exhausted⟩
  | command :: rest, state, console =>
    let (result, state) := execute state command
    let step : Step := ⟨command, console, result⟩
    match (result.report display).run console with
    | (.error fault, console) => ⟨[step], console, state, .broken fault⟩
    | (.ok (), console) =>
      match result.failure? with
      | some failure => ⟨[step], console, state, .failed command failure⟩
      | none => (follow execute display rest state console).cons step

section
variable {execute : Executor σ} {display : Display} {command : Command} {rest : List Command}
  {state state' : σ} {console console' : Sink} {result : Result}

/-- A course ends with a result that cannot be shown. -/
theorem follow_broken {fault : Fault SystemError} (he : execute state command = (result, state'))
    (hr : (result.report display).run console = (.error fault, console')) :
    follow execute display (command :: rest) state console =
      ⟨[⟨command, console, result⟩], console', state', .broken fault⟩ := by
  simp only [follow, he, hr]

/-- A course ends with a failure that has been shown. -/
theorem follow_failed {failure : Failure} (he : execute state command = (result, state'))
    (hr : (result.report display).run console = (.ok (), console'))
    (hf : result.failure? = some failure) :
    follow execute display (command :: rest) state console =
      ⟨[⟨command, console, result⟩], console', state', .failed command failure⟩ := by
  simp only [follow, he, hr, hf]

/-- A course goes on after a success that has been shown. -/
theorem follow_succeeded (he : execute state command = (result, state'))
    (hr : (result.report display).run console = (.ok (), console'))
    (hf : result.failure? = none) :
    follow execute display (command :: rest) state console =
      (follow execute display rest state' console').cons ⟨command, console, result⟩ := by
  simp only [follow, he, hr, hf]

end

/-! ## Calls -/

/-- The results that an executor gives when it is called with commands one after another, whatever
the results are. -/
def answers (execute : Executor σ) : σ → List Command → List Result
  | _, [] => []
  | state, command :: rest =>
    (execute state command).1 :: answers execute (execute state command).2 rest

/-- The state that an executor is left in when it is called with commands one after another. -/
def stateAfter (execute : Executor σ) (state : σ) (commands : List Command) : σ :=
  commands.foldl (fun state command => (execute state command).2) state

/-- Whatever becomes of a run, it calls the executor with the first commands of the list, once each
and in their order, and nothing else happens to the executor. -/
theorem follow_calls (execute : Executor σ) (display : Display) (commands : List Command)
    (state : σ) (console : Sink) :
    let course := follow execute display commands state console
    course.steps.map (·.command) = commands.take course.steps.length ∧
      course.steps.map (·.result) = (answers execute state commands).take course.steps.length ∧
      course.executor = stateAfter execute state (commands.take course.steps.length) := by
  fun_induction follow execute display commands state console with
  | case1 => exact ⟨rfl, rfl, rfl⟩
  | case2 command rest state console result state' he step
  | case3 command rest state console result state' he step =>
    simp [answers, stateAfter, he, step]
  | case4 command rest state console result state' he step console' hr hf ih =>
    obtain ⟨hcommands, hresults, hexecutor⟩ := ih
    simp [Course.cons, answers, stateAfter, he, step, hcommands, hresults, hexecutor]

/-! ## The loop -/

section
variable {execute : Executor σ} {display : Display} {commands : List Command}
  {machine : Machine} {state : σ} {console : Sink}

/-- The loop ends when the machine asks for nothing more. -/
theorem runFrom_over {final : Machine} (h : machine.next = (none, final)) :
    runFrom execute display commands machine state console =
      ⟨[], console, state, .ok (.ofState commands final.state)⟩ := by
  rw [runFrom]
  split
  · next final' h' =>
    rw [h] at h'
    cases h'
    rfl
  · next h' =>
    rw [h] at h'
    cases h'

/-- A turn of the loop whose result cannot be shown is the last. -/
theorem runFrom_broken {index : Nat} {running : Machine} {command : Command} {result : Result}
    {state' : σ} {fault : Fault SystemError} {console' : Sink}
    (h : machine.next = (some index, running)) (hc : commands[index]? = some command)
    (he : execute state command = (result, state'))
    (hr : (result.report display).run console = (.error fault, console')) :
    runFrom execute display commands machine state console =
      ⟨[⟨command, console, result⟩], console', state', .error fault⟩ := by
  rw [runFrom]
  split
  · next h' =>
    rw [h] at h'
    cases h'
  · next index' running' h' =>
    rw [h] at h'
    cases h'
    simp only [hc, he, hr]

/-- After a turn of the loop whose result has been shown and recorded, the loop goes on. -/
theorem runFrom_turn {index : Nat} {running : Machine} {command : Command} {result : Result}
    {state' : σ} {console' : Sink}
    (h : machine.next = (some index, running)) (hc : commands[index]? = some command)
    (he : execute state command = (result, state'))
    (hr : (result.report display).run console = (.ok (), console')) :
    runFrom execute display commands machine state console =
      let rest := runFrom execute display commands (running.record result) state' console'
      { rest with steps := ⟨command, console, result⟩ :: rest.steps } := by
  rw [runFrom]
  split
  · next h' =>
    rw [h] at h'
    cases h'
  · next index' running' h' =>
    rw [h] at h'
    cases h'
    simp only [hc, he, hr]

end

/-- Where the loop stands after `past`, a command being due, it takes the course of the commands
that are left. -/
theorem runFrom_eq_follow (execute : Executor σ) (display : Display) (past rest : List Command)
    (machine : Machine) (state : σ) (console : Sink)
    (htotal : machine.total = (past ++ rest).length)
    (hdue : machine.state.due? = some past.length) :
    runFrom execute display (past ++ rest) machine state console =
      let course := follow execute display rest state console
      ⟨course.steps, course.console, course.executor,
        course.stop.ending (past.length + course.steps.length) (past ++ rest).length⟩ := by
  induction rest generalizing past machine state console with
  | nil =>
    have hover := Machine.next_of_le hdue (by simp [htotal])
    rw [runFrom_over hover]
    simp [follow, Stop.ending, Summary.ofState]
  | cons command rest ih =>
    have hlt : past.length < machine.total := by simp [htotal]
    have hnext := Machine.next_of_lt hdue hlt
    have hc : (past ++ command :: rest)[past.length]? = some command := by simp
    rcases he : execute state command with ⟨result, state'⟩
    rcases hr : (result.report display).run console with ⟨fault | ⟨⟩, console'⟩
    · rw [runFrom_broken hnext hc he hr, follow_broken he hr]
      rfl
    · cases hf : result.failure? with
      | some failure =>
        rw [runFrom_turn hnext hc he hr, Machine.record_of_failed rfl hf, runFrom_over rfl,
          follow_failed he hr hf]
        simp [Stop.ending, Summary.ofState]
      | none =>
        have hrest := ih (past ++ [command]) { machine with state := .continuing (past.length + 1) }
          state' console' (by simpa using htotal) (by simp [State.due?])
        rw [List.append_assoc, List.singleton_append] at hrest
        rw [runFrom_turn hnext hc he hr, Machine.record_of_succeeded rfl hf, hrest,
          follow_succeeded he hr hf]
        simp [Course.cons, Nat.add_assoc, Nat.add_comm]

/-- A run takes the course of its commands. -/
theorem run_eq_follow (execute : Executor σ) (display : Display) (commands : List Command)
    (state : σ) (console : Sink) :
    run execute display commands state console =
      (follow execute display commands state console).toRun commands.length := by
  have h := runFrom_eq_follow execute display [] commands (.start commands.length) state console
    rfl rfl
  simpa [run, Course.toRun] using h

/-- A run calls the executor with the first commands of the list and with nothing else. -/
theorem run_starts (execute : Executor σ) (display : Display) (commands : List Command)
    (state : σ) (console : Sink) :
    let run := run execute display commands state console
    run.steps.map (·.command) = commands.take run.steps.length ∧
      run.steps.map (·.result) = (answers execute state commands).take run.steps.length ∧
      run.executor = stateAfter execute state (commands.take run.steps.length) := by
  rw [run_eq_follow]
  exact follow_calls execute display commands state console

end Runbook.Sequence
