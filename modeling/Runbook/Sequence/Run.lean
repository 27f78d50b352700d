import Runbook.Console
import Runbook.Sequence.Machine

/-!
# Running a sequence

`Sequence.run` runs commands one after another through an executor, shows each result before the
next command starts, and stops at the first failure. The executor is any function from its own
state and a command to a result and a new state. A failing command does not make the run fail: the
run ends with a `Summary` that says so. Only the console can make it fail, and then nothing further
is started.

The `steps` of a run say which commands were started, what the console had received when each of
them started, and how each ended.
-/

namespace Runbook.Sequence

/-- How a run ended. Reference: `RunOutcome`. -/
inductive Outcome where
  | completed
  | aborted (index : Nat) (label : Text) (failure : Failure)
  deriving Repr, DecidableEq

/-- What a run amounts to. Reference: `RunSummary`. -/
structure Summary where
  /-- How many commands were started. -/
  executed : Nat
  total : Nat
  outcome : Outcome
  deriving Repr, DecidableEq

namespace Summary

/-- Whether a command failed. Reference: `RunSummary::is_aborted`. -/
def isAborted (summary : Summary) : Bool :=
  match summary.outcome with
  | .completed => false
  | .aborted .. => true

/-- The exit status of the program: 0, unless a command failed and failure is to be passed on.
Reference: `RunSummary::exit_code`. -/
def exitStatus (summary : Summary) (propagate : Bool) : Nat :=
  if propagate && summary.isAborted then 1 else 0

/-- The summary of a run over `commands` that ended in `state`. Reference: the end of
`SequenceRunner::run`. -/
def ofState (commands : List Command) (state : State) : Summary :=
  match state with
  | .aborted index failure =>
    ⟨index + 1, commands.length,
      .aborted index ((commands[index]?.map Command.label).getD []) failure⟩
  | _ => ⟨commands.length, commands.length, .completed⟩

end Summary

/-- A way to run commands that keeps a state of the type `σ`. Reference: `CommandExecutor`. -/
abbrev Executor (σ : Type) := σ → Command → Result × σ

/-- One command that was started. -/
structure Step where
  command : Command
  /-- The console as it was when the command started. -/
  console : Sink
  result : Result
  deriving Repr, DecidableEq

/-- A run that is over. -/
structure Run (σ : Type) where
  /-- The commands that were started, in order. -/
  steps : List Step
  console : Sink
  /-- The state that the executor was left in. -/
  executor : σ
  ending : Checked SystemError Summary

/-- Runs what `machine` still asks for. Reference: the loop of `SequenceRunner::run`. -/
def runFrom {σ : Type} (execute : Executor σ) (display : Display) (commands : List Command)
    (machine : Machine) (state : σ) (console : Sink) : Run σ :=
  match _asked : machine.next with
  | (none, final) => ⟨[], console, state, .ok (.ofState commands final.state)⟩
  | (some index, running) =>
    match commands[index]? with
    | none => ⟨[], console, state, .ok (.ofState commands running.state)⟩
    | some command =>
      let (result, state) := execute state command
      let step : Step := ⟨command, console, result⟩
      match (result.report display).run console with
      | (.error fault, console) => ⟨[step], console, state, .error fault⟩
      | (.ok (), console) =>
        let rest := runFrom execute display commands (running.record result) state console
        { rest with steps := step :: rest.steps }
termination_by machine.remaining
decreasing_by exact Machine.remaining_record_lt _asked result

/-- Runs commands in order until one fails. Reference: `SequenceRunner::run`. -/
def run {σ : Type} (execute : Executor σ) (display : Display) (commands : List Command)
    (state : σ) (console : Sink) : Run σ :=
  runFrom execute display commands (.start commands.length) state console

end Runbook.Sequence
