import Runbook.Result

/-!
# The run machine

A run goes over a list of commands and stops at the first failure. `Machine` holds where it is. It
is asked for the next command and told each result; it neither runs commands nor knows them, only
how many there are.

Calls out of turn change nothing: a request while a command is running or after the end has no
answer, and a result counts only while a command is running.
-/

namespace Runbook.Sequence

/-- Where a run is. Reference: `RunState`. -/
inductive State where
  /-- Nothing has been run yet. -/
  | pending
  /-- The command at `index` is running. -/
  | running (index : Nat)
  /-- The commands before `next` have succeeded. -/
  | continuing (next : Nat)
  /-- The command at `index` failed, and nothing after it is run. -/
  | aborted (index : Nat) (failure : Failure)
  /-- All commands have succeeded. -/
  | completed (executed : Nat)
  deriving Repr, DecidableEq

/-- Whether a run is over. Reference: `RunState::is_terminal`. -/
def State.isTerminal : State → Bool
  | .aborted _ _ | .completed _ => true
  | .pending | .running _ | .continuing _ => false

/-- The index of the command that is due, if one may be asked for. -/
def State.due? : State → Option Nat
  | .pending => some 0
  | .continuing next => some next
  | .running _ | .aborted _ _ | .completed _ => none

/-- A run over `total` commands. Reference: `RunMachine`. -/
structure Machine where
  total : Nat
  state : State
  deriving Repr, DecidableEq

namespace Machine

/-- A run that has not begun. Reference: `RunMachine::new`. -/
def start (total : Nat) : Machine := ⟨total, .pending⟩

/-- Asks for the index of the next command, which is then running. There is none once the run is
over, and a run without a further command is over. Reference: `RunMachine::next_command`. -/
def next (machine : Machine) : Option Nat × Machine :=
  match machine.state.due? with
  | none => (none, machine)
  | some due =>
    if due < machine.total then (some due, { machine with state := .running due })
    else (none, { machine with state := .completed due })

/-- Takes in the result of the command that is running. Reference: `RunMachine::record`. -/
def record (machine : Machine) (result : Result) : Machine :=
  match machine.state with
  | .running index =>
    match result.failure? with
    | none => { machine with state := .continuing (index + 1) }
    | some failure => { machine with state := .aborted index failure }
  | _ => machine

/-- An upper bound on how many commands may still be asked for. -/
def remaining (machine : Machine) : Nat :=
  match machine.state with
  | .pending => machine.total
  | .continuing next => machine.total - next
  | .running _ | .aborted _ _ | .completed _ => 0

/-- Each command that is asked for and then recorded leaves fewer to ask for. -/
theorem remaining_record_lt {machine running : Machine} {index : Nat}
    (h : machine.next = (some index, running)) (result : Result) :
    (running.record result).remaining < machine.remaining := by
  obtain ⟨total, state⟩ := machine
  cases state <;> simp only [next, State.due?] at h
  case running => simp at h
  case aborted => simp at h
  case completed => simp at h
  all_goals
    split at h
    · simp only [Prod.mk.injEq, Option.some.injEq] at h
      obtain ⟨rfl, rfl⟩ := h
      cases hf : result.failure? <;> simp only [record, hf, remaining] <;> omega
    · simp at h

end Machine

end Runbook.Sequence
