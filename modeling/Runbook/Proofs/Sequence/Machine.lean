import Runbook.Sequence.Machine

/-!
# The transitions of the run machine

`Machine.next_cases` and `Machine.record_cases` say all that the two calls can do to a machine; what
holds of every machine that can come about is derived from them. `State.Within` is the first such
fact: the numbers in a state lie within the list of commands, and a completed run has executed all
of them.
-/

namespace Runbook.Sequence

namespace Machine

/-- What asking for the next command can do: nothing, as none may be asked for; start the command
that is due; or complete the run, as there is no command left. -/
theorem next_cases (machine : Machine) :
    (machine.state.due? = none ∧ machine.next = (none, machine)) ∨
    (∃ due, machine.state.due? = some due ∧ due < machine.total ∧
      machine.next = (some due, { machine with state := .running due })) ∨
    (∃ due, machine.state.due? = some due ∧ machine.total ≤ due ∧
      machine.next = (none, { machine with state := .completed due })) := by
  unfold next
  cases machine.state.due? with
  | none => exact .inl ⟨rfl, rfl⟩
  | some due =>
    by_cases h : due < machine.total
    · exact .inr (.inl ⟨due, rfl, h, if_pos h⟩)
    · exact .inr (.inr ⟨due, rfl, Nat.le_of_not_lt h, if_neg h⟩)

/-- A run goes on after a command that has succeeded. -/
theorem record_of_succeeded {machine : Machine} {index : Nat} {result : Result}
    (hs : machine.state = .running index) (hf : result.failure? = none) :
    machine.record result = { machine with state := .continuing (index + 1) } := by
  simp only [record, hs, hf]

/-- A run is aborted by a command that has failed. -/
theorem record_of_failed {machine : Machine} {index : Nat} {result : Result} {failure : Failure}
    (hs : machine.state = .running index) (hf : result.failure? = some failure) :
    machine.record result = { machine with state := .aborted index failure } := by
  simp only [record, hs, hf]

/-- What a result can do to a machine: nothing, as no command is running; let the run go on; or end
it by the failure of the running command. -/
theorem record_cases (machine : Machine) (result : Result) :
    ((∀ index, machine.state ≠ .running index) ∧ machine.record result = machine) ∨
    (∃ index, machine.state = .running index ∧ result.failure? = none ∧
      machine.record result = { machine with state := .continuing (index + 1) }) ∨
    (∃ index failure, machine.state = .running index ∧ result.failure? = some failure ∧
      machine.record result = { machine with state := .aborted index failure }) := by
  cases hs : machine.state with
  | running index =>
    cases hf : result.failure? with
    | none => exact .inr (.inl ⟨index, rfl, rfl, record_of_succeeded hs hf⟩)
    | some failure => exact .inr (.inr ⟨index, failure, rfl, rfl, record_of_failed hs hf⟩)
  | pending | continuing | aborted | completed =>
    exact .inl ⟨fun _ => State.noConfusion, by simp only [record, hs]⟩

/-- No call changes how many commands there are. -/
@[simp] theorem next_total (machine : Machine) : machine.next.2.total = machine.total := by
  rcases machine.next_cases with ⟨-, h⟩ | ⟨_, -, -, h⟩ | ⟨_, -, -, h⟩ <;> rw [h]

@[simp] theorem record_total (machine : Machine) (result : Result) :
    (machine.record result).total = machine.total := by
  rcases machine.record_cases result with ⟨-, h⟩ | ⟨_, -, -, h⟩ | ⟨_, _, -, -, h⟩ <;> rw [h]

/-- A command that is due is started. -/
theorem next_of_lt {machine : Machine} {due : Nat} (h : machine.state.due? = some due)
    (hlt : due < machine.total) :
    machine.next = (some due, { machine with state := .running due }) := by
  simp only [next, h, if_pos hlt]

/-- A run without a further command is completed. -/
theorem next_of_le {machine : Machine} {due : Nat} (h : machine.state.due? = some due)
    (hle : machine.total ≤ due) :
    machine.next = (none, { machine with state := .completed due }) := by
  simp only [next, h, if_neg (Nat.not_lt.mpr hle)]

/-- A command that is given out is the one that was due, and it is then running. -/
theorem next_eq_some {machine running : Machine} {index : Nat}
    (h : machine.next = (some index, running)) :
    machine.state.due? = some index ∧ index < machine.total ∧
      running = { machine with state := .running index } := by
  rcases machine.next_cases with ⟨-, hn⟩ | ⟨due, hdue, hlt, hn⟩ | ⟨due, -, -, hn⟩ <;>
    rw [hn] at h <;> cases h
  exact ⟨hdue, hlt, rfl⟩

/-- A run that is over stays as it is. -/
theorem next_of_isTerminal {machine : Machine} (h : machine.state.isTerminal = true) :
    machine.next = (none, machine) := by
  obtain ⟨total, state⟩ := machine
  cases state with
  | aborted | completed => rfl
  | pending | running | continuing => cases h

theorem record_of_isTerminal {machine : Machine} (h : machine.state.isTerminal = true)
    (result : Result) : machine.record result = machine := by
  obtain ⟨total, state⟩ := machine
  cases state with
  | aborted | completed => rfl
  | pending | running | continuing => cases h

end Machine

/-! ## Bounds -/

/-- The numbers in a state of a run over `total` commands lie within the list: commands that are
running or have failed have their place in it, and a run is completed after all of them. -/
def State.Within (total : Nat) : State → Prop
  | .pending => True
  | .running index => index < total
  | .continuing next => 1 ≤ next ∧ next ≤ total
  | .aborted index _ => index < total
  | .completed executed => executed = total

/-- The command that is due is at most the one after the last. -/
theorem State.Within.due_le {total : Nat} {state : State} (h : state.Within total) {due : Nat}
    (hdue : state.due? = some due) : due ≤ total := by
  cases state with
  | pending => cases hdue; exact Nat.zero_le total
  | continuing next => cases hdue; exact h.2
  | running | aborted | completed => cases hdue

namespace Machine

/-- The numbers in the machine's state lie within its list of commands. -/
def Bounded (machine : Machine) : Prop := machine.state.Within machine.total

theorem bounded_start (total : Nat) : (start total).Bounded := trivial

/-- Asking for the next command keeps the numbers within the list. -/
theorem Bounded.next {machine : Machine} (h : machine.Bounded) : machine.next.2.Bounded := by
  rcases machine.next_cases with ⟨-, hn⟩ | ⟨due, hdue, hlt, hn⟩ | ⟨due, hdue, hle, hn⟩ <;> rw [hn]
  · exact h
  · exact hlt
  · exact Nat.le_antisymm (State.Within.due_le h hdue) hle

/-- Taking in a result keeps the numbers within the list. -/
theorem Bounded.record {machine : Machine} (h : machine.Bounded) (result : Result) :
    (machine.record result).Bounded := by
  rcases machine.record_cases result with
    ⟨-, hr⟩ | ⟨index, hs, -, hr⟩ | ⟨index, failure, hs, -, hr⟩ <;> rw [hr]
  · exact h
  · rw [Bounded, hs] at h
    exact ⟨Nat.succ_pos index, h⟩
  · rw [Bounded, hs] at h
    exact h

end Machine

end Runbook.Sequence
