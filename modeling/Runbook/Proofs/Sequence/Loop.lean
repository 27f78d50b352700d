import Runbook.Proofs.Sequence.Course

/-!
# The loop of a run

`Visits` relates a run to the configurations that its loop comes to: the steps taken so far, the
machine, the executor and the console, each time before the machine is asked for a command. At such
a point a command is due or the run has been aborted, and the machine's numbers lie within the list
(`Visits.within`), so that every index it answers with has a command; and a run that does not fail
ends in the last of these configurations (`Visits.exists_final`).
-/

namespace Runbook.Sequence

variable {σ : Type}

/-- The configurations that the loop of a run comes to. -/
inductive Visits (execute : Executor σ) (display : Display) (commands : List Command)
    (initial : σ) (opening : Sink) : List Step → Machine → σ → Sink → Prop where
  /-- Before the first turn. -/
  | start : Visits execute display commands initial opening [] (.start commands.length) initial
      opening
  /-- After a turn whose result has been shown and recorded. -/
  | turn {past : List Step} {machine running : Machine} {state state' : σ} {console console' : Sink}
      {index : Nat} {command : Command} {result : Result} :
      Visits execute display commands initial opening past machine state console →
      machine.next = (some index, running) → commands[index]? = some command →
      execute state command = (result, state') →
      (result.report display).run console = (.ok (), console') →
      Visits execute display commands initial opening (past ++ [⟨command, console, result⟩])
        (running.record result) state' console'

section
variable {execute : Executor σ} {display : Display} {commands : List Command} {initial : σ}
  {opening : Sink} {past : List Step} {machine : Machine} {state : σ} {console : Sink}

/-- The machine of the loop knows how many commands there are, and stays within them. -/
theorem Visits.within
    (h : Visits execute display commands initial opening past machine state console) :
    machine.total = commands.length ∧ machine.Bounded := by
  induction h with
  | start => exact ⟨rfl, Machine.bounded_start _⟩
  | @turn past machine running state state' console console' index command result _ hnext _ _ _
      ih =>
    obtain ⟨htotal, hbounded⟩ := ih
    obtain rfl : machine.next.2 = running := by rw [hnext]
    exact ⟨by rw [Machine.record_total, Machine.next_total, htotal], hbounded.next.record result⟩

/-- Before a turn no command is running and the run is not completed: a command is due, or the run
has been aborted. -/
theorem Visits.due_or_aborted
    (h : Visits execute display commands initial opening past machine state console) :
    (∃ due, machine.state.due? = some due) ∨
      ∃ index failure, machine.state = .aborted index failure := by
  induction h with
  | start => exact .inl ⟨0, rfl⟩
  | @turn past machine running state state' console console' index command result _ hnext _ _ _ _ =>
    obtain ⟨-, -, rfl⟩ := Machine.next_eq_some hnext
    cases hf : result.failure? with
    | none => exact .inl ⟨index + 1, by rw [Machine.record_of_succeeded rfl hf]; rfl⟩
    | some failure => exact .inr ⟨index, failure, by rw [Machine.record_of_failed rfl hf]⟩

/-- An index that the loop is given has a command. -/
theorem Visits.index_lt
    (h : Visits execute display commands initial opening past machine state console)
    {index : Nat} {running : Machine} (hnext : machine.next = (some index, running)) :
    index < commands.length := by
  rw [← h.within.1]
  exact (Machine.next_eq_some hnext).2.1

/-- When the loop is given no index, all commands have succeeded or one of them has failed. -/
theorem Visits.final_state
    (h : Visits execute display commands initial opening past machine state console)
    {final : Machine} (hnext : machine.next = (none, final)) :
    final.state = .completed commands.length ∨
      ∃ index failure, final.state = .aborted index failure ∧ index + 1 ≤ commands.length := by
  obtain ⟨htotal, hbounded⟩ := h.within
  rw [Machine.Bounded, htotal] at hbounded
  rcases machine.next_cases with ⟨hdue, hn⟩ | ⟨due, -, -, hn⟩ | ⟨due, hdue, hle, hn⟩ <;>
    rw [hn] at hnext <;> cases hnext
  · rcases h.due_or_aborted with ⟨due, hsome⟩ | ⟨index, failure, hs⟩
    · rw [hdue] at hsome
      cases hsome
    · rw [hs] at hbounded
      exact .inr ⟨index, failure, hs, hbounded⟩
  · rw [htotal] at hle
    exact .inl (congrArg State.completed (Nat.le_antisymm (hbounded.due_le hdue) hle))

/-- A run that does not fail ends where the loop is given no index, and its summary is that of the
machine's state there. -/
theorem Visits.exists_final
    (h : Visits execute display commands initial opening past machine state console)
    {summary : Summary}
    (hok : (runFrom execute display commands machine state console).ending = .ok summary) :
    let rest := runFrom execute display commands machine state console
    ∃ last final, Visits execute display commands initial opening (past ++ rest.steps) last
        rest.executor rest.console ∧
      last.next = (none, final) ∧ summary = .ofState commands final.state := by
  fun_induction runFrom execute display commands machine state console generalizing past with
  | case1 machine state console final hnext =>
    cases hok
    exact ⟨machine, final, by simpa using h, hnext, rfl⟩
  | case2 machine state console index running hnext hc =>
    have := h.index_lt hnext
    rw [List.getElem?_eq_none_iff] at hc
    omega
  | case3 => cases hok
  | case4 machine state console index running hnext command hc result state' he step console' hr
      rest =>
    rename_i ih
    obtain ⟨last, final, hlast, hover, hsummary⟩ := ih (h.turn hnext hc he hr) hok
    exact ⟨last, final, by simpa using hlast, hover, hsummary⟩

end

end Runbook.Sequence
