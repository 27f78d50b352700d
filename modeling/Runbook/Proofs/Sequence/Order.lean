import Runbook.Proofs.Sequence.FullConsole
import Runbook.Proofs.Sequence.Loop

/-!
# The order of a run

Nothing overlaps in a run: when a command starts, the results of all commands before it have come
back, were successes, and have been shown, each followed by one flush. `Settled` is what holds
whenever the loop is about to ask for a command, and a turn of the loop keeps it (`Settled.turn`).
Every command starts at such a point (`Visits.exists_turn`), and a run that does not fail ends at
one.

`run_inOrder` asks nothing of the console or of the policy: a result that cannot be shown ends the
run, so that no command starts after it.
-/

namespace Runbook

/-- A result that has been shown is rendered, the sink has received the rendering whole, and it has
been flushed once more, whatever the rendering is. -/
theorem Result.shown {display : Display} {result : Result} {sink sink' : Sink}
    (h : (result.report display).run sink = (.ok (), sink')) :
    (∃ text, result.render display = .ok text) ∧
      sink'.received = sink.received ++ result.bytes display ∧
      sink'.flushes = sink.flushes + 1 := by
  rcases result.report_cases display sink with
    ⟨text, hrender, hroom, hr⟩ | ⟨operation, -, hr⟩ | ⟨text, -, -, hr⟩ <;> rw [hr] at h <;> cases h
  refine ⟨⟨text, hrender⟩, ?_, rfl⟩
  simp only [Sink.flushed, Sink.take, hroom, List.take_length]

end Runbook

namespace Runbook.Sequence

variable {σ : Type}

/-- All that has been started is settled: the executor is in the state that the commands have left,
the console has received the renderings of their results and nothing else, with one flush after each
of them, and if a command is due then it is the one after them, and they have all succeeded. -/
structure Settled (execute : Executor σ) (display : Display) (initial : σ) (opening : Sink)
    (past : List Step) (machine : Machine) (state : σ) (console : Sink) : Prop where
  executor : state = stateAfter execute initial (past.map (·.command))
  rendered : ∀ step ∈ past, ∃ text, step.result.render display = .ok text
  received : console.received = opening.received ++ printed display past
  flushes : console.flushes = opening.flushes + past.length
  due : ∀ index, machine.state.due? = some index →
    index = past.length ∧ ∀ step ∈ past, step.result.failure? = none

section
variable {execute : Executor σ} {display : Display} {commands : List Command} {initial : σ}
  {opening : Sink} {past : List Step} {machine : Machine} {state : σ} {console : Sink}

/-- Before the first turn there is nothing to settle. -/
theorem settled_start (total : Nat) :
    Settled execute display initial opening [] (.start total) initial opening where
  executor := rfl
  rendered := nofun
  received := (List.append_nil _).symm
  flushes := rfl
  due := by
    rintro index ⟨⟩
    exact ⟨rfl, nofun⟩

/-- A turn settles one step more. -/
theorem Settled.turn {running : Machine} {state' : σ} {console' : Sink} {index : Nat}
    {command : Command} {result : Result}
    (h : Settled execute display initial opening past machine state console)
    (hnext : machine.next = (some index, running))
    (he : execute state command = (result, state'))
    (hr : (result.report display).run console = (.ok (), console')) :
    Settled execute display initial opening (past ++ [⟨command, console, result⟩])
      (running.record result) state' console' := by
  obtain ⟨hrender, hreceived, hflushes⟩ := Result.shown hr
  obtain ⟨hdue, -, hrunning⟩ := Machine.next_eq_some hnext
  obtain ⟨rfl, hpast⟩ := h.due index hdue
  refine ⟨?executor, ?rendered, ?received, ?flushes, ?due⟩
  case executor =>
    have hstate : state' = (execute state command).2 := by rw [he]
    simp [hstate, h.executor, stateAfter]
  case rendered =>
    intro step hstep
    rcases List.mem_append.mp hstep with hstep | hstep
    · exact h.rendered step hstep
    · rw [List.mem_singleton.mp hstep]
      exact hrender
  case received => simp [hreceived, h.received, printed]
  case flushes => simp [hflushes, h.flushes, Nat.add_assoc]
  case due =>
    intro next hnext'
    rw [hrunning] at hnext'
    cases hf : result.failure? with
    | some failure =>
      rw [Machine.record_of_failed rfl hf] at hnext'
      cases hnext'
    | none =>
      rw [Machine.record_of_succeeded rfl hf] at hnext'
      refine ⟨by simpa using (Option.some.inj hnext').symm, fun step hstep => ?_⟩
      rcases List.mem_append.mp hstep with hstep | hstep
      · exact hpast step hstep
      · rw [List.mem_singleton.mp hstep]
        exact hf

/-- Whenever the loop is about to ask for a command, all before is settled. -/
theorem Visits.settled
    (h : Visits execute display commands initial opening past machine state console) :
    Settled execute display initial opening past machine state console := by
  induction h with
  | start => exact settled_start _
  | turn _ hnext _ he hr ih => exact ih.turn hnext he hr

/-- Each step of a run is a turn of its loop: it starts where the loop has come to with the steps
before it, with the console as it is there. -/
theorem Visits.exists_turn
    (h : Visits execute display commands initial opening past machine state console) {k : Nat}
    {step : Step}
    (hk : (runFrom execute display commands machine state console).steps[k]? = some step) :
    let steps := (runFrom execute display commands machine state console).steps
    ∃ machine' running state' index,
      Visits execute display commands initial opening (past ++ steps.take k) machine' state'
        step.console ∧
      machine'.next = (some index, running) ∧ commands[index]? = some step.command ∧
      (execute state' step.command).1 = step.result := by
  fun_induction runFrom execute display commands machine state console generalizing past k with
  | case1 => cases hk
  | case2 => cases hk
  | case3 machine state console index running hnext command hc result state' he first =>
    cases k with
    | zero =>
      obtain rfl : step = first := (Option.some.inj hk).symm
      exact ⟨machine, running, state, index, by simpa using h, hnext, hc, by rw [he]⟩
    | succ k => cases hk
  | case4 machine state console index running hnext command hc result state' he first console' hr
      rest =>
    rename_i ih
    cases k with
    | zero =>
      obtain rfl : step = first := (Option.some.inj hk).symm
      exact ⟨machine, running, state, index, by simpa using h, hnext, hc, by rw [he]⟩
    | succ k =>
      obtain ⟨machine', running', state'', index', hvisits, hturn⟩ :=
        ih (h.turn hnext hc he hr) hk
      exact ⟨machine', running', state'', index', by simpa using hvisits, hturn⟩

end

section
variable (execute : Executor σ) (display : Display) (commands : List Command) (initial : σ)
  (opening : Sink)

/-- The first commands of a run are the first commands of its list. -/
theorem map_command_take_run {k : Nat}
    (hk : k ≤ (run execute display commands initial opening).steps.length) :
    ((run execute display commands initial opening).steps.take k).map (·.command) =
      commands.take k := by
  have hcommands := (run_starts execute display commands initial opening).1
  rw [List.map_take, hcommands, List.take_take, Nat.min_eq_left hk]

/-- Each command is given out to the executor by a turn of the loop that has come there with exactly
the steps before it, and the executor is in the state that those have left it in. -/
theorem run_turn {k : Nat} {step : Step}
    (hk : (run execute display commands initial opening).steps[k]? = some step) :
    ∃ machine running state,
      Visits execute display commands initial opening
        ((run execute display commands initial opening).steps.take k) machine state step.console ∧
      machine.next = (some k, running) ∧ commands[k]? = some step.command ∧
      state = stateAfter execute initial (commands.take k) ∧
      (execute state step.command).1 = step.result := by
  obtain ⟨hlt, -⟩ := List.getElem?_eq_some_iff.mp hk
  have hcommands :=
    map_command_take_run execute display commands initial opening (Nat.le_of_lt hlt)
  rw [run] at hk hlt hcommands ⊢
  obtain ⟨machine, running, state, index, hvisits, hnext, hcommand, hresult⟩ :=
    Visits.exists_turn .start hk
  have hsettled := hvisits.settled
  obtain ⟨hindex, -⟩ := hsettled.due index (Machine.next_eq_some hnext).1
  rw [List.nil_append, List.length_take_of_le (Nat.le_of_lt hlt)] at hindex
  subst hindex
  have hstate := hsettled.executor
  rw [List.nil_append, hcommands] at hstate
  exact ⟨machine, running, state, hvisits, hnext, hcommand, hstate, hresult⟩

/-- All commands before one that is started have succeeded. -/
theorem succeeded_before {k : Nat} {step : Step}
    (hk : (run execute display commands initial opening).steps[k]? = some step) :
    ∀ earlier ∈ (run execute display commands initial opening).steps.take k,
      earlier.result.failure? = none := by
  obtain ⟨machine, running, state, hvisits, hnext, -⟩ :=
    run_turn execute display commands initial opening hk
  exact (hvisits.settled.due k (Machine.next_eq_some hnext).1).2

/-- At the end of a run that has not been stopped by the console everything is settled. -/
theorem settled_of_ok {summary : Summary}
    (hok : (run execute display commands initial opening).ending = .ok summary) :
    ∃ last, Settled execute display initial opening
      (run execute display commands initial opening).steps last
      (run execute display commands initial opening).executor
      (run execute display commands initial opening).console := by
  obtain ⟨last, final, hvisits, -, -⟩ := Visits.exists_final .start hok
  exact ⟨last, hvisits.settled⟩

/-- No command is started after one that failed. -/
theorem steps_of_failed {step : Step}
    (hstep : step ∈ (run execute display commands initial opening).steps)
    (hfailed : step.result.failure?.isSome = true) :
    ∃ earlier, (run execute display commands initial opening).steps = earlier ++ [step] := by
  obtain ⟨k, hk⟩ := List.mem_iff_getElem?.mp hstep
  have htake :=
    List.take_add_one (l := (run execute display commands initial opening).steps) (i := k)
  rw [hk, Option.toList_some] at htake
  rcases Nat.lt_or_ge (k + 1) (run execute display commands initial opening).steps.length with
    hlt | hge
  · have hbefore := succeeded_before execute display commands initial opening
      (List.getElem?_eq_getElem hlt) step (by simp [htake])
    rw [hbefore] at hfailed
    cases hfailed
  · rw [List.take_of_length_le hge] at htake
    exact ⟨_, htake⟩

end

/-- A run does one thing at a time. When its command number `k` starts, that is the next one of the
list, the executor has returned from the `k` commands before it and from nothing else, all of these
have succeeded, and the console has received their renderings, in their order, and has been flushed
`k` times. When the run has ended without a fault, the console has received all renderings, with one
flush for each command, and that of a command that failed is the last of them. -/
theorem run_inOrder (execute : Executor σ) (display : Display) (commands : List Command)
    (initial : σ) (opening : Sink) :
    let run := run execute display commands initial opening
    (∀ k step, run.steps[k]? = some step →
      commands[k]? = some step.command ∧
      (∃ machine running state,
        Visits execute display commands initial opening (run.steps.take k) machine state
          step.console ∧
        machine.next = (some k, running) ∧
        state = stateAfter execute initial (commands.take k) ∧
        (execute state step.command).1 = step.result) ∧
      (∀ earlier ∈ run.steps.take k, earlier.result.failure? = none ∧
        ∃ text, earlier.result.render display = .ok text) ∧
      step.console.received = opening.received ++ printed display (run.steps.take k) ∧
      step.console.flushes = opening.flushes + k) ∧
    ∀ summary, run.ending = .ok summary →
      run.console.received = opening.received ++ printed display run.steps ∧
      run.console.flushes = opening.flushes + run.steps.length ∧
      (∀ step ∈ run.steps, ∃ text, step.result.render display = .ok text) ∧
      ∀ step ∈ run.steps, step.result.failure?.isSome = true →
        ∃ earlier, run.steps = earlier ++ [step] ∧
          run.console.received =
            opening.received ++ printed display earlier ++ step.result.bytes display := by
  intro run
  refine ⟨fun k step hk => ?start, fun summary hok => ?ended⟩
  case start =>
    obtain ⟨hlt, -⟩ := List.getElem?_eq_some_iff.mp hk
    obtain ⟨machine, running, state, hvisits, hnext, hcommand, hstate, hresult⟩ :=
      run_turn execute display commands initial opening hk
    have hsettled := hvisits.settled
    have hsucceeded := succeeded_before execute display commands initial opening hk
    refine ⟨hcommand, ⟨machine, running, state, hvisits, hnext, hstate, hresult⟩,
      fun earlier h => ⟨hsucceeded earlier h, hsettled.rendered earlier h⟩, hsettled.received, ?_⟩
    rw [hsettled.flushes, List.length_take_of_le (Nat.le_of_lt hlt)]
  case ended =>
    obtain ⟨last, hsettled⟩ := settled_of_ok execute display commands initial opening hok
    refine ⟨hsettled.received, hsettled.flushes, hsettled.rendered, fun step hstep hfailed => ?_⟩
    obtain ⟨earlier, hsteps⟩ :=
      steps_of_failed execute display commands initial opening hstep hfailed
    refine ⟨earlier, hsteps, ?_⟩
    rw [hsettled.received, hsteps]
    simp [printed]

end Runbook.Sequence
