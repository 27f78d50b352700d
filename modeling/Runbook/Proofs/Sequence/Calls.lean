import Mathlib.Data.List.Induction
import Runbook.Proofs.Sequence.Machine
import Runbook.Word

/-!
# Calls in any order

A machine can be called in any order, and only some of the calls count. `Machine.after` is the
machine that a list of calls leaves; what the calls came to is collected on the way: the indices
they were answered with (`Machine.indices`) and the results that were taken in, each with the index
of the command that it was taken for (`Machine.accepted`).

`History` is the invariant. The state alone says how many indices were given out and how many
results were taken in, so both lists are counted through from 0, and it agrees with the results
themselves (`State.Reflects`). `History.call` is its step, over both calls and all states;
`reachable` is what it means for every machine that can come about.
-/

namespace Runbook.Sequence

/-- A call of a machine. -/
inductive Call where
  | next
  | record (result : Result)
  deriving Repr, DecidableEq

namespace Machine

/-- The answer to a call, and the machine after it. Only a request for a command has an answer. -/
def call (machine : Machine) : Call → Option Nat × Machine
  | .next => machine.next
  | .record result => (none, machine.record result)

/-- The machine after calls. -/
def after (machine : Machine) (calls : List Call) : Machine :=
  calls.foldl (fun machine call => (machine.call call).2) machine

/-- What is found at those of the calls where there is something to find. -/
def collect {α : Type} (find? : Machine → Call → Option α) : Machine → List Call → List α
  | _, [] => []
  | machine, call :: rest =>
    (find? machine call).toList ++ collect find? (machine.call call).2 rest

/-- The indices that calls are answered with. -/
def indices : Machine → List Call → List Nat := collect fun machine call => (machine.call call).1

/-- The result that the call makes the machine take in, with the index of its command. -/
def accepted? (machine : Machine) : Call → Option (Nat × Result)
  | .next => none
  | .record result =>
    match machine.state with
    | .running index => some (index, result)
    | _ => none

/-- The results that calls make the machine take in, with the indices of their commands. -/
def accepted : Machine → List Call → List (Nat × Result) := collect accepted?

theorem accepted?_of_running {machine : Machine} {index : Nat} {result : Result}
    (h : machine.state = .running index) :
    machine.accepted? (.record result) = some (index, result) := by
  simp only [accepted?, h]

theorem accepted?_of_not_running {machine : Machine} {result : Result}
    (h : ∀ index, machine.state ≠ .running index) :
    machine.accepted? (.record result) = none := by
  rw [accepted?]
  split
  · next index hs => exact absurd hs (h index)
  · rfl

@[simp] theorem after_nil (machine : Machine) : machine.after [] = machine := rfl

@[simp] theorem after_cons (machine : Machine) (call : Call) (rest : List Call) :
    machine.after (call :: rest) = (machine.call call).2.after rest := rfl

/-- Calls go on where earlier ones ended. -/
theorem after_append (machine : Machine) (calls later : List Call) :
    machine.after (calls ++ later) = (machine.after calls).after later := List.foldl_append

/-- What later calls come to is found after what earlier ones did. -/
theorem collect_append {α : Type} (find? : Machine → Call → Option α) (machine : Machine)
    (calls later : List Call) :
    machine.collect find? (calls ++ later) =
      machine.collect find? calls ++ (machine.after calls).collect find? later := by
  induction calls generalizing machine with
  | nil => rfl
  | cons call rest ih => simp [collect, ih]

end Machine

/-! ## The invariant -/

/-- How many indices have been given out in the state. -/
def State.asked : State → Nat
  | .pending => 0
  | .running index | .aborted index _ => index + 1
  | .continuing count | .completed count => count

/-- The command that is due is the first one that has not been asked for. -/
theorem State.asked_of_due {state : State} {due : Nat} (h : state.due? = some due) :
    state.asked = due := by
  cases state with
  | pending | continuing => exact Option.some.inj h
  | running | aborted | completed => cases h

/-- None of the results is a failure. -/
def Flawless (results : List Result) : Prop := ∀ result ∈ results, result.failure? = none

theorem flawless_concat {results : List Result} {result : Result} (h : Flawless results)
    (hr : result.failure? = none) : Flawless (results ++ [result]) := by
  intro r hmem
  rcases List.mem_append.mp hmem with hmem | hmem
  · exact h r hmem
  · rwa [List.mem_singleton.mp hmem]

/-- The state is the one that the results have led to: they are all successes, and as many as the
state says; or the last is the failure that it names, and the only one. -/
def State.Reflects (results : List Result) : State → Prop
  | .pending => results = []
  | .running count | .continuing count | .completed count =>
    count = results.length ∧ Flawless results
  | .aborted index failure => ∃ successes last, results = successes ++ [last] ∧
      index = successes.length ∧ Flawless successes ∧ last.failure? = some failure

/-- When a command is due, all before it have succeeded. -/
theorem State.Reflects.of_due {results : List Result} {state : State} (h : state.Reflects results)
    {due : Nat} (hdue : state.due? = some due) : due = results.length ∧ Flawless results := by
  cases state with
  | pending =>
    cases hdue
    rw [Reflects] at h
    exact ⟨by rw [h]; rfl, by rw [h]; exact nofun⟩
  | continuing next =>
    cases hdue
    exact h
  | running | aborted | completed => cases hdue

/-- A machine over `total` commands, after calls that were answered with `indices` and made it take
in the results `accepted`. -/
structure History (total : Nat) (machine : Machine) (indices : List Nat)
    (accepted : List (Nat × Result)) : Prop where
  total_eq : machine.total = total
  bounded : machine.Bounded
  indices_eq : indices = List.range machine.state.asked
  accepted_eq : accepted.map (·.1) = List.range accepted.length
  reflects : machine.state.Reflects (accepted.map (·.2))

/-- Before the first call. -/
theorem history_start (total : Nat) : History total (.start total) [] [] where
  total_eq := rfl
  bounded := Machine.bounded_start total
  indices_eq := rfl
  accepted_eq := rfl
  reflects := rfl

/-- Asking for the next command gives out the first index not given out yet, or none. -/
theorem History.next {total : Nat} {machine : Machine} {indices : List Nat}
    {accepted : List (Nat × Result)} (h : History total machine indices accepted) :
    History total machine.next.2 (indices ++ machine.next.1.toList) accepted := by
  have hbounded := h.bounded.next
  have htotal : machine.next.2.total = total := by rw [Machine.next_total, h.total_eq]
  rcases machine.next_cases with ⟨-, hn⟩ | ⟨due, hdue, -, hn⟩ | ⟨due, hdue, -, hn⟩ <;>
    rw [hn] at hbounded htotal ⊢
  · simpa using h
  · refine ⟨htotal, hbounded, ?_, h.accepted_eq, h.reflects.of_due hdue⟩
    rw [h.indices_eq, State.asked_of_due hdue, Option.toList_some, State.asked, List.range_succ]
  · refine ⟨htotal, hbounded, ?_, h.accepted_eq, h.reflects.of_due hdue⟩
    rw [h.indices_eq, State.asked_of_due hdue, Option.toList_none, List.append_nil, State.asked]

/-- Taking in a result for the running command leaves a state in which as many indices have been
given out as before, and that reflects one result more. -/
theorem History.accept {total index : Nat} {machine : Machine} {indices : List Nat}
    {accepted : List (Nat × Result)} (h : History total machine indices accepted)
    (hs : machine.state = .running index) {state : State} {result : Result}
    (hwithin : state.Within total) (hasked : state.asked = index + 1)
    (hreflects : state.Reflects (accepted.map (·.2) ++ [result])) :
    History total { machine with state := state } indices (accepted ++ [(index, result)]) where
  total_eq := h.total_eq
  bounded := by rwa [Machine.Bounded, h.total_eq]
  indices_eq := by rw [h.indices_eq, hs, hasked, State.asked]
  accepted_eq := by
    have hindex := h.reflects
    rw [hs] at hindex
    have hlength : index = accepted.length := by simpa using hindex.1
    simp [List.range_succ, h.accepted_eq, hlength]
  reflects := by rwa [List.map_append]

/-- A result counts only while a command is running. -/
theorem History.record {total : Nat} {machine : Machine} {indices : List Nat}
    {accepted : List (Nat × Result)} (h : History total machine indices accepted)
    (result : Result) :
    History total (machine.record result) indices
      (accepted ++ (machine.accepted? (.record result)).toList) := by
  have hbounded := h.bounded
  have hreflects := h.reflects
  rw [Machine.Bounded, h.total_eq] at hbounded
  rcases machine.record_cases result with
    ⟨hnot, hr⟩ | ⟨index, hs, hf, hr⟩ | ⟨index, failure, hs, hf, hr⟩
  · rw [hr, Machine.accepted?_of_not_running hnot]
    simpa using h
  · rw [hs] at hbounded hreflects
    rw [hr, Machine.accepted?_of_running hs]
    refine h.accept hs ⟨Nat.succ_pos index, hbounded⟩ rfl ⟨?_, flawless_concat hreflects.2 hf⟩
    simp [hreflects.1]
  · rw [hs] at hbounded hreflects
    rw [hr, Machine.accepted?_of_running hs]
    exact h.accept hs hbounded rfl ⟨_, result, rfl, hreflects.1, hreflects.2, hf⟩

/-- A call continues the history of a machine. -/
theorem History.call {total : Nat} {machine : Machine} {indices : List Nat}
    {accepted : List (Nat × Result)} (h : History total machine indices accepted) (call : Call) :
    History total (machine.call call).2 (indices ++ (machine.call call).1.toList)
      (accepted ++ (machine.accepted? call).toList) := by
  cases call with
  | next => simpa [Machine.call, Machine.accepted?] using h.next
  | record result => simpa [Machine.call] using h.record result

/-- Whatever the calls were, the machine and what they came to are related by the invariant. -/
theorem history_after (total : Nat) (calls : List Call) :
    History total ((Machine.start total).after calls) ((Machine.start total).indices calls)
      ((Machine.start total).accepted calls) := by
  induction calls using List.reverseRecOn with
  | nil => exact history_start total
  | append_singleton calls call ih =>
    simpa [Machine.indices, Machine.accepted, Machine.after_append, Machine.collect_append,
      Machine.collect] using ih.call call

/-! ## Consequences -/

section
variable {total : Nat} {machine : Machine} {indices : List Nat} {accepted : List (Nat × Result)}

/-- The result with the index `k` among those taken in is the one of the command with this index. -/
theorem History.mem_accepted (h : History total machine indices accepted) {k : Nat}
    {result : Result} (hk : (accepted.map (·.2))[k]? = some result) : (k, result) ∈ accepted := by
  rw [List.getElem?_map, Option.map_eq_some_iff] at hk
  obtain ⟨⟨index, r⟩, hpair, rfl⟩ := hk
  obtain ⟨hlt, -⟩ := List.getElem?_eq_some_iff.mp hpair
  have hindex : (accepted.map (·.1))[k]? = some k := by
    rw [h.accepted_eq, List.getElem?_range hlt]
  rw [List.getElem?_map, hpair] at hindex
  obtain rfl : index = k := Option.some.inj hindex
  exact List.mem_of_getElem? hpair

/-- A command is given out only after the one before it has succeeded. -/
theorem History.succeeded_of_next (h : History total machine indices accepted) {k : Nat}
    (hnext : machine.next.1 = some (k + 1)) :
    ∃ result, (k, result) ∈ accepted ∧ result.failure? = none := by
  obtain ⟨hdue, -, -⟩ := Machine.next_eq_some (Prod.ext hnext rfl)
  obtain ⟨hlength, hflawless⟩ := h.reflects.of_due hdue
  have hlt : k < (accepted.map (·.2)).length := by omega
  exact ⟨_, h.mem_accepted (List.getElem?_eq_getElem hlt), hflawless _ (List.getElem_mem hlt)⟩

/-- A run is aborted by the failure of a result that was taken in. -/
theorem History.failed_of_aborted (h : History total machine indices accepted) {index : Nat}
    {failure : Failure} (hs : machine.state = .aborted index failure) :
    ∃ result, (index, result) ∈ accepted ∧ result.failure? = some failure := by
  have hreflects := h.reflects
  rw [hs] at hreflects
  obtain ⟨successes, last, hresults, rfl, -, hfailure⟩ := hreflects
  exact ⟨last, h.mem_accepted (by simp [hresults]), hfailure⟩

/-- No more indices are given out than there are commands. -/
theorem History.asked_le (h : History total machine indices accepted) :
    machine.state.asked ≤ total := by
  have hbounded := h.bounded
  rw [Machine.Bounded, h.total_eq] at hbounded
  cases hs : machine.state with
  | pending => exact Nat.zero_le total
  | running index | aborted index => rw [hs] at hbounded; exact hbounded
  | continuing next => rw [hs] at hbounded; exact hbounded.2
  | completed executed => rw [hs] at hbounded; exact Nat.le_of_eq hbounded

end

/-- A machine that is over is left alone by all calls. -/
theorem Machine.call_of_isTerminal {machine : Machine} (h : machine.state.isTerminal = true)
    (call : Call) : machine.call call = (none, machine) := by
  cases call with
  | next => exact next_of_isTerminal h
  | record result => rw [Machine.call, record_of_isTerminal h]

theorem Machine.after_of_isTerminal {machine : Machine} (h : machine.state.isTerminal = true)
    (later : List Call) : machine.after later = machine ∧ machine.indices later = [] := by
  induction later with
  | nil => exact ⟨rfl, rfl⟩
  | cons call rest ih =>
    simpa [Machine.indices, Machine.collect, Machine.call_of_isTerminal h] using ih

/-- Whatever calls a machine has had, in any order and with any results: the numbers in its state
lie within the list, and a failure that it names is that of the result it took in for that command.
The indices it has given out are the first ones, in their order; each but the first was given out
after the command before it had succeeded; and once it is over it stays as it is and gives out
nothing. -/
theorem Machine.reachable (total : Nat) (calls : List Call) :
    let reached := (start total).after calls
    let indices := (start total).indices calls
    let accepted := (start total).accepted calls
    reached.total = total ∧
    (∀ index, reached.state = .running index →
      index < total ∧ (total < wordSize → index + 1 < wordSize)) ∧
    (∀ next, reached.state = .continuing next → 1 ≤ next ∧ next ≤ total) ∧
    (∀ index failure, reached.state = .aborted index failure → index < total ∧
      ∃ result, (index, result) ∈ accepted ∧ result.failure? = some failure) ∧
    (∀ executed, reached.state = .completed executed → executed = total) ∧
    accepted.map (·.1) = List.range accepted.length ∧
    (∃ asked ≤ total, indices = List.range asked) ∧
    (∀ k, reached.next.1 = some (k + 1) →
      ∃ result, (k, result) ∈ accepted ∧ result.failure? = none) ∧
    (reached.state.isTerminal = true →
      ∀ later, reached.after later = reached ∧ reached.indices later = []) := by
  intro reached indices accepted
  have h : History total reached indices accepted := history_after total calls
  have hbounded := h.bounded
  rw [Bounded, h.total_eq] at hbounded
  refine ⟨h.total_eq, fun index hs => ?_, fun next hs => ?_, fun index failure hs => ?_,
    fun executed hs => ?_, h.accepted_eq, ⟨_, h.asked_le, h.indices_eq⟩,
    fun k => h.succeeded_of_next, after_of_isTerminal⟩
  · rw [hs] at hbounded
    exact ⟨hbounded, Nat.lt_of_le_of_lt hbounded⟩
  · rw [hs] at hbounded
    exact hbounded
  · rw [hs] at hbounded
    exact ⟨hbounded, h.failed_of_aborted hs⟩
  · rw [hs] at hbounded
    exact hbounded

end Runbook.Sequence
