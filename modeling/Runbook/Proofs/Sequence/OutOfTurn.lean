import Runbook.Proofs.Sequence.Calls

/-!
# Calls out of turn

At any time a machine waits for one kind of call only (`State.awaits`): for a request before the
first command and between commands, for a result while a command is running, and for nothing once it
is over. `Machine.kept` are the calls that come when they are waited for. All others are erased:
`Machine.outOfTurn_erased` says that without them the machine ends in the same state and gives the
same answers.

The calls that are left come by turns, a request first, so that the number of them says whether a
command has been asked for since the last result (`Turns`). With that the results alone tell the
state (`State.eq_ofResults`).
-/

namespace Runbook.Sequence

/-- Whether the call is one that is waited for: a request before the first command and between
commands, and a result while a command is running. -/
def State.awaits : State → Call → Bool
  | .pending, .next | .continuing _, .next | .running _, .record _ => true
  | _, _ => false

/-- The result that a call brings. -/
def Call.result? : Call → Option Result
  | .next => none
  | .record result => some result

namespace Machine

/-- The call, if it comes when the machine waits for it. -/
def kept? (machine : Machine) (call : Call) : Option Call :=
  if machine.state.awaits call then some call else none

/-- The calls that come when the machine waits for them. -/
def kept : Machine → List Call → List Call := collect kept?

/-- A call that is not waited for has no answer and changes nothing. -/
theorem call_of_not_awaits {machine : Machine} {call : Call}
    (h : machine.state.awaits call = false) : machine.call call = (none, machine) := by
  obtain ⟨total, state⟩ := machine
  cases call with
  | next =>
    cases state with
    | pending | continuing => cases h
    | running | aborted | completed => rfl
  | record result =>
    cases state with
    | running => cases h
    | pending | continuing | aborted | completed => rfl

/-- A call that is waited for is kept. -/
theorem kept_cons_of_awaits {machine : Machine} {call : Call}
    (h : machine.state.awaits call = true) (rest : List Call) :
    machine.kept (call :: rest) = call :: (machine.call call).2.kept rest := by
  simp [kept, collect, kept?, h]

/-- A call that is not waited for is dropped, and the machine is the same for those after it. -/
theorem kept_cons_of_not_awaits {machine : Machine} {call : Call}
    (h : machine.state.awaits call = false) (rest : List Call) :
    machine.kept (call :: rest) = machine.kept rest := by
  simp [kept, collect, kept?, h, call_of_not_awaits h]

/-- The kept calls, made alone, lead to the same machine and have the same answers. -/
theorem after_kept (machine : Machine) (calls : List Call) :
    machine.after (machine.kept calls) = machine.after calls ∧
      machine.indices (machine.kept calls) = machine.indices calls := by
  induction calls generalizing machine with
  | nil => exact ⟨rfl, rfl⟩
  | cons call rest ih =>
    cases h : machine.state.awaits call with
    | true =>
      obtain ⟨hafter, hindices⟩ := ih (machine.call call).2
      rw [kept_cons_of_awaits h]
      refine ⟨hafter, ?_⟩
      rw [indices] at hindices
      simp only [indices, collect, hindices]
    | false =>
      obtain ⟨hafter, hindices⟩ := ih machine
      rw [kept_cons_of_not_awaits h]
      refine ⟨?_, ?_⟩
      · rw [hafter, after_cons, call_of_not_awaits h]
      · rw [hindices]
        simp [indices, collect, call_of_not_awaits h]

/-- A result before the first command and a second request before the result are dropped. -/
example : (start 2).kept [.record (.success []), .next, .next] = [.next] := by decide

/-- A result is taken in just if its call is kept. -/
theorem result?_kept? (machine : Machine) (call : Call) :
    (machine.kept? call).toList.filterMap Call.result? =
      (machine.accepted? call).toList.map (·.2) := by
  obtain ⟨total, state⟩ := machine
  cases call <;> cases state <;> rfl

/-- The results that are taken in are those of the kept calls. -/
theorem results_kept (machine : Machine) (calls : List Call) :
    (machine.kept calls).filterMap Call.result? = (machine.accepted calls).map (·.2) := by
  induction calls generalizing machine with
  | nil => rfl
  | cons call rest ih =>
    have hrest := ih (machine.call call).2
    rw [kept, accepted] at hrest ⊢
    rw [collect, collect, List.filterMap_append, List.map_append, result?_kept?, hrest]

end Machine

/-! ## Turns -/

/-- Whether the last thing that counted was a request. -/
def State.isAsked : State → Bool
  | .running _ | .completed _ => true
  | .pending | .continuing _ | .aborted _ _ => false

/-- A call that is waited for is a request just if none was the last to count, and then it is the
last to count. -/
theorem Machine.isAsked_call {machine : Machine} {call : Call}
    (h : machine.state.awaits call = true) :
    (call = .next ↔ machine.state.isAsked = false) ∧
      (machine.call call).2.state.isAsked = !machine.state.isAsked := by
  obtain ⟨total, state⟩ := machine
  cases call with
  | next =>
    cases state with
    | pending | continuing =>
      refine ⟨⟨fun _ => rfl, fun _ => rfl⟩, ?_⟩
      simp only [call, next, State.due?]
      split <;> rfl
    | running | aborted | completed => cases h
  | record result =>
    cases state with
    | running index =>
      refine ⟨⟨fun h => Call.noConfusion h, fun h => Bool.noConfusion h⟩, ?_⟩
      simp only [call, record]
      split <;> rfl
    | pending | continuing | aborted | completed => cases h

/-- The calls are requests and results by turns, a request first; and their number is odd just if
the state is one that a request has led to. -/
structure Turns (state : State) (calls : List Call) : Prop where
  alternate : ∀ i call, calls[i]? = some call → (call = .next ↔ i % 2 = 0)
  parity : calls.length % 2 = if state.isAsked then 1 else 0

/-- A call that is waited for continues the turns. -/
theorem Turns.concat {machine : Machine} {calls : List Call} {call : Call}
    (h : Turns machine.state calls) (hawaits : machine.state.awaits call = true) :
    Turns (machine.call call).2.state (calls ++ [call]) := by
  obtain ⟨hnext, hasked⟩ := Machine.isAsked_call hawaits
  have hparity := h.parity
  refine ⟨fun i c hc => ?_, ?_⟩
  · rcases Nat.lt_or_ge i calls.length with hlt | hge
    · rw [List.getElem?_append_left hlt] at hc
      exact h.alternate i c hc
    · rw [List.getElem?_append_right hge, List.getElem?_singleton] at hc
      split at hc
      · obtain rfl : call = c := Option.some.inj hc
        obtain rfl : i = calls.length := by omega
        rw [hnext, hparity]
        cases machine.state.isAsked <;> simp
      · cases hc
  · rw [List.length_append, List.length_singleton, hasked]
    cases hs : machine.state.isAsked <;> simp [hs] at hparity ⊢ <;> omega

/-- Whatever the calls are, those that are kept come by turns. -/
theorem turns_kept (total : Nat) (calls : List Call) :
    Turns ((Machine.start total).after calls).state ((Machine.start total).kept calls) := by
  induction calls using List.reverseRecOn with
  | nil => exact ⟨nofun, rfl⟩
  | append_singleton calls call ih =>
    rw [Machine.kept] at ih ⊢
    rw [Machine.after_append, Machine.collect_append]
    cases h : ((Machine.start total).after calls).state.awaits call with
    | true => simpa [Machine.collect, Machine.kept?, h] using ih.concat h
    | false =>
      simpa [Machine.collect, Machine.kept?, h, Machine.call_of_not_awaits h] using ih

/-- The last of calls that come by turns is a request just if the state is one that a request has
led to. -/
theorem Turns.getLast?_eq_next_iff {state : State} {calls : List Call} (h : Turns state calls) :
    calls.getLast? = some .next ↔ state.isAsked = true := by
  have hparity := h.parity
  rw [List.getLast?_eq_getElem?]
  constructor
  · intro hlast
    have hindex := (h.alternate _ _ hlast).mp rfl
    obtain ⟨hlt, -⟩ := List.getElem?_eq_some_iff.mp hlast
    by_contra hs
    rw [if_neg hs] at hparity
    omega
  · intro hs
    rw [if_pos hs] at hparity
    have hlt : calls.length - 1 < calls.length := by omega
    have hlast := List.getElem?_eq_getElem hlt
    rw [hlast, (h.alternate _ _ hlast).mpr (by omega)]

/-! ## The state -/

/-- The state of a run over `total` commands that has taken in `results`, and has been asked for a
command after the last of them or not. -/
def State.ofResults (total : Nat) (results : List Result) (asked : Bool) : State :=
  match results.getLast?.bind Result.failure? with
  | some failure => .aborted (results.length - 1) failure
  | none =>
    if asked then
      if results.length < total then .running results.length else .completed results.length
    else if results.isEmpty then .pending
    else .continuing results.length

/-- The last of successes is one. -/
theorem Flawless.failure?_getLast? {results : List Result} (h : Flawless results) :
    results.getLast?.bind Result.failure? = none := by
  cases hlast : results.getLast? with
  | none => rfl
  | some result => exact h result (List.mem_of_getLast? hlast)

/-- A state that reflects the results, and whose numbers lie within the list, is told by them. -/
theorem State.eq_ofResults {total : Nat} {state : State} {results : List Result}
    (hwithin : state.Within total) (hreflects : state.Reflects results) :
    state = ofResults total results state.isAsked := by
  rw [ofResults]
  cases state with
  | pending =>
    obtain rfl : results = [] := hreflects
    rfl
  | running index =>
    obtain ⟨rfl, hflawless⟩ := hreflects
    rw [hflawless.failure?_getLast?]
    exact (if_pos hwithin).symm
  | continuing next =>
    obtain ⟨rfl, hflawless⟩ := hreflects
    rw [hflawless.failure?_getLast?]
    have hne : results.isEmpty = false := by
      rw [← Bool.not_eq_true, List.isEmpty_iff_length_eq_zero]
      have := hwithin.1
      omega
    simp only [isAsked, hne, Bool.false_eq_true, if_false]
  | completed executed =>
    obtain ⟨rfl, hflawless⟩ := hreflects
    obtain rfl : results.length = total := hwithin
    rw [hflawless.failure?_getLast?]
    exact (if_neg (Nat.lt_irrefl _)).symm
  | aborted index failure =>
    obtain ⟨successes, last, rfl, rfl, -, hfailure⟩ := hreflects
    simp [hfailure]

/-- Calls out of turn might as well not have been made. A call that is not waited for has no answer
and changes nothing; the others are requests and results by turns, a request first; and they alone
lead to the same machine and have the same answers. So the state is told by how many commands there
are, the results that were taken in, and whether the last call that counted was a request. -/
theorem Machine.outOfTurn_erased (total : Nat) (calls : List Call) :
    let reached := (start total).after calls
    let kept := (start total).kept calls
    let results := ((start total).accepted calls).map (·.2)
    (∀ call, reached.state.awaits call = false → reached.call call = (none, reached)) ∧
    (∀ i call, kept[i]? = some call → (call = .next ↔ i % 2 = 0)) ∧
    (start total).after kept = reached ∧
    (start total).indices kept = (start total).indices calls ∧
    kept.filterMap Call.result? = results ∧
    reached.state = State.ofResults total results (kept.getLast? == some .next) ∧
    ∀ executed, reached.state = .completed executed → executed = total := by
  intro reached kept results
  have hturns : Turns reached.state kept := turns_kept total calls
  have hhistory := history_after total calls
  have hwithin : reached.state.Within total := by
    have := hhistory.bounded
    rwa [Bounded, hhistory.total_eq] at this
  obtain ⟨hafter, hindices⟩ := (start total).after_kept calls
  have hasked : (kept.getLast? == some .next) = reached.state.isAsked := by
    rw [Bool.eq_iff_iff, beq_iff_eq, hturns.getLast?_eq_next_iff]
  refine ⟨fun call h => call_of_not_awaits h, hturns.alternate, hafter, hindices,
    (start total).results_kept calls, ?_, fun executed hs => ?_⟩
  · rw [hasked]
    exact State.eq_ofResults hwithin hhistory.reflects
  · rw [hs] at hwithin
    exact hwithin

end Runbook.Sequence
