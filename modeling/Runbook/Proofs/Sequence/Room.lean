import Runbook.Proofs.Sequence.FailFast
import Runbook.Proofs.Sequence.FullConsole

/-!
# What a console has room for

Whether a run is stopped by its console can be told before it: by whether the console has room for
all that the commands up to the first failure put on it. `run_room` says so of every console, with a
limit or without one, and whatever it has received before: with room the run ends as it does over a
console without a limit, and without it the console is left full and the run ends with that fault.

The bytes are counted along the course of the run. `received_follow_room` gives what a console has
received by the steps that were taken, and says that the last of these is the one that fills it.
-/

namespace Runbook

/-- A flush takes no room. -/
@[simp] theorem Sink.room_flushed (sink : Sink) (wanted : Nat) :
    sink.flushed.room wanted = sink.room wanted := rfl

/-- A sink takes nothing if nothing is wanted. -/
@[simp] theorem Sink.room_zero (sink : Sink) : sink.room 0 = 0 := Nat.le_zero.mp (sink.room_le 0)

namespace Sequence

variable {σ : Type}

section
variable {execute : Executor σ} {display : Display} {commands : List Command} {state : σ}
  {console : Sink}

/-- A result that has been shown fits, and leaves the room that its bytes have not taken. -/
theorem room_of_shown {result : Result} {console' : Sink}
    (hr : (result.report display).run console = (.ok (), console')) (wanted : Nat) :
    console'.received = console.received ++ result.bytes display ∧
      console.room ((result.bytes display).length + wanted) =
        (result.bytes display).length + console'.room wanted := by
  rcases result.report_cases display console with
    ⟨_, -, hroom, h⟩ | ⟨_, -, h⟩ | ⟨_, -, -, h⟩ <;> rw [hr] at h <;> cases h
  refine ⟨?_, ?_⟩
  · simp only [Sink.flushed, Sink.take, hroom, List.take_length]
  · rw [Sink.room_flushed, Sink.room_add_length hroom]

end

/-- The console has received what the steps put on it, as far as it has room. It had room for all
steps but the last, and if it had none for that, this has ended the course. -/
theorem received_follow_room (execute : Executor σ) (display : Display) (commands : List Command)
    (state : σ) (console : Sink) :
    let course := follow execute display commands state console
    let bytes := printed display course.steps
    course.console.received = console.received ++ bytes.take (console.room bytes.length) ∧
    (console.room bytes.length < bytes.length ↔ course.stop = .broken (.refused .sinkFull)) ∧
    ∀ j < course.steps.length, console.room (printed display (course.steps.take j)).length =
      (printed display (course.steps.take j)).length := by
  fun_induction follow execute display commands state console with
  | case1 => simp
  | case2 command rest state console result state' he step fault console' hr =>
    rcases result.report_cases display console with
      ⟨_, -, -, h⟩ | ⟨operation, hrender, h⟩ | ⟨_, -, hlt, h⟩ <;> rw [hr] at h <;> cases h
    · have hnone : result.bytes display = [] := by simp only [Result.bytes, hrender]
      simp [step, hnone]
    · simp [step, hlt, Sink.take]
  | case3 command rest state console result state' he step console' hr failure hf =>
    obtain ⟨hreceived, hroom⟩ := room_of_shown hr 0
    simp only [Nat.add_zero, Sink.room_zero] at hroom
    simp [step, hreceived, hroom]
  | case4 command rest state console result state' he step console' hr hf ih =>
    obtain ⟨hreceived, hfull, hbefore⟩ := ih
    obtain ⟨hfirst, -⟩ := room_of_shown hr 0
    have hroom := fun wanted => (room_of_shown hr wanted).2
    simp only [Course.cons, step, printed_cons, List.length_append, hroom]
    refine ⟨?received, ?full, fun j hj => ?before⟩
    case received => rw [hreceived, hfirst, List.append_assoc, List.take_length_add_append]
    case full => rw [← hfull, Nat.add_lt_add_iff_left]
    case before =>
      cases j with
      | zero => simp
      | succ j =>
        simp only [List.take_succ_cons, printed_cons, List.length_append, hroom]
        rw [hbefore j (Nat.lt_of_succ_lt_succ hj)]

/-- An ending is a fault just if the fault has broken the course. -/
theorem Stop.ending_eq_error_iff {stop : Stop} {started total : Nat} {fault : Fault SystemError} :
    stop.ending started total = .error fault ↔ stop = .broken fault := by
  cases stop <;> simp [ending]

/-- What results put on a console, if no other follows the first failure among them. -/
def output (display : Display) (results : List Result) : List UInt8 :=
  (results.take (started results)).flatMap (·.bytes display)

/-- The output begins with what the first of the results put on a console. -/
theorem output_eq_append (display : Display) (results : List Result) {k : Nat}
    (h : k ≤ started results) :
    ∃ more, output display results = (results.take k).flatMap (·.bytes display) ++ more := by
  obtain ⟨later, hlater⟩ := List.take_prefix_take_left h
  exact ⟨later.flatMap (Result.bytes display), by rw [output, ← hlater, List.flatMap_append]⟩

section
variable (execute : Executor σ) (commands : List Command) (state : σ)

/-- What the first steps of a course print is what the first results of its commands do. -/
theorem printed_take_follow (display : Display) (console : Sink) {j : Nat}
    (hj : j ≤ (follow execute display commands state console).steps.length) :
    printed display ((follow execute display commands state console).steps.take j) =
      ((answers execute state commands).take j).flatMap (·.bytes display) := by
  have hresults := (follow_calls execute display commands state console).2.1
  have htake := congrArg (List.take j) hresults
  rw [List.take_take, Nat.min_eq_left hj, ← List.map_take] at htake
  rw [← htake, List.flatMap_map]
  rfl

/-- A run over a console with room for the output of its commands starts them all up to the first
failure, and its summary says whether there is one. Without that room it has ended with the first
command whose result does not fit. Either way the console has received as much of the output as it
has room for. -/
theorem run_room {display : Display} (fits : display.policy.Fits) (console : Sink) :
    let run := run execute display commands state console
    let results := answers execute state commands
    let bytes (k : Nat) := (results.take k).flatMap (·.bytes display)
    let output := output display results
    run.console.received = console.received ++ output.take (console.room output.length) ∧
    (console.room output.length = output.length →
      run.steps.length = started results ∧ ∃ summary, run.ending = .ok summary ∧
        (summary.isAborted = true ↔
          ∃ result ∈ results.take run.steps.length, result.failure?.isSome = true)) ∧
    (console.room output.length < output.length →
      run.ending = .error (.refused .sinkFull) ∧ run.steps.length ≤ started results ∧
        console.room (bytes run.steps.length).length < (bytes run.steps.length).length ∧
        ∀ j < run.steps.length, console.room (bytes j).length = (bytes j).length) := by
  have hending := run_ending execute commands state display fits console
  have hprinted := fun j (hj : j ≤ _) =>
    printed_take_follow execute commands state display console hj
  obtain ⟨hreceived, hfull, hbefore⟩ :=
    received_follow_room execute display commands state console
  simp only [run_eq_follow, Course.toRun] at hending ⊢
  generalize follow execute display commands state console = course at *
  have hall := hprinted course.steps.length (Nat.le_refl _)
  rw [List.take_length] at hall
  rcases hending with ⟨hlength, summary, hok, haborted⟩ | ⟨hlength, herror⟩
  · -- The course went on to its end, so the console was full after none of its steps.
    have hroom : ¬ console.room (printed display course.steps).length <
        (printed display course.steps).length := by
      rw [hfull, ← Stop.ending_eq_error_iff, hok]
      rintro ⟨⟩
    rw [hall, hlength] at hreceived hroom
    exact ⟨hreceived, fun _ => ⟨hlength, summary, hok, haborted⟩, fun hlt => absurd hlt hroom⟩
  · -- What the steps have put on the console is the start of the output.
    have hlt := hfull.mpr (Stop.ending_eq_error_iff.mp herror)
    obtain ⟨more, hmore⟩ := output_eq_append display (answers execute state commands) hlength
    rw [← hall] at hmore
    have hroom : console.room (output display (answers execute state commands)).length =
        console.room (printed display course.steps).length := by
      rw [hmore, List.length_append, Sink.room_add_of_lt hlt]
    rw [hroom]
    refine ⟨?received, fun hwhole => ?whole, fun _ => ⟨herror, hlength, ?last, fun j hj => ?before⟩⟩
    case received => rw [hreceived, hmore, List.take_append_of_le_length (Nat.le_of_lt hlt)]
    case whole =>
      rw [hmore, List.length_append] at hwhole
      omega
    case last => rwa [← hall]
    case before =>
      rw [← hprinted j (Nat.le_of_lt hj)]
      exact hbefore j hj

end

end Sequence

end Runbook
