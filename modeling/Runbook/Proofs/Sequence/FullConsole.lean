import Runbook.Proofs.Sequence.Course

/-!
# A console that becomes full

`run_full` compares a run over a console that takes `n` bytes with the same run over a console
without a limit. If `n` bytes are enough, the two runs are one. If they are not, the console is left
with the first `n` of the bytes, wherever in a rendering that is, and the run ends with the fault
right after the first command whose result no longer fits.

The comparison is made along the course without a limit, from a console that has room left. As long
as the bytes fit, the limited course keeps up (`follow_limit`); the turn in which they no longer do
is its last (`follow_limit_full`). Nothing is asked of the policy: a result without a rendering ends
both runs alike.
-/

namespace Runbook

/-- The sink with room for `n` bytes in all. -/
def Sink.limit (n : Nat) (sink : Sink) : Sink := { sink with capacity := some n }

/-- A sink without a limit takes all bytes. -/
theorem Sink.received_take {sink : Sink} (unlimited : sink.capacity = none) (bytes : List UInt8) :
    (sink.take bytes).received = sink.received ++ bytes := by
  rw [Sink.take, Sink.room_unlimited unlimited, List.take_length]

/-- Bytes that fit under the limit are taken whole. -/
theorem Sink.take_limit {sink : Sink} {n : Nat} {bytes : List UInt8}
    (unlimited : sink.capacity = none)
    (hroom : (sink.limit n).room bytes.length = bytes.length) :
    (sink.limit n).take bytes = (sink.take bytes).limit n := by
  rw [Sink.take, hroom]
  simp only [Sink.limit, Sink.take, Sink.room_unlimited unlimited]

/-- Bytes are taken whole under a limit if they do not pass it, and only then. -/
theorem Sink.room_limit_eq_iff {sink : Sink} {n : Nat} {bytes : List UInt8}
    (hroom : sink.received.length ≤ n) :
    (sink.limit n).room bytes.length = bytes.length ↔
      (sink.received ++ bytes).length ≤ n := by
  simp only [Sink.limit, Sink.room, List.length_append]
  omega

/-- Of bytes that pass the limit a sink keeps those below it. -/
theorem Sink.received_take_limit {sink : Sink} {n : Nat} {bytes : List UInt8}
    (hroom : sink.received.length ≤ n) (hfull : n < (sink.received ++ bytes).length) :
    ((sink.limit n).take bytes).received = (sink.received ++ bytes).take n := by
  have : min bytes.length (n - sink.received.length) = n - sink.received.length := by
    rw [List.length_append] at hfull
    omega
  simp only [Sink.take, Sink.limit, Sink.room, this]
  rw [List.take_append, List.take_of_length_le hroom]

section
variable {display : Display} {result : Result} {sink sink' : Sink} {n : Nat}
  {outcome : Except (Fault SystemError) Unit}

/-- A sink without a limit receives what the result puts on it, and stays without a limit. -/
theorem Result.received_report (unlimited : sink.capacity = none)
    (hr : (result.report display).run sink = (outcome, sink')) :
    sink'.capacity = none ∧ sink'.received = sink.received ++ result.bytes display := by
  rcases result.report_cases display sink with
    ⟨-, -, -, h⟩ | ⟨operation, hrender, h⟩ | ⟨-, -, hlt, -⟩
  · rw [hr] at h
    cases h
    exact ⟨unlimited, Sink.received_take unlimited _⟩
  · rw [hr] at h
    cases h
    exact ⟨unlimited, by simp only [Result.bytes, hrender, List.append_nil]⟩
  · rw [Sink.room_unlimited unlimited] at hlt
    exact absurd hlt (Nat.lt_irrefl _)

/-- A result is shown under a limit as without one if its bytes fit. -/
theorem Result.report_limit (unlimited : sink.capacity = none)
    (hr : (result.report display).run sink = (outcome, sink')) (hfits : sink'.received.length ≤ n) :
    (result.report display).run (sink.limit n) = (outcome, sink'.limit n) := by
  obtain ⟨-, hreceived⟩ := Result.received_report unlimited hr
  have hroom :
      (sink.limit n).room (result.bytes display).length = (result.bytes display).length := by
    rw [hreceived] at hfits
    refine (Sink.room_limit_eq_iff ?_).mpr hfits
    rw [List.length_append] at hfits
    omega
  rcases result.report_cases display sink with
    ⟨text, hrender, -, h⟩ | ⟨operation, hrender, h⟩ | ⟨-, -, hlt, -⟩
  · rw [hr] at h
    cases h
    rcases result.report_cases display (sink.limit n) with
      ⟨-, -, -, h⟩ | ⟨operation, herror, -⟩ | ⟨-, -, hlt, -⟩
    · rw [h, Sink.take_limit unlimited hroom]
      rfl
    · rw [hrender] at herror
      cases herror
    · omega
  · rw [hr] at h
    cases h
    simp only [Result.run_report, hrender]
  · rw [Sink.room_unlimited unlimited] at hlt
    exact absurd hlt (Nat.lt_irrefl _)

/-- A result whose bytes pass the limit fills the sink. -/
theorem Result.report_limit_full (unlimited : sink.capacity = none)
    (hr : (result.report display).run sink = (outcome, sink')) (hroom : sink.received.length ≤ n)
    (hfull : n < sink'.received.length) :
    ∃ full, (result.report display).run (sink.limit n) = (.error (.refused .sinkFull), full) ∧
      full.received = sink'.received.take n := by
  obtain ⟨-, hreceived⟩ := Result.received_report unlimited hr
  rw [hreceived] at hfull ⊢
  rcases result.report_cases display (sink.limit n) with
    ⟨-, -, hwhole, -⟩ | ⟨operation, hrender, -⟩ | ⟨-, -, -, h⟩
  · have := (Sink.room_limit_eq_iff hroom).mp hwhole
    omega
  · simp only [Result.bytes, hrender, List.append_nil] at hfull
    omega
  · exact ⟨_, h, Sink.received_take_limit hroom hfull⟩

end

end Runbook

namespace Runbook.Sequence

variable {σ : Type}

/-- The step, over a console with room for `n` bytes in all. -/
def Step.limit (n : Nat) (step : Step) : Step := { step with console := step.console.limit n }

/-- The course, over a console with room for `n` bytes in all. -/
def Course.limit (n : Nat) (course : Course σ) : Course σ :=
  { course with steps := course.steps.map (Step.limit n), console := course.console.limit n }

/-- The bytes that the results of the steps put on the console. -/
def printed (display : Display) (steps : List Step) : List UInt8 :=
  steps.flatMap fun step => step.result.bytes display

@[simp] theorem printed_nil (display : Display) : printed display [] = [] := rfl

@[simp] theorem printed_cons (display : Display) (step : Step) (steps : List Step) :
    printed display (step :: steps) = step.result.bytes display ++ printed display steps := rfl

/-- A longer run prints no less. -/
theorem length_printed_take_le (display : Display) (steps : List Step) {j k : Nat} (h : j ≤ k) :
    (printed display (steps.take j)).length ≤ (printed display (steps.take k)).length := by
  have hprefix : steps.take j = (steps.take k).take j := by rw [List.take_take, Nat.min_eq_left h]
  have hsplit := List.take_append_drop j (steps.take k)
  rw [← hprefix] at hsplit
  rw [← hsplit, printed, printed, List.flatMap_append, List.length_append]
  exact Nat.le_add_right _ _

/-- The course `cut` is the course `whole` up to its step number `k`, with which the console
receives more than `n` bytes for the first time; `opening` is what it had received before. -/
structure CutOff (display : Display) (n : Nat) (opening : List UInt8) (whole cut : Course σ)
    (k : Nat) : Prop where
  stop : cut.stop = .broken (.refused .sinkFull)
  received : cut.console.received = whole.console.received.take n
  lt : k < whole.steps.length
  steps : cut.steps = (whole.steps.take (k + 1)).map (Step.limit n)
  before : (opening ++ printed display (whole.steps.take k)).length ≤ n
  after : n < (opening ++ printed display (whole.steps.take (k + 1))).length

/-- With one more step before both, the course is cut off one step later. -/
theorem CutOff.cons {display : Display} {n k : Nat} {opening : List UInt8} {whole cut : Course σ}
    (step : Step)
    (h : CutOff display n (opening ++ step.result.bytes display) whole cut k) :
    CutOff display n opening (whole.cons step) (cut.cons (step.limit n)) (k + 1) where
  stop := h.stop
  received := h.received
  lt := by simpa [Course.cons] using h.lt
  steps := by
    simp only [Course.cons, h.steps, List.take_succ_cons, List.map_cons]
  before := by simpa [Course.cons, printed] using h.before
  after := by simpa [Course.cons, printed] using h.after

/-- A course whose first step passes the limit is cut off there, whatever follows it. -/
theorem cutOff_first {execute : Executor σ} {display : Display} {state state' : σ}
    {command : Command} {result : Result} {console console' : Sink}
    {outcome : Except (Fault SystemError) Unit} {n : Nat} {whole : Course σ} (rest : List Command)
    (unlimited : console.capacity = none)
    (he : execute state command = (result, state'))
    (hr : (result.report display).run console = (outcome, console'))
    (hroom : console.received.length ≤ n) (hfull : n < console'.received.length)
    (hsteps : ∃ later, whole.steps = ⟨command, console, result⟩ :: later)
    (hmore : ∃ more, whole.console.received = console'.received ++ more) :
    CutOff display n console.received whole
      (follow execute display (command :: rest) state (console.limit n)) 0 := by
  obtain ⟨full, hcut, hreceived⟩ := Result.report_limit_full unlimited hr hroom hfull
  obtain ⟨later, hsteps⟩ := hsteps
  obtain ⟨more, hmore⟩ := hmore
  rw [follow_broken he hcut]
  refine ⟨rfl, ?_, by simp [hsteps], by simp [hsteps, Step.limit], by simpa [printed] using hroom,
    ?_⟩
  · rw [hreceived, hmore, List.take_append_of_le_length (Nat.le_of_lt hfull)]
  · rw [(Result.received_report unlimited hr).2] at hfull
    simpa [hsteps, printed] using hfull

section
variable (execute : Executor σ) (display : Display) (commands : List Command) (state : σ)
  {console : Sink} {n : Nat}

/-- A console without a limit receives all that the results put on it. -/
theorem received_follow (unlimited : console.capacity = none) :
    let course := follow execute display commands state console
    course.console.received = console.received ++ printed display course.steps := by
  fun_induction follow execute display commands state console with
  | case1 => simp [printed]
  | case2 command rest state console result state' he step fault console' hr =>
    simp [printed, step, (Result.received_report unlimited hr).2]
  | case3 command rest state console result state' he step console' hr failure hf =>
    simp [printed, step, (Result.received_report unlimited hr).2]
  | case4 command rest state console result state' he step console' hr hf ih =>
    obtain ⟨unlimited', hreceived⟩ := Result.received_report unlimited hr
    have hrest := ih unlimited'
    simp only [hreceived, List.append_assoc] at hrest
    exact hrest

/-- A course whose bytes fit is the same over the limited console. -/
theorem follow_limit (unlimited : console.capacity = none)
    (hfits : (follow execute display commands state console).console.received.length ≤ n) :
    follow execute display commands state (console.limit n) =
      (follow execute display commands state console).limit n := by
  fun_induction follow execute display commands state console with
  | case1 => rfl
  | case2 command rest state console result state' he step fault console' hr =>
    exact follow_broken he (Result.report_limit unlimited hr hfits)
  | case3 command rest state console result state' he step console' hr failure hf =>
    exact follow_failed he (Result.report_limit unlimited hr hfits) hf
  | case4 command rest state console result state' he step console' hr hf ih =>
    obtain ⟨unlimited', -⟩ := Result.received_report unlimited hr
    have hnow : console'.received.length ≤ n := by
      have hlater := received_follow execute display rest state' unlimited'
      simp only [Course.cons, hlater, List.length_append] at hfits
      omega
    rw [follow_succeeded he (Result.report_limit unlimited hr hnow) hf, ih unlimited' hfits]
    rfl

/-- A course whose bytes do not fit is cut off over the limited console. -/
theorem follow_limit_full (unlimited : console.capacity = none)
    (hroom : console.received.length ≤ n)
    (hfull : n < (follow execute display commands state console).console.received.length) :
    ∃ k, CutOff display n console.received (follow execute display commands state console)
      (follow execute display commands state (console.limit n)) k := by
  fun_induction follow execute display commands state console with
  | case1 => exact absurd hroom (Nat.not_le_of_lt hfull)
  | case2 command rest state console result state' he step fault console' hr =>
    exact ⟨0, cutOff_first rest unlimited he hr hroom hfull ⟨[], rfl⟩ ⟨[], by simp⟩⟩
  | case3 command rest state console result state' he step console' hr failure hf =>
    exact ⟨0, cutOff_first rest unlimited he hr hroom hfull ⟨[], rfl⟩ ⟨[], by simp⟩⟩
  | case4 command rest state console result state' he step console' hr hf ih =>
    obtain ⟨unlimited', hconsole⟩ := Result.received_report unlimited hr
    by_cases hnow : console'.received.length ≤ n
    · -- The limit is passed later on.
      obtain ⟨k, hk⟩ := ih unlimited' hnow hfull
      rw [hconsole] at hk
      rw [follow_succeeded he (Result.report_limit unlimited hr hnow) hf]
      exact ⟨k + 1, hk.cons step⟩
    · -- This step passes it.
      have hlater := received_follow execute display rest state' unlimited'
      exact ⟨0, cutOff_first rest unlimited he hr hroom (Nat.lt_of_not_le hnow) ⟨_, rfl⟩
        ⟨_, hlater⟩⟩

end

/-- Over a console with room for `n` bytes a run is the run without a limit, up to the first result
that passes the limit. -/
theorem run_full (execute : Executor σ) (display : Display) (commands : List Command) (state : σ)
    (n : Nat) :
    let whole := run execute display commands state (.empty none)
    let cut := run execute display commands state (.empty (some n))
    let bytes := printed display whole.steps
    whole.console.received = bytes ∧
    (bytes.length ≤ n →
      cut.steps = whole.steps.map (Step.limit n) ∧ cut.console.received = bytes ∧
      cut.ending = whole.ending ∧ cut.executor = whole.executor) ∧
    (n < bytes.length →
      cut.ending = .error (.refused .sinkFull) ∧ cut.console.received = bytes.take n ∧
      ∃ k < whole.steps.length,
        cut.steps = (whole.steps.take (k + 1)).map (Step.limit n) ∧
        cut.executor = stateAfter execute state (commands.take (k + 1)) ∧
        (∀ j ≤ k, (printed display (whole.steps.take j)).length ≤ n) ∧
        n < (printed display (whole.steps.take (k + 1))).length) := by
  simp only [run_eq_follow, Course.toRun]
  have hempty : Sink.empty (some n) = (Sink.empty none).limit n := rfl
  have hreceived : (follow execute display commands state (.empty none)).console.received =
      printed display (follow execute display commands state (.empty none)).steps :=
    received_follow execute display commands state rfl
  refine ⟨hreceived, fun hfits => ?_, fun hfull => ?_⟩
  · rw [← hreceived] at hfits ⊢
    rw [hempty, follow_limit execute display commands state rfl hfits]
    exact ⟨rfl, rfl, by simp [Course.limit], rfl⟩
  · rw [← hreceived] at hfull ⊢
    obtain ⟨k, h⟩ := follow_limit_full execute display commands state rfl (Nat.zero_le n) hfull
    obtain ⟨-, -, hexecutor⟩ := follow_calls execute display commands state (.empty (some n))
    rw [← hempty] at h
    refine ⟨by rw [h.stop]; rfl, h.received, k, h.lt, h.steps, ?_, fun j hj => ?_, h.after⟩
    · rw [hexecutor, h.steps, List.length_map, List.length_take, Nat.min_eq_left h.lt]
    · exact Nat.le_trans (length_printed_take_le display _ hj) h.before

end Runbook.Sequence
