import Runbook.Proofs.Text
import Runbook.Result

/-!
# The two shapes of results

However a process ends and whatever it wrote, its result has one of two shapes: a success shows what
the process wrote to its standard output and nothing else (`Result.SuccessShape`), and a failure
shows nothing on its standard output and something other than blanks on its standard error
(`Result.FailureShape`). The second is what the builders of failures are for
(`Result.ofStatus_shape`, `Result.ofTimeout_shape`).

`Result.ofEnding_normal` says which ending leads to which shape and to which cause, and that the
channel which is dropped has no influence on the result.

As a record of four fields a result does not say why the command failed. For results that have been
built this is no loss: the status and the time limit tell (`Result.Built.record_failure?`), and
different results have different records (`Result.Built.record_inj`).
-/

namespace Runbook

namespace Result

/-- A success that shows `text`. -/
structure SuccessShape (text : Text) (result : Result) : Prop where
  status : result.status = 0
  stdout : result.stdout = text
  stderr : result.stderr = []
  failure : result.failure? = none

/-- A failure with something to read. -/
structure FailureShape (result : Result) : Prop where
  status : result.status ≠ 0
  stdout : result.stdout = []
  stderr : ∃ c ∈ result.stderr, Text.isBlank c = false
  failure : result.failure?.isSome = true

/-- The shapes exclude each other. -/
theorem SuccessShape.not_failureShape {text : Text} {result : Result}
    (h : result.SuccessShape text) : ¬ result.FailureShape := fun h' => h'.status h.status

/-- A result of the first shape counts as a success, and one of the second does not. -/
theorem SuccessShape.isSuccess {text : Text} {result : Result} (h : result.SuccessShape text) :
    result.isSuccess = true := by
  rw [Result.isSuccess, h.failure, Option.isNone_none]

theorem FailureShape.isSuccess {result : Result} (h : result.FailureShape) :
    result.isSuccess = false := by
  rw [Result.isSuccess, ← Option.not_isSome, h.failure, Bool.not_true]

/-- What a success wrote to its standard output is all that it shows. -/
theorem success_shape (stdout : Text) : (success stdout).SuccessShape stdout := ⟨rfl, rfl, rfl, rfl⟩

end Result

/-! ## Builders of failures -/

/-- No failure is told in blank words. -/
theorem Failure.blank_message (cause : Failure) : Text.blank cause.message = false := by
  have exited : Text.blank "command exited with status " = false := by decide +kernel
  have timedOut : Text.blank "command timed out after " = false := by decide +kernel
  cases cause with
  | exited status => exact Text.blank_append_of_left exited _
  | timedOut limit => exact Text.blank_append_of_left timedOut _

namespace Result

/-- A failure with a status: 0 counts as unknown, and blank words are replaced. -/
theorem ofStatus_shape (status : Int) (stderr : Text) : (ofStatus status stderr).FailureShape where
  status := by
    change (if status = 0 then Failure.unknownStatus else status) ≠ 0
    split
    · decide
    · assumption
  stdout := rfl
  stderr := by
    rw [← Text.blank_eq_false_iff]
    simp only [ofStatus, Result.stderr]
    split
    · exact Failure.blank_message _
    · next h => exact Bool.eq_false_iff.mpr h
  failure := rfl

/-- A failure by a time limit has at least the note to show. -/
theorem ofTimeout_shape (limit : Duration) (stderr : Text) :
    (ofTimeout limit stderr).FailureShape where
  status := (by decide : Failure.timeoutStatus ≠ 0)
  stdout := rfl
  stderr := by
    rw [← Text.blank_eq_false_iff]
    exact Text.blank_appendNote stderr (Text.blank_append_of_left (Failure.blank_message _) _)
  failure := rfl

/-- The results that there are: a success, or what one of the builders makes. -/
inductive Built : Result → Prop
  | success (stdout : Text) : Built (success stdout)
  | ofStatus (status : Int) (stderr : Text) : Built (ofStatus status stderr)
  | ofTimeout (limit : Duration) (stderr : Text) : Built (ofTimeout limit stderr)

/-- A result that was built is a success or has the shape of a failure. -/
theorem Built.cases {result : Result} (h : result.Built) :
    (∃ stdout, result = .success stdout) ∨ result.FailureShape := by
  cases h with
  | success stdout => exact .inl ⟨stdout, rfl⟩
  | ofStatus status stderr => exact .inr (ofStatus_shape status stderr)
  | ofTimeout limit stderr => exact .inr (ofTimeout_shape limit stderr)

/-! ## Records -/

@[simp] theorem record_stdout (result : Result) : result.record.stdout = result.stdout := by
  cases result <;> rfl

@[simp] theorem record_stderr (result : Result) : result.record.stderr = result.stderr := by
  cases result <;> rfl

@[simp] theorem record_status (result : Result) : result.record.status = result.status := by
  cases result <;> rfl

/-- The builders of results and those of records make the same. -/
theorem record_ofStatus (status : Int) (stderr : Text) :
    (ofStatus status stderr).record = Record.ofStatus status stderr := by
  unfold ofStatus Record.ofStatus
  dsimp only [record, Failure.status, Failure.limit?, Failure.message]

theorem record_ofTimeout (limit : Duration) (stderr : Text) :
    (ofTimeout limit stderr).record = Record.ofTimeout limit stderr := by
  unfold ofTimeout Record.ofTimeout
  dsimp only [record, Failure.status, Failure.limit?, Failure.message]

/-- The status of a result that has been built tells whether it is a success. -/
theorem Built.record_isSuccess {result : Result} (h : result.Built) :
    result.record.isSuccess = result.isSuccess := by
  rw [Record.isSuccess, record_status]
  rcases h.cases with ⟨stdout, rfl⟩ | hshape
  · rfl
  · rw [hshape.isSuccess]
    exact beq_false_of_ne hshape.status

/-- The status and the time limit of a result that has been built tell why it failed. -/
theorem Built.record_failure? {result : Result} (h : result.Built) :
    result.record.failure? = result.failure? := by
  rw [Record.failure?, h.record_isSuccess]
  cases result with
  | success stdout => rfl
  | failure cause stderr => cases cause <;> rfl

/-- Results that have been built are told by their records. -/
theorem Built.record_inj {result result' : Result} (h : result.Built) (h' : result'.Built)
    (heq : result.record = result'.record) : result = result' := by
  have hfailure : result.failure? = result'.failure? := by
    rw [← h.record_failure?, heq, h'.record_failure?]
  have hstdout : result.stdout = result'.stdout := by rw [← record_stdout, heq, record_stdout]
  have hstderr : result.stderr = result'.stderr := by rw [← record_stderr, heq, record_stderr]
  cases result with
  | success stdout =>
    cases result' with
    | success stdout' => exact congrArg Result.success hstdout
    | failure cause' stderr' => cases hfailure
  | failure cause stderr =>
    cases result' with
    | success stdout' => cases hfailure
    | failure cause' stderr' =>
      obtain rfl : cause = cause' := Option.some.inj hfailure
      exact congrArg (Result.failure cause) hstderr

/-- A status other than 0 is the status of the failure that is built from it. -/
theorem failure?_ofStatus {status : Int} (h : status ≠ 0) (stderr : Text) :
    (ofStatus status stderr).failure? = some (.exited status) := by
  simp only [ofStatus, failure?, if_neg h]

/-! ## Endings -/

section
variable (command : Command) (ending : Ending) (stdout stderr : Text)

/-- A process that ends with the status 0 leaves a success, and every other one a failure. -/
theorem ofEnding_shape :
    (ending = .exited 0 ∧ (ofEnding command ending stdout stderr).SuccessShape stdout) ∨
    (ending ≠ .exited 0 ∧ (ofEnding command ending stdout stderr).FailureShape) := by
  cases ending with
  | exited status =>
    by_cases h : status = 0
    · subst h
      exact .inl ⟨rfl, success_shape stdout⟩
    · rw [ofEnding, if_neg h]
      exact .inr ⟨fun he => h (Ending.exited.inj he), ofStatus_shape status stderr⟩
  | notStarted reason => exact .inr ⟨nofun, ofStatus_shape _ _⟩
  | signalled signal => exact .inr ⟨nofun, ofStatus_shape _ _⟩
  | timedOut => exact .inr ⟨nofun, ofTimeout_shape _ _⟩

end

end Result

/-- The cause of failure that an ending is. -/
def Ending.failure? (command : Command) : Ending → Option Failure
  | .exited status => if status = 0 then none else some (.exited status)
  | .notStarted _ | .signalled _ => some (.exited Failure.unknownStatus)
  | .timedOut => some (.timedOut (command.timeout.getD ⟨0⟩))

/-- Only the end of the time limit is a failure by the time limit. -/
theorem Ending.exists_timedOut_iff (command : Command) (ending : Ending) :
    (∃ limit, ending.failure? command = some (.timedOut limit)) ↔ ending = .timedOut := by
  constructor
  · rintro ⟨limit, h⟩
    cases ending with
    | timedOut => rfl
    | exited status =>
      rw [failure?] at h
      split at h <;> cases h
    | notStarted | signalled => cases h
  · rintro rfl
    exact ⟨_, rfl⟩

/-- Any other ending but the status 0 is a failure by a status. -/
theorem Ending.exists_exited {ending : Ending} (hne : ending ≠ .exited 0)
    (hlimit : ending ≠ .timedOut) (command : Command) :
    ∃ status, ending.failure? command = some (.exited status) := by
  cases ending with
  | timedOut => exact absurd rfl hlimit
  | exited status =>
    have h : status ≠ 0 := fun h => hne (congrArg Ending.exited h)
    exact ⟨status, if_neg h⟩
  | notStarted | signalled => exact ⟨_, rfl⟩

namespace Result

/-- The result of a process has the cause of failure that its ending is, whatever it wrote. -/
theorem failure?_ofEnding (command : Command) (ending : Ending) (stdout stderr : Text) :
    (ofEnding command ending stdout stderr).failure? = ending.failure? command := by
  cases ending with
  | exited status =>
    by_cases h : status = 0
    · simp only [ofEnding, Ending.failure?, if_pos h, failure?]
    · simp only [ofEnding, Ending.failure?, if_neg h, failure?_ofStatus h]
  | notStarted reason => exact failure?_ofStatus (by decide) _
  | signalled signal => exact failure?_ofStatus (by decide) _
  | timedOut => rfl

/-- The status of a failure is the one that stands for its cause. -/
theorem status_of_failure? {result : Result} {cause : Failure} (h : result.failure? = some cause) :
    result.status = cause.status := by
  cases result with
  | success => cases h
  | failure => rw [← Option.some.inj h, status]

/-- The channel that the shape of a result leaves out has no influence on it: the standard error of
a process that ends with the status 0, and the standard output of any other. -/
theorem ofEnding_congr (command : Command) (ending : Ending) (stdout stderr other : Text) :
    (ending = .exited 0 →
      ofEnding command ending stdout other = ofEnding command ending stdout stderr) ∧
    (ending ≠ .exited 0 →
      ofEnding command ending other stderr = ofEnding command ending stdout stderr) := by
  cases ending with
  | exited status =>
    by_cases h : status = 0
    · subst h
      exact ⟨fun _ => rfl, fun hne => absurd rfl hne⟩
    · refine ⟨fun he => absurd (Ending.exited.inj he) h, fun _ => ?_⟩
      rw [ofEnding, ofEnding, if_neg h, if_neg h]
  | notStarted | signalled | timedOut => exact ⟨nofun, fun _ => rfl⟩

/-- However the process of a command ends and whatever it wrote: its result has exactly one of the
two shapes, that of a success just if the process ended with the status 0; it is a failure by the
time limit of the command just if that expired, and then its status is 124; and any other failure is
by its own status, that of the process, or -1 if the process had none. The other channel has no
influence. -/
theorem ofEnding_normal (command : Command) (ending : Ending) (stdout stderr : Text) :
    let result := ofEnding command ending stdout stderr
    ((result.SuccessShape stdout ∧ ¬ result.FailureShape) ∨
      (result.FailureShape ∧ ∀ text, ¬ result.SuccessShape text)) ∧
    (result.isSuccess = true ↔ ending = .exited 0) ∧
    ((∃ limit, result.failure? = some (.timedOut limit)) ↔ ending = .timedOut) ∧
    (ending = .timedOut → result.status = 124 ∧
      ∀ limit, command.timeout = some limit → result.failure? = some (.timedOut limit)) ∧
    (ending ≠ .exited 0 → ending ≠ .timedOut → result.failure? = some (.exited result.status)) ∧
    (∀ status, ending = .exited status → result.status = status) ∧
    (∀ reason, ending = .notStarted reason → result.status = -1) ∧
    (∀ signal, ending = .signalled signal → result.status = -1) ∧
    (ending = .exited 0 → ∀ other, ofEnding command ending stdout other = result) ∧
    (ending ≠ .exited 0 → ∀ other, ofEnding command ending other stderr = result) := by
  intro result
  have hcause : result.failure? = ending.failure? command := failure?_ofEnding ..
  have hstatus : ∀ cause, ending.failure? command = some cause → result.status = cause.status :=
    fun cause h => status_of_failure? (hcause.trans h)
  have hshape := ofEnding_shape command ending stdout stderr
  rw [hcause]
  refine ⟨?shapes, ?success, ?timedOut, ?limit, ?exited, ?status, fun reason h => ?notStarted,
    fun signal h => ?signalled,
    fun h other => (ofEnding_congr command ending stdout stderr other).1 h,
    fun h other => (ofEnding_congr command ending stdout stderr other).2 h⟩
  case shapes =>
    rcases hshape with ⟨-, h⟩ | ⟨-, h⟩
    · exact .inl ⟨h, h.not_failureShape⟩
    · exact .inr ⟨h, fun text h' => h'.not_failureShape h⟩
  case success =>
    rcases hshape with ⟨rfl, h⟩ | ⟨hne, h⟩
    · exact ⟨fun _ => rfl, fun _ => h.isSuccess⟩
    · exact ⟨fun h' => absurd h' (by rw [h.isSuccess]; decide), fun h' => absurd h' hne⟩
  case timedOut => exact Ending.exists_timedOut_iff command ending
  case limit =>
    rintro rfl
    refine ⟨hstatus _ rfl, fun limit h => ?_⟩
    rw [Ending.failure?, h, Option.getD_some]
  case exited =>
    intro hne hlimit
    obtain ⟨status, h⟩ := Ending.exists_exited hne hlimit command
    rw [hstatus _ h, h, Failure.status]
  case status =>
    rintro status rfl
    by_cases h : status = 0
    · subst h
      rfl
    · exact hstatus (.exited status) (if_neg h)
  case notStarted => exact hstatus (.exited Failure.unknownStatus) (by rw [h]; rfl)
  case signalled => exact hstatus (.exited Failure.unknownStatus) (by rw [h]; rfl)

end Result

end Runbook
